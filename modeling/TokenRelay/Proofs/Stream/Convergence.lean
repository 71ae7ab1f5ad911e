import TokenRelay.Proofs.Stream.Rivals

/-!
# Wishes that are met in the end

While wishes are met side by side some requests may fail, and some of the procedures be given
up.  Then there is, besides what there was before, one subscription for each of some of the
wishes that nothing had met.  Whoever tries again lists them and leaves them as they are, so
that all attempts together are like one that was interrupted less often.  Once one succeeds,
just what had been missing was added.
-/

namespace TokenRelay

open Procedure (Turns)
open Store (Treats beside)
open TokenRelay.Stream (Wish meeting)

variable {σ : Type} {client : Client} {wish : Wish} {wishes : Set Wish} {asked : List Wish}
  {origin store after : Store} {log : List (Nat × Request)}
  {left : List (Procedure Outcome σ (Except BridgeError Subscription))}

namespace Stream

/-- Wishes that are for the same stream if they are of the same name. -/
def Coherent (wishes : Set Wish) : Prop :=
  ∀ own ∈ wishes, ∀ other ∈ wishes, own.name = other.name → own.stream = other.stream

/-- One who meets a wish among others, and has it met in the end unless that failed. -/
def duty (wish : Wish) : Duty (Except BridgeError Subscription) Store where
  conduct := beside wish
  ends result now := (∃ subscription, result = .ok subscription) → ¬ now.Unmet wish

end Stream

namespace Store

/--
A store that has, besides what another one has, what was made for some of the wishes that
nothing met there, only once for each name.
-/
structure Supplements (wishes : Set Wish) (origin store : Store) : Prop where
  streams : store.streams = origin.streams
  subscriptions : ∃ added, store.subscriptions = origin.subscriptions ++ added ∧
    (added.map (·.name)).Nodup ∧
    ∀ subscription ∈ added, ∃ wish ∈ wishes, origin.Unmet wish ∧
      ∃ id, subscription = wish.made id

namespace Supplements

theorem refl (wishes : Set Wish) (store : Store) : Supplements wishes store store :=
  ⟨rfl, [], by simp, List.nodup_nil, nofun⟩

theorem mono {more : Set Wish} (supplements : Supplements wishes origin store)
    (among : wishes ⊆ more) : Supplements more origin store := by
  obtain ⟨added, there, distinct, made⟩ := supplements.subscriptions
  refine ⟨supplements.streams, added, there, distinct, ?_⟩
  intro subscription member
  obtain ⟨wish, wished, goes⟩ := made subscription member
  exact ⟨wish, among wished, goes⟩

theorem unmet (supplements : Supplements wishes origin store) (unmet : store.Unmet wish) :
    origin.Unmet wish := by
  obtain ⟨added, there, -⟩ := supplements.subscriptions
  intro subscription member
  exact unmet subscription (there ▸ List.mem_append_left _ member)

/-- What is added under the name of a wish meets it. -/
theorem isMetBy_of_name {added : List Subscription} (coherent : Stream.Coherent wishes)
    (wished : wish ∈ wishes)
    (made : ∀ subscription ∈ added, ∃ wish ∈ wishes, origin.Unmet wish ∧
      ∃ id, subscription = wish.made id) :
    ∀ subscription ∈ added,
      wish.isMetBy subscription = true ↔ subscription.name = wish.name := by
  intro subscription member
  obtain ⟨other, among, -, id, rfl⟩ := made subscription member
  rw [wish.isMetBy_iff]
  constructor
  · exact And.left
  · intro named
    exact ⟨named, coherent other among wish wished named⟩

/-- What is made for a wish that is unmet is added once. -/
theorem subscribe (supplements : Supplements wishes origin store)
    (coherent : Stream.Coherent wishes) (wished : wish ∈ wishes) (unmet : store.Unmet wish)
    (id : String) : Supplements wishes origin (store.subscribe (wish.made id)) := by
  have vacant := supplements.unmet unmet
  obtain ⟨added, there, distinct, made⟩ := supplements.subscriptions
  refine ⟨supplements.streams, added ++ [wish.made id], ?_, ?_, ?_⟩
  · rw [Store.subscribe, there, List.append_assoc]
  · apply nodup_map_append distinct
    intro other member named
    apply unmet other (there ▸ List.mem_append_right _ member)
    exact (isMetBy_of_name coherent wished made other member).2 named
  · rw [List.forall_mem_append, List.forall_mem_singleton]
    exact ⟨made, wish, wished, vacant, id, rfl⟩

/-- A wish that nothing met at first is met by one subscription, if by any. -/
theorem countP_eq_one (supplements : Supplements wishes origin store)
    (coherent : Stream.Coherent wishes) (wished : wish ∈ wishes) (vacant : origin.Unmet wish)
    (met : ¬ store.Unmet wish) : store.subscriptions.countP wish.isMetBy = 1 := by
  obtain ⟨added, there, distinct, made⟩ := supplements.subscriptions
  have named := isMetBy_of_name coherent wished made
  have before : origin.subscriptions.countP wish.isMetBy = 0 := List.countP_eq_zero.2 vacant
  have some : wish.name ∈ added.map (·.name) := by
    rw [Unmet] at met
    push Not at met
    obtain ⟨subscription, member, meets⟩ := met
    rw [there, List.mem_append] at member
    rcases member with old | new
    · exact absurd meets (vacant subscription old)
    · exact List.mem_map.2 ⟨subscription, new, (named subscription new).1 meets⟩
  have counted : added.countP wish.isMetBy = (added.map (·.name)).count wish.name := by
    rw [List.count, List.countP_map]
    apply List.countP_congr
    intro subscription member
    rw [named subscription member]
    simp
  rw [there, List.countP_append, before, counted, Nat.zero_add]
  exact List.count_eq_one_of_mem distinct some

end Supplements

end Store

namespace Stream

/-- Whoever meets a wish leaves one of another name to whoever meets that. -/
theorem duty_allows {own other : Wish} (distinct : own.name ≠ other.name) :
    (duty own).Allows (duty other) where
  suits := Store.suits_beside distinct
  leaves := by
    rintro result before after (rfl | ⟨id, -, rfl⟩) ends
    · exact ends
    · intro ended unmet
      exact ends ended fun subscription member => unmet subscription (List.mem_append_left _ member)

theorem shared_duties (distinct : (asked.map (·.name)).Nodup) (store : Store) :
    Duty.Shared Treats (asked.map duty)
      (asked.map (meeting client : Wish → Procedure Outcome σ _)) store where
  allowed := by
    rw [List.pairwise_map]
    refine (List.pairwise_map.1 distinct).imp ?_
    intro own other different
    exact ⟨duty_allows different, duty_allows different.symm⟩
  met := by
    rw [List.forall₂_map_left_iff, List.forall₂_map_right_iff, List.forall₂_same]
    intro wish _
    exact assures_getOrCreateSubscription_beside wish

/--
Wishes of different names that are met side by side only supplement a store, wherever each of
the procedures stops; those that ended well have met their wishes.
-/
theorem supplements_of_turns (coherent : Coherent wishes)
    (wished : ∀ wish ∈ asked, wish ∈ wishes)
    (distinct : (asked.map (·.name)).Nodup) (supplements : Store.Supplements wishes origin store)
    (turns : Turns Treats (asked.map (meeting client : Wish → Procedure Outcome σ _)) store
      log left after) :
    Store.Supplements wishes origin after ∧
      List.Forall₂ (fun wish procedure =>
        (∃ subscription, procedure = .done (.ok subscription)) → ¬ after.Unmet wish)
        asked left := by
  have kept : ∀ own ∈ asked.map duty, ∀ before after, own.conduct.guarantees before after →
      Store.Supplements wishes origin before → Store.Supplements wishes origin after := by
    rw [List.forall_mem_map]
    rintro wish member before after (rfl | ⟨id, unmet, rfl⟩) supplements
    · exact supplements
    · exact supplements.subscribe coherent (wished wish member) unmet id
  obtain ⟨supplemented, shared⟩ := (shared_duties distinct store).turns kept supplements turns
  refine ⟨supplemented, ?_⟩
  apply (List.forall₂_map_left_iff.1 shared.met).imp
  rintro wish _ met ⟨subscription, rfl⟩
  exact met ⟨subscription, rfl⟩

end Stream

end TokenRelay
