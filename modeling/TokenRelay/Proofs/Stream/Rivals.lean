import TokenRelay.Proofs.Connector.Duties
import TokenRelay.Proofs.Stream.Outage
import TokenRelay.Proofs.Stream.Wishes

/-!
# Order kept by tasks that may stop

A task that nobody comes in between keeps the store orderly however far it gets.  Wishes that
are met side by side each list the subscriptions before they ask for their own, and by then
the list may be out of date.  What it said of one wish still holds, because the others only
add subscriptions of other names.
-/

namespace TokenRelay

open Client (Handles)
open Procedure (Agree Party Proceeds)
open Store (Treats alone)
open TokenRelay.Stream (Wish listSubscriptions getOrCreateSubscription meeting)

variable {σ α : Type} {client : Client} {store after : Store}

namespace Store

/-- The conduct of one who meets a wish among others that meet other wishes. -/
def beside (wish : Wish) : Conduct Store where
  relies before after := before.Unmet wish → after.Unmet wish
  guarantees before after :=
    after = before ∨ ∃ id, before.Unmet wish ∧ after = before.subscribe (wish.made id)
  refl _ := id
  trans first second := second ∘ first

theorem tidies_of_beside {wish : Wish} (guaranteed : (beside wish).guarantees store after) :
    store.Tidies after := by
  rcases guaranteed with rfl | ⟨id, unmet, rfl⟩
  · exact id
  · exact tidies_subscribe unmet id

/-- What was made for a wish meets it. -/
theorem not_unmet_subscribe (wish : Wish) (id : String) :
    ¬ (store.subscribe (wish.made id)).Unmet wish := by
  intro unmet
  exact unmet _ (List.mem_append_right _ List.mem_cons_self) ((wish.isMetBy_iff _).2 ⟨rfl, rfl⟩)

/-- Whoever meets a wish does not meet one of another name. -/
theorem suits_beside {own other : Wish} (distinct : own.name ≠ other.name) :
    (beside own).Suits (beside other) := by
  rintro before after (rfl | ⟨id, -, rfl⟩) unmet
  · exact unmet
  · intro subscription member
    rw [subscribe, List.mem_append, List.mem_singleton] at member
    rcases member with there | rfl
    · exact unmet subscription there
    · intro met
      exact distinct ((other.isMetBy_iff _).1 met).1

end Store

namespace Stream

open Store (beside)

theorem handles_listing_beside (wish : Wish) :
    Handles Treats (beside wish) listSubscriptions (fun _ => True) fun outcome now =>
      ∃ known, outcome.Gives (.list Subscription.codec) known ∧ known = now.subscriptions where
  steady _ _ _ _ := trivial
  guaranteed := by
    intro before outcome after _ treats
    cases treats with
    | failed => exact .inl rfl
    | done does => exact .inl does.of_subscriptions.2
  settles := by
    intro before outcome after _ treats
    cases treats with
    | failed fails => exact .inl ⟨fails, trivial⟩
    | done does =>
        rcases does.of_subscriptions with ⟨gives, rfl⟩
        exact .inr ⟨gives.succeeds, _, gives, rfl⟩

theorem handles_wish_beside (wish : Wish) :
    Handles Treats (beside wish) wish.request (·.Unmet wish) fun outcome now =>
      ∃ told, outcome.Gives Subscription.codec told ∧ ¬ now.Unmet wish where
  steady before after unmet others := others unmet
  guaranteed := by
    intro before outcome after unmet treats
    cases treats with
    | failed => exact .inl rfl
    | done does =>
        rcases does.of_wish with ⟨id, -, -, -, made⟩
        exact .inr ⟨id, unmet, made⟩
  settles := by
    intro before outcome after unmet treats
    cases treats with
    | failed fails => exact .inl ⟨fails, unmet⟩
    | done does =>
        rcases does.of_wish with ⟨id, told, -, gives, rfl⟩
        exact .inr ⟨gives.succeeds, told, gives, Store.not_unmet_subscribe wish id⟩

/--
A wish is asked for only while nothing meets it, whatever the others do meanwhile, and it is met
in the end unless that failed.
-/
theorem assures_getOrCreateSubscription_beside (wish : Wish) :
    client.Assures Treats (beside wish) (getOrCreateSubscription wish : Task σ _)
      (fun result now => (∃ subscription, result = .ok subscription) → ¬ now.Unmet wish)
      store := by
  refine (Client.assures_bind_iff _ _ _).2 ?_
  refine Client.assures_sendFor (handles_listing_beside wish) (fun _ _ _ => nofun) ?_ trivial
  rintro known now rfl
  rw [Task.resume]
  -- the list is of this moment; only that nothing met the wish then is relied on later
  cases there : now.subscriptions.find? wish.isMetBy with
  | some existing =>
      refine (Client.assures_pure_iff _ _).2 fun _ unmet => ?_
      exact unmet existing (List.mem_of_find?_eq_some there) (List.find?_some there)
  | none =>
      have unmet : now.Unmet wish := List.find?_eq_none.1 there
      exact Client.assures_sendFor (handles_wish_beside wish) (fun _ _ _ => nofun)
        (fun _ _ met _ => met) unmet

/-- One who meets a wish among others. -/
def rival (client : Client) (wish : Wish) :
    Party Outcome σ (Except BridgeError Subscription) Store :=
  (beside wish, meeting client wish)

end Stream

/-! ## However far they get -/

/-- A procedure that nobody comes in between keeps order, wherever it stops. -/
theorem Store.tidies_of_alone {procedure : Procedure Outcome σ α}
    (ensures : procedure.Ensures Treats alone (fun _ _ => True) store)
    (proceeds : Proceeds Treats [procedure] store after) : store.Tidies after := by
  intro orderly
  have agree : Agree Treats [(alone, procedure)] store :=
    ⟨List.pairwise_singleton _ _, by simpa using ensures⟩
  refine agree.keeps ?_ orderly proceeds
  intro conduct member before after guaranteed
  obtain rfl := List.mem_singleton.1 member
  exact guaranteed

/-- Wishes of different names that are met side by side keep order, wherever each stops. -/
theorem Store.tidies_of_wishes {wishes : List Wish} (distinct : (wishes.map (·.name)).Nodup)
    (proceeds : Proceeds Treats
      (wishes.map (meeting client : Wish → Procedure Outcome σ _)) store after) :
    store.Tidies after := by
  intro orderly
  have agree :
      Agree Treats (wishes.map (Stream.rival client : Wish → Party Outcome σ _ Store)) store := by
    constructor
    · rw [List.map_map, List.pairwise_map]
      refine (List.pairwise_map.1 distinct).imp ?_
      intro own other different
      exact ⟨suits_beside different, suits_beside different.symm⟩
    · intro one member
      rcases List.mem_map.1 member with ⟨wish, -, rfl⟩
      exact (Stream.assures_getOrCreateSubscription_beside wish).mono fun _ _ _ => trivial
  refine agree.keeps ?_ orderly (by simpa [Stream.rival, Function.comp_def] using proceeds)
  intro conduct member before after guaranteed
  rw [List.map_map] at member
  rcases List.mem_map.1 member with ⟨wish, -, rfl⟩
  exact tidies_of_beside guaranteed

end TokenRelay
