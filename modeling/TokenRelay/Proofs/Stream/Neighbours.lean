import TokenRelay.Proofs.Stream.Outage
import TokenRelay.Proofs.Stream.Renewal

/-!
# Streams of other topics

A connector is shared by services of many topics.  `Store.Spares` says that a change is of
one topic's concern: the streams of other names are as they were, and so is what is bound to
them.  Where ids tell streams apart, everything that a service does for its topic spares the
others, however many of its requests fail.
-/

namespace TokenRelay

open Reconcile (bound)
open SubscriptionName (pack basePool)
open TokenRelay.Stream (Wish)

variable {store middle after : Store} {topic instancePath id : String}
  {stream existing renewed : EventStream}

namespace Store

/-- A change that leaves the streams of other topics, and what is bound to them. -/
structure Spares (topic : String) (store after : Store) : Prop where
  /-- Ids still tell streams apart. -/
  identified : (after.streams.map (·.id)).Nodup
  streams : after.streams.filter (·.name ≠ topic) = store.streams.filter (·.name ≠ topic)
  bindings : ∀ stream ∈ store.streams, stream.name ≠ topic →
    bound after stream = bound store stream

namespace Spares

theorem refl (topic : String) (identified : (store.streams.map (·.id)).Nodup) :
    Spares topic store store :=
  ⟨identified, rfl, fun _ _ _ => rfl⟩

theorem trans (first : Spares topic store middle) (second : Spares topic middle after) :
    Spares topic store after := by
  refine ⟨second.identified, second.streams.trans first.streams, ?_⟩
  intro stream member other
  have stays : stream ∈ middle.streams := by
    have listed : stream ∈ store.streams.filter (·.name ≠ topic) := by
      simpa using And.intro member other
    rw [← first.streams] at listed
    exact List.mem_of_mem_filter listed
  exact (second.bindings stream stays other).trans (first.bindings stream member other)

end Spares

/-! ## Single changes -/

section Changes

variable (identified : (store.streams.map (·.id)).Nodup)

include identified

theorem spares_exchange (named : existing.name = topic) (same : renewed.id = existing.id)
    (kept : renewed.name = topic) : Spares topic store (store.exchange existing renewed) := by
  refine ⟨by rwa [ids_exchange same], ?_, fun _ _ _ => rfl⟩
  have preserved : (fun other : EventStream => decide (other.name ≠ topic)) ∘
      (fun other => if other = existing then renewed else other) =
      fun other => decide (other.name ≠ topic) := by
    funext other
    by_cases equal : other = existing
    · simp [equal, named, kept]
    · simp [equal]
  rw [exchange, List.filter_map, preserved]
  refine (List.map_congr_left ?_).trans (List.map_id _)
  intro other member
  have foreign := List.of_mem_filter member
  have different : other ≠ existing := by
    rintro rfl
    simp [named] at foreign
  exact if_neg different

theorem spares_addStream (fresh : store.Fresh stream.id) (named : stream.name = topic) :
    Spares topic store (store.addStream stream) := by
  refine ⟨nodup_map_append identified fresh.ofStreams, ?_, fun _ _ _ => rfl⟩
  simp [addStream, List.filter_append, named]

theorem spares_removeStream (found : store.topicStream? topic = some stream) :
    Spares topic store (store.removeStream stream.id) := by
  refine ⟨identified.sublist (List.filter_sublist.map _),
    Reconcile.filter_streams_removeStream identified found, ?_⟩
  intro other member named
  have present := mem_of_topicStream? found
  have different : other.id ≠ stream.id := by
    intro same
    obtain rfl := List.inj_on_of_nodup_map identified member present.1 same
    exact named present.2
  rw [bound, bound, removeStream, List.filter_filter]
  apply List.filter_congr
  intro subscription _
  by_cases own : subscription.stream = other.id
  · simp [own, different]
  · simp [own]

theorem spares_subscribe {wish : Wish} (owner : stream ∈ store.streams)
    (named : stream.name = topic) (wished : wish.stream = stream.id) :
    Spares topic store (store.subscribe (wish.made id)) := by
  refine ⟨identified, rfl, ?_⟩
  intro other member foreign
  have different : stream.id ≠ other.id := by
    intro same
    obtain rfl := List.inj_on_of_nodup_map identified owner member same
    exact foreign named
  simp [bound, subscribe, Wish.made, wished, different]

end Changes

/-! ## A baseline -/

/-- A stream of the id and the topic's name. -/
def Has (store : Store) (topic id : String) : Prop :=
  ∃ stream ∈ store.streams, stream.id = id ∧ stream.name = topic

theorem Provides.has (provides : store.Provides topic id after) : after.Has topic id := by
  cases provides with
  | @renewed existing renewed there named same kept =>
      refine ⟨renewed, ?_, same, kept⟩
      rw [exchange, List.mem_map]
      exact ⟨existing, there, if_pos rfl⟩
  | @created stream vacant fresh named =>
      exact ⟨stream, List.mem_append_right _ List.mem_cons_self, rfl, named⟩

theorem Gains.streams {wish : Wish} (gains : store.Gains wish after) :
    after.streams = store.streams := by
  cases gains <;> rfl

theorem Gains.exists_mem {wish : Wish} (gains : store.Gains wish after) :
    ∃ subscription ∈ after.subscriptions,
      subscription.name = wish.name ∧ subscription.stream = wish.stream := by
  cases gains with
  | listed there met => exact ⟨_, there, (wish.isMetBy_iff _).1 met⟩
  | made => exact ⟨_, List.mem_append_right _ List.mem_cons_self, rfl, rfl⟩

/-- A baseline that was made is there: the stream, and the base subscription on it. -/
theorem Begun.based_of_ok (begun : store.Begun topic instancePath (.ok stream) after) :
    after.Has topic stream.id ∧
      ∃ base ∈ after.subscriptions,
        base.name = pack topic basePool none ∧ base.stream = stream.id := by
  cases begun with
  | based provides gains =>
      refine ⟨?_, gains.exists_mem⟩
      rw [Has, gains.streams]
      exact provides.has

section Identified

variable (identified : (store.streams.map (·.id)).Nodup)

include identified

theorem Provides.spares (provides : store.Provides topic id after) :
    Spares topic store after := by
  cases provides with
  | renewed _ named same kept => exact spares_exchange identified named same kept
  | created _ fresh named => exact spares_addStream identified fresh named

theorem Gains.spares {wish : Wish} (gains : store.Gains wish after)
    (has : store.Has topic wish.stream) : Spares topic store after := by
  cases gains with
  | listed => exact .refl topic identified
  | made =>
      rcases has with ⟨stream, owner, same, named⟩
      exact spares_subscribe identified owner named same.symm

/-- Making a baseline spares the other topics, also where it fails. -/
theorem Begun.spares {made : Except BridgeError EventStream}
    (begun : store.Begun topic instancePath made after) : Spares topic store after := by
  cases begun with
  | undone => exact .refl topic identified
  | bare provides => exact provides.spares identified
  | based provides gains =>
      have spares := provides.spares identified
      exact spares.trans (gains.spares spares.identified provides.has)

end Identified

end Store

/-- Reconciliation spares the other topics, also where it fails. -/
theorem Reconcile.EndsIn.spares (identified : (store.streams.map (·.id)).Nodup)
    {result : Except BridgeError Reconcile.Result}
    (ends : Reconcile.EndsIn store topic instancePath result after) :
    store.Spares topic after := by
  cases ends with
  | undone => exact .refl topic identified
  | left => exact .refl topic identified
  | removed found begun =>
      have spares := Store.spares_removeStream identified found
      exact spares.trans (begun.spares spares.identified)

end TokenRelay
