import TokenRelay.Proofs.Stream.Overlap
import TokenRelay.Proofs.Token.Duplicates

/-!
# Activations at the same time

Any number of pools are activated on one service at the same time, and the requests of all
branches of all activations reach the connector in any order.  Under different texts no two
of them wish for the same name, and the store stays orderly.  Two activations under the same
text make duplicates exactly if they overlap.
-/

namespace TokenRelay.Service

open Procedure (Turns)
open Reconcile (onceClient)
open TokenRelay.Stream (Wish Overlap Subscribing listSubscriptions getOrCreateSubscription)

variable {σ : Type} {client : Client} {service : Service} {activations : List ActivatePool}
  {origin store : Store} {asked : List (Nat × Request)} {left : List (Subscribing σ)}

/-- The tasks of an activation, none if it is refused. -/
def branches (service : Service) (activation : ActivatePool) : List (Task σ Subscription) :=
  match service.activation activation with
  | .ok tasks => tasks
  | .error _ => []

/-- The procedures of all activations. -/
def activating (client : Client) (service : Service) (activations : List ActivatePool) :
    List (Subscribing σ) :=
  (activations.flatMap service.branches).map fun task => client.perform task.run

/-- The wishes of an activation, none if it is refused. -/
def acceptedWishes (service : Service) (activation : ActivatePool) : List Wish :=
  if (Pool.ofText? activation.poolId).isSome then service.wishes activation else []

/-- The wishes of all activations. -/
def allWishes (service : Service) (activations : List ActivatePool) : List Wish :=
  activations.flatMap service.acceptedWishes

theorem branches_eq (service : Service) (activation : ActivatePool) :
    (service.branches activation : List (Task σ Subscription)) =
      (service.acceptedWishes activation).map getOrCreateSubscription := by
  unfold branches acceptedWishes Service.activation
  cases Pool.ofText? activation.poolId with
  | none => rfl
  | some pool => simp [wishes]

theorem activating_eq (client : Client) (service : Service)
    (activations : List ActivatePool) :
    (activating client service activations : List (Subscribing σ)) =
      (service.allWishes activations).map (Stream.meeting client) := by
  have branches : (service.branches : ActivatePool → List (Task σ Subscription)) =
      fun activation => (service.acceptedWishes activation).map getOrCreateSubscription :=
    funext (branches_eq service)
  rw [activating, allWishes, branches, List.map_flatMap, List.map_flatMap]
  simp only [List.map_map]
  rfl

/-! ## Different texts -/

/-- A name is wished for by activations under one text only. -/
theorem poolId_of_name {first second : ActivatePool} {name : String}
    (one : name ∈ (service.acceptedWishes first).map (·.name))
    (other : name ∈ (service.acceptedWishes second).map (·.name)) :
    first.poolId = second.poolId := by
  have reads (activation : ActivatePool)
      (wished : name ∈ (service.acceptedWishes activation).map (·.name)) :
      (SubscriptionName.unpack service.config.topic name).pool = some activation.poolId := by
    unfold acceptedWishes at wished
    split_ifs at wished with known
    · obtain ⟨pool, spells⟩ := Option.isSome_iff_exists.1 known
      have segment := ((Pool.ofText?_eq_some_iff _ _).1 spells).isSegment
      rw [wishes, List.map_map] at wished
      obtain ⟨event, -, rfl⟩ := List.mem_map.1 wished
      exact congrArg SubscriptionName.pool
        (SubscriptionName.unpack_pack_event _ segment event.isSegment_name)
    · cases wished
  exact Option.some.inj ((reads first one).symm.trans (reads second other))

/-- Activations under different texts wish for different names. -/
theorem nodup_names_allWishes (apart : (activations.map (·.poolId)).Nodup) :
    ((service.allWishes activations).map (·.name)).Nodup := by
  rw [allWishes, List.map_flatMap, List.nodup_flatMap]
  constructor
  · intro activation _
    unfold acceptedWishes
    split_ifs
    · exact nodup_names_wishes service activation
    · exact .nil
  · apply (List.pairwise_map.1 apart).imp
    intro first second different name one other
    exact different (poolId_of_name one other)

/--
Activations at the same time leave an orderly store orderly exactly if no two of their wishes
overlap, which those under different texts never do.
-/
theorem activations_orderly_iff (orderly : origin.Orderly)
    (turns : Turns Store.Answers (activating client service activations) origin asked left
      store) :
    (store.Orderly ↔ ¬ Overlap (service.allWishes activations) asked) ∧
      ((activations.map (·.poolId)).Nodup → store.Orderly) := by
  rw [activating_eq] at turns
  have exactly := Stream.orderly_iff_not_overlap orderly turns
  constructor
  · exact exactly
  · intro apart
    exact exactly.2 (Stream.not_overlap_of_nodup (nodup_names_allWishes apart))

/-! ## Two activations of one pool -/

/-- The store after a pool was activated twice at the same time. -/
def doubledStore : Store :=
  ((pooledStore.subscribe ((pooledWish .create).made "sb-5")).subscribe
    ((pooledWish .single).made "sb-6")).subscribe ((pooledWish .batch).made "sb-7")

/-- The requests of two activations, each of which lists before the other one creates. -/
def doubledRequests : List (Nat × Request) :=
  [(0, listSubscriptions), (1, listSubscriptions), (2, listSubscriptions),
    (3, listSubscriptions), (4, listSubscriptions), (5, listSubscriptions),
    (0, (pooledWish .create).request), (1, (pooledWish .single).request),
    (2, (pooledWish .batch).request), (3, (pooledWish .create).request),
    (4, (pooledWish .single).request), (5, (pooledWish .batch).request)]

/-- What the branches of the two activations come to. -/
def doubledResults : List (Except BridgeError Subscription) :=
  [.ok ((pooledWish .create).made "sb-2"), .ok ((pooledWish .single).made "sb-3"),
    .ok ((pooledWish .batch).made "sb-4"), .ok ((pooledWish .create).made "sb-5"),
    .ok ((pooledWish .single).made "sb-6"), .ok ((pooledWish .batch).made "sb-7")]

theorem turns_doubled :
    Turns Store.Answers
      (activating onceClient pooledService [pooledActivation, pooledActivation] :
        List (Subscribing Unit)) begunStore doubledRequests (doubledResults.map .done)
      doubledStore := by
  have lists : (Outcome.carrying (.list Subscription.codec) begunStore.subscriptions).Gives
      (.list Subscription.codec) begunStore.subscriptions := ⟨_, rfl, rfl, rfl⟩
  have tells (event : PoolEvent) (id : String) :
      (Outcome.carrying Subscription.codec ((pooledWish event).made id)).Gives
        Subscription.codec ((pooledWish event).made id) := by
    cases event <;> exact ⟨_, rfl, rfl, rfl⟩
  have begun : Turns Store.Answers
      (activating onceClient pooledService [pooledActivation, pooledActivation] :
        List (Subscribing Unit)) begunStore [] _ begunStore := .start
  have first := Client.turn_of_call begun 0 rfl rfl (.subscriptions lists)
  have second := Client.turn_of_call first 1 rfl rfl (.subscriptions lists)
  have third := Client.turn_of_call second 2 rfl rfl (.subscriptions lists)
  have fourth := Client.turn_of_call third 3 rfl rfl (.subscriptions lists)
  have fifth := Client.turn_of_call fourth 4 rfl rfl (.subscriptions lists)
  have listed := Client.turn_of_call fifth 5 rfl rfl (.subscriptions lists)
  have create := Client.turn_of_call listed 0 rfl rfl
    (.subscribed (pooledWish .create) "sb-2" (by decide) (tells .create "sb-2"))
  have single := Client.turn_of_call create 1 rfl rfl
    (.subscribed (pooledWish .single) "sb-3" (by decide) (tells .single "sb-3"))
  have batch := Client.turn_of_call single 2 rfl rfl
    (.subscribed (pooledWish .batch) "sb-4" (by decide) (tells .batch "sb-4"))
  have createAgain := Client.turn_of_call batch 3 rfl rfl
    (.subscribed (pooledWish .create) "sb-5" (by decide) (tells .create "sb-5"))
  have singleAgain := Client.turn_of_call createAgain 4 rfl rfl
    (.subscribed (pooledWish .single) "sb-6" (by decide) (tells .single "sb-6"))
  have batchAgain := Client.turn_of_call singleAgain 5 rfl rfl
    (.subscribed (pooledWish .batch) "sb-7" (by decide) (tells .batch "sb-7"))
  exact batchAgain

/-- Both activations succeed, and each of their subscriptions is there twice. -/
theorem activations_orderly_iff_of_doubled :
    begunStore.Orderly ∧
      Turns Store.Answers
        (activating onceClient pooledService [pooledActivation, pooledActivation] :
          List (Subscribing Unit)) begunStore doubledRequests (doubledResults.map .done)
        doubledStore ∧
      Overlap (pooledService.allWishes [pooledActivation, pooledActivation])
        doubledRequests ∧
      ¬ doubledStore.Orderly := by
  have orderly : begunStore.Orderly := ⟨by decide, by decide⟩
  have overlap : Overlap (pooledService.allWishes [pooledActivation, pooledActivation])
      doubledRequests := by
    refine ⟨3, 0, pooledWish .create, pooledWish .create, by decide, rfl, rfl, ⟨rfl, rfl⟩, ?_⟩
    refine .cons _ (.cons _ (.cons _ (.cons_cons _ ?_)))
    refine .cons _ (.cons _ (.cons_cons _ ?_))
    exact .cons _ (.cons _ (.cons_cons _ (List.nil_sublist _)))
  refine ⟨orderly, turns_doubled, overlap, ?_⟩
  intro doubled
  exact (activations_orderly_iff orderly turns_doubled).1.1 doubled overlap

end TokenRelay.Service
