import TokenRelay.Proofs.Stream.Convergence
import TokenRelay.Proofs.Stream.Overlap
import TokenRelay.Proofs.Token.Duplicates

/-!
# Activations that are repeated

The branches of an activation list the subscriptions and then create what they miss, side by
side, and the first of them that fails has the others given up.  An activation that did not
succeed is repeated, perhaps from another block.  What earlier ones have made stays as it is; so
after one that succeeds there is just one subscription for each event that had none at first.
-/

namespace TokenRelay.Service

open Procedure (Turns)
open Reconcile (onceClient)
open Store (Treats Supplements)
open TokenRelay.Stream (Wish Subscribing Coherent meeting getOrCreateSubscription)

variable {σ : Type} {client : Client} {service : Service} {activation : ActivatePool}
  {earlier : List ActivatePool} {tasks : List (Task σ Subscription)}
  {origin store after : Store} {log : List (Nat × Request)} {left : List (Subscribing σ)}

/-- What is wished for by some activations. -/
def wished (service : Service) (activations : List ActivatePool) : Set Wish :=
  {wish | ∃ activation ∈ activations, wish ∈ service.wishes activation}

/--
What a store may come to by activations on a service one after another, the last one first.  Each
goes on as far as it gets.
-/
inductive Attempts (σ : Type) (client : Client) (service : Service) (origin : Store) :
    List ActivatePool → Store → Prop where
  | none : Attempts σ client service origin [] origin
  | activate {earlier : List ActivatePool} {store after : Store} {activation : ActivatePool}
      {tasks : List (Task σ Subscription)} {log : List (Nat × Request)}
      {left : List (Subscribing σ)} (attempts : Attempts σ client service origin earlier store)
      (accepted : service.activation activation = .ok tasks)
      (turns : Turns Treats (tasks.map fun task => client.perform task.run) store log left
        after) :
      Attempts σ client service origin (activation :: earlier) after

/-- One more activation wishes for no less. -/
theorem wished_subset_cons (service : Service) (activation : ActivatePool)
    (earlier : List ActivatePool) :
    service.wished earlier ⊆ service.wished (activation :: earlier) :=
  fun _ ⟨other, member, wishes⟩ => ⟨other, List.mem_cons_of_mem _ member, wishes⟩

/-- All wishes are for the stream of the service. -/
theorem coherent_wished (service : Service) (activations : List ActivatePool) :
    Coherent (service.wished activations) := by
  have bound : ∀ wish ∈ service.wished activations, wish.stream = service.stream.id := by
    rintro wish ⟨activation, -, wishes⟩
    obtain ⟨event, -, rfl⟩ := List.mem_map.1 wishes
    rfl
  intro own ownWished other otherWished _
  rw [bound own ownWished, bound other otherWished]

/--
One more activation supplements a store by what it wishes for, and meets all of that if it ends
well.
-/
theorem supplements_activation
    (supplements : Supplements (service.wished earlier) origin store)
    (accepted : service.activation activation = .ok tasks)
    (turns : Turns Treats (tasks.map fun task => client.perform task.run) store log left
      after) :
    Supplements (service.wished (activation :: earlier)) origin after ∧
      ∀ subscriptions : List Subscription,
        left = subscriptions.map (fun subscription => .done (.ok subscription)) →
          ∀ wish ∈ service.wishes activation, ¬ after.Unmet wish := by
  obtain ⟨-, rfl⟩ := activation_eq_ok accepted
  rw [List.map_map] at turns
  have before := supplements.mono (wished_subset_cons service activation earlier)
  obtain ⟨supplemented, met⟩ := Stream.supplements_of_turns
    (coherent_wished service (activation :: earlier))
    (fun _ wishes => ⟨activation, List.mem_cons_self, wishes⟩)
    (nodup_names_wishes service activation) before turns
  refine ⟨supplemented, ?_⟩
  rintro subscriptions rfl
  rw [List.forall₂_map_right_iff] at met
  have present : List.Forall₂ (fun wish _ => ¬ after.Unmet wish ∧ True)
      (service.wishes activation) subscriptions :=
    met.imp fun _ subscription ends => ⟨ends ⟨subscription, rfl⟩, trivial⟩
  exact ((List.forall₂_and_left _ _).1 present).1

/-- All attempts together only supplement the store at their beginning. -/
theorem Attempts.supplements (attempts : Attempts σ client service origin earlier store) :
    Supplements (service.wished earlier) origin store := by
  induction attempts with
  | none => exact .refl _ origin
  | activate _ accepted turns induction =>
      exact (supplements_activation induction accepted turns).1

/--
After any activations on a service, whichever of their requests failed and wherever they stopped,
one more leaves what was there and adds subscriptions for some of its events that were missing,
from its block on.  If it succeeds, all of them are there, and of those that were missing before
the first attempt there is one each.
-/
theorem activation_converges (attempts : Attempts σ client service origin earlier store)
    (accepted : service.activation activation = .ok tasks)
    (turns : Turns Treats (tasks.map fun task => client.perform task.run) store log left
      after) :
    Supplements (service.wished [activation]) store after ∧
      Supplements (service.wished (activation :: earlier)) origin after ∧
      ∀ subscriptions : List Subscription,
        left = subscriptions.map (fun subscription => .done (.ok subscription)) →
          ∀ wish ∈ service.wishes activation, ¬ after.Unmet wish ∧
            (origin.Unmet wish → after.subscriptions.countP wish.isMetBy = 1) := by
  have alone := supplements_activation (.refl (service.wished []) store) accepted turns
  have together := supplements_activation attempts.supplements accepted turns
  refine ⟨alone.1, together.1, ?_⟩
  intro subscriptions ended wish wishes
  have met := together.2 subscriptions ended wish wishes
  refine ⟨met, ?_⟩
  intro vacant
  exact together.1.countP_eq_one (coherent_wished service (activation :: earlier))
    ⟨activation, List.mem_cons_self, wishes⟩ vacant met

/-! ## An activation that succeeds when it is repeated -/

/-- The pool's activation again, from another block. -/
def repeatedActivation : ActivatePool :=
  ⟨"F01", some ⟨"12", "0x0", "0xabc", "1"⟩⟩

def repeatedWish (event : PoolEvent) : Wish :=
  pooledService.poolWish "F01" event "12"

/-- The store after the pool was activated in part, and then again. -/
def repeatedStore : Store :=
  (halfPooledStore.subscribe ((repeatedWish .create).made "sb-4")).subscribe
    ((repeatedWish .batch).made "sb-5")

/-- The first activation, of which one branch was refused and one given up. -/
theorem attempts_refused :
    Attempts Unit onceClient pooledService halfBegunStore [pooledActivation]
      halfPooledStore := by
  obtain ⟨log, left, turns⟩ := Turns.start.proceed proceeds_refused
  exact .activate .none rfl turns

/-- The second one: what is there is listed, and what is missing created. -/
theorem turns_repeated :
    ∃ log, Turns Treats
      (((pooledService.wishes repeatedActivation).map getOrCreateSubscription).map
        fun task : Task Unit Subscription => onceClient.perform task.run)
      halfPooledStore log
      ([(repeatedWish .create).made "sb-4", (pooledWish .single).made "sb-3",
        (repeatedWish .batch).made "sb-5"].map fun subscription => .done (.ok subscription))
      repeatedStore := by
  have lists : (Outcome.carrying (.list Subscription.codec) halfPooledStore.subscriptions).Gives
      (.list Subscription.codec) halfPooledStore.subscriptions := ⟨_, rfl, rfl, rfl⟩
  have tells (event : PoolEvent) (id : String) :
      (Outcome.carrying Subscription.codec ((repeatedWish event).made id)).Gives
        Subscription.codec ((repeatedWish event).made id) := by
    cases event <;> exact ⟨_, rfl, rfl, rfl⟩
  have begun : Turns Treats
      (((pooledService.wishes repeatedActivation).map getOrCreateSubscription).map
        fun task : Task Unit Subscription => onceClient.perform task.run)
      halfPooledStore [] _ halfPooledStore := .start
  have first := Client.turn_of_call begun 0 rfl rfl (.done (.subscriptions lists))
  have second := Client.turn_of_call first 1 rfl rfl (.done (.subscriptions lists))
  have listed := Client.turn_of_call second 2 rfl rfl (.done (.subscriptions lists))
  have create := Client.turn_of_call listed 0 rfl rfl
    (.done (.subscribed (repeatedWish .create) "sb-4" (by decide) (tells .create "sb-4")))
  have batch := Client.turn_of_call create 2 rfl rfl
    (.done (.subscribed (repeatedWish .batch) "sb-5" (by decide) (tells .batch "sb-5")))
  exact ⟨_, batch⟩

/-- Two activations leave one subscription for each event, each from the block of its own. -/
theorem activation_converges_of_refused :
    Attempts Unit onceClient pooledService halfBegunStore [pooledActivation] halfPooledStore ∧
      Supplements (pooledService.wished [repeatedActivation]) halfPooledStore repeatedStore ∧
      ∀ event, repeatedStore.subscriptions.countP (repeatedWish event).isMetBy = 1 := by
  have accepted : pooledService.activation repeatedActivation =
      .ok ((pooledService.wishes repeatedActivation).map
        (getOrCreateSubscription : Wish → Task Unit Subscription)) := rfl
  obtain ⟨log, turns⟩ := turns_repeated
  obtain ⟨added, -, met⟩ := activation_converges attempts_refused accepted turns
  refine ⟨attempts_refused, added, ?_⟩
  intro event
  have wishes : repeatedWish event ∈ pooledService.wishes repeatedActivation :=
    List.mem_map_of_mem (PoolEvent.mem_all event)
  have vacant : halfBegunStore.Unmet (repeatedWish event) := by
    cases event <;> decide
  exact (met _ rfl (repeatedWish event) wishes).2 vacant

end TokenRelay.Service
