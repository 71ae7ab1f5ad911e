import TokenRelay.Proofs.Stream.Rivals
import TokenRelay.Proofs.Token.Built
import TokenRelay.Proofs.Token.Startup

/-!
# No duplicates

Operations that manage streams and subscriptions are issued one after another.  Each may stop
at any moment: because a request failed for good, because another branch of an activation
did, or because it was given up while a request was under way, which then is done at once or
never.  A store that starts without duplicates has none at any time.
-/

namespace TokenRelay.Service

open Procedure (Proceeds)
open Reconcile (through onceClient)
open Store (Treats alone)
open TokenRelay.Stream (Wish)

variable {σ α : Type} {client : Client} {origin store after : Store} {service : Service}

/-- The procedures of an operation; those of an activation run side by side. -/
inductive Operates (σ : Type) (client : Client) :
    {α : Type} → List (Procedure Outcome σ α) → Prop where
  | init (config : Config) : Operates σ client [initializing client config]
  | start (config : Config) : Operates σ client [starting client config]
  | attach (config : Config) :
      Operates σ client [client.perform (Service.attach config : Task σ Service).run]
  | reconcile (topic instancePath : String) :
      Operates σ client [through client topic instancePath]
  | activate {service : Service} {activation : ActivatePool}
      {tasks : List (Task σ Subscription)}
      (accepted : service.activation activation = .ok tasks) :
      Operates σ client (tasks.map fun task => client.perform task.run)

/--
What a store may come to by operations one after another, each of which goes on for as long
as it likes.
-/
inductive History (σ : Type) (origin : Store) : Store → Prop where
  | origin : History σ origin origin
  | operate {α : Type} {client : Client} {procedures : List (Procedure Outcome σ α)}
      {store after : Store} (history : History σ origin store)
      (operates : Operates σ client procedures)
      (proceeds : Proceeds Treats procedures store after) : History σ origin after

/-! ## What each operation keeps to -/

theorem ensures_attach (config : Config) :
    (client.perform (attach config : Task σ Service).run).Ensures Treats alone
      (fun _ _ => True) store := by
  refine Client.assures_bind_alone (Stream.assures_findStream config.topic)
    (fun _ => trivial) ?_
  intro found middle _
  cases found with
  | some stream => exact (Client.assures_pure_iff _ _).2 trivial
  | none => exact (Client.assures_throw_iff _ _).2 trivial

theorem ensures_settle (config : Config) :
    (client.perform (settle config : Task σ Service).run).Ensures Treats alone
      (fun _ _ => True) store := by
  rw [settle]
  split
  · exact (assures_init config).mono fun _ _ _ => trivial
  · exact ensures_attach config

theorem ensures_starting (config : Config) :
    (starting client config : Procedure Outcome σ _).Ensures Treats alone
      (fun _ _ => True) store := by
  rw [starting_eq, Procedure.ensures_bind_iff]
  refine (Reconcile.assures_run config.topic config.instancePath).mono ?_
  intro found middle _
  rw [Procedure.ensures_bind_iff]
  exact (ensures_settle config).mono fun _ _ _ => trivial

theorem poolWish_name_injective (service : Service) (pool block : String) :
    Function.Injective fun event => (service.poolWish pool event block).name := by
  intro first second same
  have names : first.name = second.name := by
    simpa [poolWish, SubscriptionName.pack] using same
  cases first <;> cases second <;> first | rfl | exact absurd names (by decide)

/-- The wishes of an activation have different names. -/
theorem nodup_names_wishes (service : Service) (activation : ActivatePool) :
    ((service.wishes activation).map (·.name)).Nodup := by
  rw [wishes, List.map_map]
  exact (show PoolEvent.all.Nodup by decide).map (poolWish_name_injective service _ _)

/-- Wherever an operation stops, it leaves an orderly store orderly. -/
theorem Operates.tidies {procedures : List (Procedure Outcome σ α)}
    (operates : Operates σ client procedures)
    (proceeds : Proceeds Treats procedures store after) : store.Tidies after := by
  cases operates with
  | init config =>
      exact Store.tidies_of_alone ((assures_init config).mono fun _ _ _ => trivial) proceeds
  | start config => exact Store.tidies_of_alone (ensures_starting config) proceeds
  | attach config => exact Store.tidies_of_alone (ensures_attach config) proceeds
  | reconcile topic instancePath =>
      exact Store.tidies_of_alone
        ((Reconcile.assures_run topic instancePath).mono fun _ _ _ => trivial) proceeds
  | activate accepted =>
      rename_i service activation tasks
      rcases activation_eq_ok accepted with ⟨-, rfl⟩
      rw [List.map_map] at proceeds
      exact Store.tidies_of_wishes (nodup_names_wishes service activation) proceeds

/--
A store with at most one stream for a name, and one subscription for a name on a stream, stays
so through any operations one after another, whichever of their requests fail, however the
branches of an activation come in between one another, and wherever each of them stops.
-/
theorem orderly_of_history (orderly : origin.Orderly) (history : History σ origin store) :
    store.Orderly := by
  induction history with
  | origin => exact orderly
  | operate _ operates proceeds induction => exact operates.tidies proceeds induction

/-! ## An activation of which one branch fails -/

/-- The store after a service was made as far as its stream. -/
def halfBegunStore : Store :=
  foreignStore.addStream pooledService.stream

/-- The store after an activation of which only one wish was met. -/
def halfPooledStore : Store :=
  halfBegunStore.subscribe ((pooledWish .single).made "sb-3")

/-- Making a service, given up after its stream was made. -/
theorem proceeds_givenUp :
    Proceeds Treats [(initializing onceClient pooledConfig : Procedure Outcome Unit _)]
      foreignStore halfBegunStore := by
  have lists : (Outcome.carrying (.list EventStream.codec) foreignStore.streams).Gives
      (.list EventStream.codec) foreignStore.streams := ⟨_, rfl, rfl, rfl⟩
  have tells : (Outcome.carrying EventStream.codec pooledService.stream).Gives
      EventStream.codec pooledService.stream := ⟨_, rfl, rfl, rfl⟩
  refine .advance [] [] (Client.advances_perform_call rfl)
    (.cons (.done (.streams lists)) (.nil _)) ?_
  refine .advance [] [] (Client.advances_perform_call rfl)
    (.cons (.done (@Store.Does.created _ _ pooledService.stream _ ⟨by decide, by decide⟩
      tells rfl)) (.nil _)) ?_
  exact .stop _ _

/--
An activation whose branches list the subscriptions before any is made; one of them is then
refused, one is met, and one given up.
-/
theorem proceeds_refused :
    Proceeds Treats
      (((pooledService.wishes pooledActivation).map Stream.getOrCreateSubscription).map
        fun task : Task Unit Subscription => onceClient.perform task.run)
      halfBegunStore halfPooledStore := by
  have lists : (Outcome.carrying (.list Subscription.codec) halfBegunStore.subscriptions).Gives
      (.list Subscription.codec) halfBegunStore.subscriptions := ⟨_, rfl, rfl, rfl⟩
  have tells : (Outcome.carrying Subscription.codec ((pooledWish .single).made "sb-3")).Gives
      Subscription.codec ((pooledWish .single).made "sb-3") := ⟨_, rfl, rfl, rfl⟩
  have refuses : ¬ Outcome.Succeeds (.error (.other "down")) := nofun
  refine .advance [] [_, _] (Client.advances_perform_call rfl)
    (.cons (.done (.subscriptions lists)) (.nil _)) ?_
  refine .advance [_] [_] (Client.advances_perform_call rfl)
    (.cons (.done (.subscriptions lists)) (.nil _)) ?_
  refine .advance [_, _] [] (Client.advances_perform_call rfl)
    (.cons (.done (.subscriptions lists)) (.nil _)) ?_
  refine .advance [] [_, _] (Client.advances_perform_refused (by decide) rfl)
    (.cons (.failed refuses) (.nil _)) ?_
  refine .advance [_] [_] (Client.advances_perform_call rfl)
    (.cons (.done (.subscribed (pooledWish .single) "sb-3" (by decide) tells)) (.nil _)) ?_
  exact .stop _ _

/-- A service that was given up, and then activates a pool in part, makes no duplicates. -/
theorem orderly_of_history_of_refused :
    foreignStore.Orderly ∧ History Unit foreignStore halfPooledStore ∧
      halfPooledStore.Orderly := by
  have orderly : foreignStore.Orderly := ⟨by decide, by decide⟩
  have accepted : pooledService.activation pooledActivation =
      .ok ((pooledService.wishes pooledActivation).map
        (Stream.getOrCreateSubscription : Wish → Task Unit Subscription)) := by
    rfl
  have history : History Unit foreignStore halfPooledStore := by
    refine .operate ?_ (.activate accepted) proceeds_refused
    exact .operate .origin (.init pooledConfig) proceeds_givenUp
  exact ⟨orderly, history, orderly_of_history orderly history⟩

end TokenRelay.Service
