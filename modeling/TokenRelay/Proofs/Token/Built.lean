import TokenRelay.Proofs.Stream.Reconciliation
import TokenRelay.Proofs.Stream.Wishes
import TokenRelay.Token.Service

/-!
# What a service builds is kept

A service makes its baseline and then activates pools, in any order and as often as it is
asked to.  The names on its stream are then the base and, for every text under which a pool
was activated, its three events.  Reconciliation reads these names back under the topic,
whatever the topic is, and leaves them.
-/

namespace TokenRelay.Service

open SubscriptionName (pack basePool IsSegment)
open TokenRelay.Stream (Wish meeting)

variable {σ ε : Type} {client : Client} {config : Config} {origin store after : Store}
  {service : Service} {pools : List String} {calls : List (Request × Outcome)}

/--
What a service builds: its baseline and then activations that succeed, with the texts under
which pools were activated.  The branches of an activation run side by side.
-/
inductive Built (σ : Type) (client : Client) (config : Config) (origin : Store) :
    Service → List String → Store → Prop where
  | init {service : Service} {calls : List (Request × Outcome)} {store : Store}
      (runs : (client.perform (Service.init config : Task σ Service).run).Runs calls
        (.ok service))
      (serves : origin.Serves calls store) :
      Built σ client config origin service [] store
  | activate {service : Service} {pools : List String} {store after : Store}
      {activation : ActivatePool} {tasks : List (Task σ Subscription)}
      {calls : List (Request × Outcome)} {subscriptions : List Subscription}
      (built : Built σ client config origin service pools store)
      (accepted : service.activation activation = .ok tasks)
      (together : Procedure.Together (tasks.map fun task => client.perform task.run) calls
        (subscriptions.map .ok))
      (serves : store.Serves calls after) :
      Built σ client config origin service (activation.poolId :: pools) after

/-- The names that a service writes for its baseline and for activated pools. -/
inductive Writes (topic : String) (pools : List String) : String → Prop where
  | base : Writes topic pools (pack topic basePool none)
  | event {pool : String} (activated : pool ∈ pools) (event : PoolEvent) :
      Writes topic pools (pack topic pool (some event.name))

theorem writes_cons_iff (topic pool : String) (pools : List String) (name : String) :
    Writes topic (pool :: pools) name ↔
      Writes topic pools name ∨ ∃ event : PoolEvent, pack topic pool (some event.name) = name := by
  constructor
  · rintro (_ | ⟨activated, event⟩)
    · exact .inl .base
    · rcases List.mem_cons.1 activated with rfl | known
      · exact .inr ⟨event, rfl⟩
      · exact .inl (.event known event)
  · rintro ((_ | ⟨activated, event⟩) | ⟨event, rfl⟩)
    · exact .base
    · exact .event (List.mem_cons_of_mem _ activated) event
    · exact .event List.mem_cons_self event

/-- A store in which the topic's stream is the service's, with just the names it writes. -/
structure Stands (config : Config) (service : Service) (pools : List String) (store : Store) :
    Prop where
  configured : service.config = config
  stream : store.topicStream? config.topic = some service.stream
  names : ∀ name,
    name ∈ store.Names service.stream.id ↔ Writes config.topic pools name
  segments : ∀ pool ∈ pools, IsSegment pool.toList

/-! ## The baseline -/

theorem stands_of_init (vacant : origin.topicStream? config.topic = none)
    (runs : (client.perform (Service.init config : Task σ Service).run).Runs calls
      (.ok service))
    (serves : origin.Serves calls store) : Stands config service [] store := by
  have performs : client.Performs (Service.init config : Task σ Service) origin calls
      (.ok service) store := ⟨⟨runs, serves.succeeds⟩, serves⟩
  rcases performs.of_bind with ⟨found, first, later, middle, makes, ends, rfl⟩
  rcases Stream.performs_init makes with ⟨stream, rfl, begins⟩
  rcases ends.of_pure with ⟨equal, rfl, rfl⟩
  obtain rfl := Except.ok.inj equal
  refine ⟨rfl, begins.topicStream?, ?_, nofun⟩
  intro name
  rw [begins.names_of_vacant vacant, Set.mem_singleton_iff]
  constructor
  · rintro rfl
    exact .base
  · rintro (_ | ⟨⟨⟩, _⟩)
    rfl

/-! ## Activations -/

/-- The wishes of an activation. -/
def wishes (service : Service) (activation : ActivatePool) : List Wish :=
  PoolEvent.all.map fun event =>
    service.poolWish activation.poolId event (activationBlock activation)

/-- An activation is accepted for spellings of pools, and its tasks meet its wishes. -/
theorem activation_eq_ok {activation : ActivatePool} {tasks : List (Task σ Subscription)}
    (accepted : service.activation activation = .ok tasks) :
    (∃ pool, Pool.Spelled activation.poolId.toList pool) ∧
      tasks = (service.wishes activation).map Stream.getOrCreateSubscription := by
  unfold Service.activation at accepted
  split at accepted
  · cases accepted
  · rename_i pool reads
    obtain rfl := Except.ok.inj accepted
    refine ⟨⟨pool, (Pool.ofText?_eq_some_iff _ _).1 reads⟩, ?_⟩
    rw [wishes, List.map_map]
    rfl

theorem exists_mem_wishes_iff (activation : ActivatePool) (stream name : String) :
    (∃ wish ∈ service.wishes activation, wish.stream = stream ∧ wish.name = name) ↔
      service.stream.id = stream ∧
        ∃ event : PoolEvent,
          pack service.config.topic activation.poolId (some event.name) = name := by
  simp [wishes, poolWish, and_left_comm]

theorem Stands.activate {activation : ActivatePool} {tasks : List (Task σ Subscription)}
    {subscriptions : List Subscription} (stands : Stands config service pools store)
    (accepted : service.activation activation = .ok tasks)
    (together : Procedure.Together (tasks.map fun task => client.perform task.run) calls
      (subscriptions.map .ok))
    (serves : store.Serves calls after) :
    Stands config service (activation.poolId :: pools) after := by
  rcases activation_eq_ok accepted with ⟨⟨pool, spelled⟩, rfl⟩
  rw [List.map_map] at together
  have streams := Stream.streams_eq_of_together together serves
  have names := Stream.mem_names_iff_of_together together serves
  refine ⟨stands.configured, ?_, ?_, ?_⟩
  · rw [Store.topicStream?, streams]
    exact stands.stream
  · intro name
    rw [names, stands.names, exists_mem_wishes_iff, stands.configured, writes_cons_iff]
    simp
  · exact List.forall_mem_cons.2 ⟨spelled.isSegment, stands.segments⟩

/-- Whatever a service builds stands. -/
theorem Built.stands (vacant : origin.topicStream? config.topic = none)
    (built : Built σ client config origin service pools store) :
    Stands config service pools store := by
  induction built with
  | init runs serves => exact stands_of_init vacant runs serves
  | activate _ accepted together serves induction =>
      exact induction.activate accepted together serves

/-! ## Reconciliation -/

theorem Stands.baseAlone (stands : Stands config service [] store) :
    Reconcile.BaseAlone config.topic (store.Names service.stream.id) := by
  refine ⟨⟨_, (stands.names _).2 .base, Reconcile.eventKind_base _⟩, ?_⟩
  intro name member kind means
  rcases (stands.names name).1 member with _ | ⟨⟨⟩, _⟩
  rw [Reconcile.eventKind_base, Option.some.injEq] at means
  exact means.symm

theorem Stands.allEvents (stands : Stands config service pools store) {pool : String}
    (activated : pool ∈ pools) :
    Reconcile.AllEvents config.topic (store.Names service.stream.id) := fun event =>
  ⟨_, (stands.names _).2 (.event activated event),
    Reconcile.event_pack _ (stands.segments pool activated) event⟩

/--
Reconciliation leaves whatever a service built: it makes only reading calls and tells
whether a pool was activated.
-/
theorem reconciliation_keeps_built {τ : Type}
    (answer : Request → ε → Outcome × ε) (memory : τ) (state : ε)
    (vacant : ∀ stream ∈ origin.streams, stream.name ≠ config.topic)
    (built : Built σ client config origin service pools store)
    (serves : store.Serves
      ((Reconcile.through client config.topic config.instancePath).calls answer memory state)
      after) :
    ((Reconcile.through client config.topic config.instancePath).against answer memory
        state).1 = .ok (if pools = [] then .baseOnly else .consistent) ∧
      (∀ call ∈ (Reconcile.through client config.topic config.instancePath).calls answer
        memory state, call.1.method = .get) ∧
      after = store := by
  have stands := built.stands (by simpa [Store.topicStream?] using vacant)
  have nonempty : (store.Names service.stream.id).Nonempty :=
    ⟨_, (stands.names _).2 .base⟩
  rcases Reconcile.comesTo_of_serves answer memory state serves with ⟨result, comes, comesTo⟩
  rcases comesTo.cases_of_nonempty stands.stream nonempty with
    ⟨covered, asked, unchanged⟩ | ⟨-, noBase, notAll, -⟩
  · refine ⟨?_, Reconcile.method_eq_get asked, unchanged⟩
    rw [comes]
    cases pools with
    | nil =>
        rcases covered with ⟨rfl, -⟩ | ⟨-, all⟩
        · rfl
        · exact (stands.baseAlone.not_allEvents all).elim
    | cons pool pools =>
        rcases covered with ⟨-, base⟩ | ⟨rfl, -⟩
        · exact (base.not_allEvents (stands.allEvents List.mem_cons_self)).elim
        · rfl
  · cases pools with
    | nil => exact (noBase stands.baseAlone).elim
    | cons pool pools => exact (notAll (stands.allEvents List.mem_cons_self)).elim

/-! ## A service with one pool -/

open TokenRelay.Stream (listStreams listSubscriptions)

/-- A configuration whose topic ends in the delimiter. -/
def pooledConfig : Config :=
  { Config.ofUrl "http://connector" with topic := "tok:", instancePath := "/contracts/0xabc" }

def pooledService : Service :=
  ⟨pooledConfig, ⟨"es-1", "tok:", some 50, some 500⟩⟩

/-- The activation of a pool that is not given as displayed. -/
def pooledActivation : ActivatePool :=
  ⟨"F01", none⟩

def pooledWish (event : PoolEvent) : Wish :=
  pooledService.poolWish "F01" event "0"

/-- A store that holds the stream of another topic. -/
def foreignStore : Store where
  streams := [⟨"es-0", "other", none, none⟩]
  subscriptions := [⟨"sb-0", "other:base", "es-0", none⟩]

/-- The store after the baseline was made. -/
def begunStore : Store :=
  (foreignStore.addStream pooledService.stream).subscribe
    ((Stream.baseWish "tok:" "/contracts/0xabc" "es-1").made "sb-1")

/-- The store after the pool was activated. -/
def pooledStore : Store :=
  ((begunStore.subscribe ((pooledWish .create).made "sb-2")).subscribe
    ((pooledWish .single).made "sb-3")).subscribe ((pooledWish .batch).made "sb-4")

def baselineCalls : List (Request × Outcome) :=
  [(listStreams, .carrying (.list EventStream.codec) foreignStore.streams),
    (.post "/eventstreams" [] (Stream.details "tok:"),
      .carrying EventStream.codec pooledService.stream),
    (listSubscriptions, .carrying (.list Subscription.codec) foreignStore.subscriptions),
    ((Stream.baseWish "tok:" "/contracts/0xabc" "es-1").request,
      .carrying Subscription.codec
        ((Stream.baseWish "tok:" "/contracts/0xabc" "es-1").made "sb-1"))]

/-- The calls of the three branches: each lists the subscriptions before any is made. -/
def activationCalls : List (Request × Outcome) :=
  [(listSubscriptions, .carrying (.list Subscription.codec) begunStore.subscriptions),
    (listSubscriptions, .carrying (.list Subscription.codec) begunStore.subscriptions),
    (listSubscriptions, .carrying (.list Subscription.codec) begunStore.subscriptions),
    ((pooledWish .create).request,
      .carrying Subscription.codec ((pooledWish .create).made "sb-2")),
    ((pooledWish .single).request,
      .carrying Subscription.codec ((pooledWish .single).made "sb-3")),
    ((pooledWish .batch).request,
      .carrying Subscription.codec ((pooledWish .batch).made "sb-4"))]

theorem runs_baseline :
    (Reconcile.onceClient.perform (Service.init pooledConfig : Task Unit Service).run).Runs
      baselineCalls (.ok pooledService) := by
  refine (Client.runs_perform_call_iff rfl).2 ?_
  refine (Client.runs_perform_call_iff rfl).2 ?_
  refine (Client.runs_perform_call_iff rfl).2 ?_
  refine (Client.runs_perform_call_iff rfl).2 ?_
  exact .done _

theorem serves_baseline : foreignStore.Serves baselineCalls begunStore := by
  refine .cons (.streams ⟨_, rfl, rfl, rfl⟩) ?_
  refine .cons (@Store.Answers.created _ _ pooledService.stream ⟨by decide, by decide⟩
    ⟨_, rfl, rfl, rfl⟩) ?_
  refine .cons (.subscriptions ⟨_, rfl, rfl, rfl⟩) ?_
  refine .cons (.subscribed _ "sb-1" (by decide) ⟨_, rfl, rfl, rfl⟩) ?_
  exact .nil _

theorem serves_activation : begunStore.Serves activationCalls pooledStore := by
  refine .cons (.subscriptions ⟨_, rfl, rfl, rfl⟩) ?_
  refine .cons (.subscriptions ⟨_, rfl, rfl, rfl⟩) ?_
  refine .cons (.subscriptions ⟨_, rfl, rfl, rfl⟩) ?_
  refine .cons (.subscribed _ "sb-2" (by decide) ⟨_, rfl, rfl, rfl⟩) ?_
  refine .cons (.subscribed _ "sb-3" (by decide) ⟨_, rfl, rfl, rfl⟩) ?_
  refine .cons (.subscribed _ "sb-4" (by decide) ⟨_, rfl, rfl, rfl⟩) ?_
  exact .nil _

theorem together_activation :
    Procedure.Together
      (((pooledService.wishes pooledActivation).map Stream.getOrCreateSubscription).map
        fun task : Task Unit Subscription => Reconcile.onceClient.perform task.run)
      activationCalls
      ([(pooledWish .create).made "sb-2", (pooledWish .single).made "sb-3",
        (pooledWish .batch).made "sb-4"].map .ok) := by
  refine .step [] [_, _] (Client.advances_perform_call rfl) ?_
  refine .step [_] [_] (Client.advances_perform_call rfl) ?_
  refine .step [_, _] [] (Client.advances_perform_call rfl) ?_
  refine .step [] [_, _] (Client.advances_perform_call rfl) ?_
  refine .step [_] [_] (Client.advances_perform_call rfl) ?_
  refine .step [_, _] [] (Client.advances_perform_call rfl) ?_
  exact .done [_, _, _]

theorem built_pooled :
    Built Unit Reconcile.onceClient pooledConfig foreignStore pooledService ["F01"]
      pooledStore := by
  have accepted : pooledService.activation pooledActivation =
      .ok ((pooledService.wishes pooledActivation).map
        (Stream.getOrCreateSubscription : Wish → Task Unit Subscription)) := by
    rfl
  exact .activate (.init runs_baseline serves_baseline) accepted together_activation
    serves_activation

/-- What was built under a topic that ends in the delimiter is read back and left. -/
theorem reconciliation_keeps_built_of_pooled :
    (∀ stream ∈ foreignStore.streams, stream.name ≠ pooledConfig.topic) ∧
      Built Unit Reconcile.onceClient pooledConfig foreignStore pooledService ["F01"]
        pooledStore ∧
      pooledStore.Serves
        ((Reconcile.through Reconcile.onceClient "tok:" "/contracts/0xabc").calls
          Client.prepared () (Reconcile.listings pooledStore)) pooledStore ∧
      ((Reconcile.through Reconcile.onceClient "tok:" "/contracts/0xabc").against
        Client.prepared () (Reconcile.listings pooledStore)).1 = .ok .consistent := by
  have vacant : ∀ stream ∈ foreignStore.streams, stream.name ≠ pooledConfig.topic := by
    decide
  have serves : pooledStore.Serves
      ((Reconcile.through Reconcile.onceClient "tok:" "/contracts/0xabc").calls
        Client.prepared () (Reconcile.listings pooledStore)) pooledStore := by
    refine .perform_call rfl (.streams ⟨_, rfl, rfl, rfl⟩) ?_
    refine .perform_call rfl (.subscriptions ⟨_, rfl, rfl, rfl⟩) ?_
    exact .nil _
  exact ⟨vacant, built_pooled, serves,
    (reconciliation_keeps_built Client.prepared () _ vacant built_pooled serves).1⟩

end TokenRelay.Service
