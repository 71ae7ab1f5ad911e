import TokenRelay.Proofs.Stream.Neighbours
import TokenRelay.Token.Service

/-!
# Starting a service

A start first reconciles the topic and then makes the baseline, or attaches to the stream
that is there.  Reconciliation may end anywhere, but what it comes to is only reported: the
start succeeds or fails as its second half does on the store that reconciliation leaves.
Where that half makes the baseline, a start that succeeds has made it from whatever was left.
-/

namespace TokenRelay.Service

open Reconcile (through bound)
open SubscriptionName (pack basePool)
open Store (Treats alone)

variable {σ ε : Type} {client : Client} {store after : Store} {config : Config}

/-- What a start does after reconciliation. -/
def settle (config : Config) : Task σ Service :=
  if config.autoInit then init config else attach config

/-- A start through a client, single attempts included. -/
def starting (client : Client) (config : Config) :
    Procedure Outcome σ (Except BridgeError (Service × Option Reconcile.Result)) :=
  client.perform (start config).run

/-- Making the baseline through a client, single attempts included. -/
def initializing (client : Client) (config : Config) :
    Procedure Outcome σ (Except BridgeError Service) :=
  client.perform (init config).run

/-- At startup a failure of reconciliation is swallowed. -/
theorem perform_runAtStartup (client : Client) (topic instancePath : String) :
    client.perform (Reconcile.runAtStartup topic instancePath : Task σ _).run =
      (through client topic instancePath).bind fun found => .done (.ok found.toOption) := by
  have swallowed : (Reconcile.runAtStartup topic instancePath : Task σ _).run =
      (Reconcile.run topic instancePath).run.bind fun found => .done (.ok found.toOption) := by
    refine congrArg (Procedure.bind _) ?_
    funext found
    cases found <;> rfl
  rw [swallowed]
  exact Procedure.answeredBy_bind client.send _ _

/-- A start goes on with its second half, whatever reconciliation came to. -/
theorem starting_eq (client : Client) (config : Config) :
    (starting client config : Procedure Outcome σ _) =
      (through client config.topic config.instancePath).bind fun found =>
        (client.perform (settle config).run).bind fun made =>
          .done (made.map fun service => (service, found.toOption)) := by
  have halves : (start config : Task σ _) =
      Reconcile.runAtStartup config.topic config.instancePath >>= fun result =>
        settle config >>= fun service => pure (service, result) := by
    unfold start settle
    cases config.autoInit <;> rfl
  rw [starting, halves, Client.perform_bind, perform_runAtStartup, Procedure.bind_assoc]
  congr 1
  funext found
  refine (Client.perform_bind client (settle config) _).trans ?_
  congr 1
  funext made
  cases made <;> rfl

/-- Making a service makes the baseline of its topic. -/
theorem assures_init (config : Config) :
    client.Assures Treats alone (init config : Task σ Service)
      (fun made now =>
        store.Begun config.topic config.instancePath (made.map (·.stream)) now) store := by
  refine (Client.assures_bind_iff _ _ _).2 ?_
  refine (Stream.assures_init config.topic config.instancePath).mono ?_
  intro made now begun
  cases made with
  | ok stream => exact (Client.assures_pure_iff _ _).2 begun
  | error error => exact (Client.assures_throw_iff _ _).2 begun

/-! ## A start that makes the baseline -/

section AutoInit

variable {answer : Request → ε → Outcome × ε} {memory memory' : σ} {state state' : ε}
  {found : Except BridgeError Reconcile.Result}

theorem starting_of_autoInit (client : Client) (auto : config.autoInit = true) :
    (starting client config : Procedure Outcome σ _) =
      (through client config.topic config.instancePath).bind fun found =>
        (initializing client config).bind fun made =>
          .done (made.map fun service => (service, found.toOption)) := by
  rw [starting_eq, settle, if_pos auto]
  rfl

variable (auto : config.autoInit = true)
  (reconciled : (through client config.topic config.instancePath).against answer memory state =
    (found, memory', state'))

include auto reconciled

/-- What a start comes to is what making the baseline comes to. -/
theorem against_starting :
    ((starting client config).against answer memory state).1 =
      ((initializing client config).against answer memory' state').1.map
        fun service => (service, found.toOption) := by
  rw [starting_of_autoInit client auto, Procedure.against_bind, Procedure.against_bind,
    reconciled]
  rfl

/-- The calls of a start are those of reconciliation and then those of the baseline. -/
theorem endures_starting
    (endures : store.Endures ((starting client config).calls answer memory state) after) :
    ∃ middle,
      store.Endures ((through client config.topic config.instancePath).calls answer memory
        state) middle ∧
      middle.Endures ((initializing client config).calls answer memory' state') after := by
  rw [starting_of_autoInit client auto, Procedure.calls_bind, Procedure.calls_bind,
    reconciled] at endures
  rcases Procedure.logs_append_iff.1 endures with ⟨middle, first, rest⟩
  exact ⟨middle, first, by simpa [Procedure.calls] using rest⟩

end AutoInit

/--
However many requests of a start fail, it succeeds or fails as making the baseline does on
the store that reconciliation leaves, and it spares the streams of other topics with all that
is bound to them.  A service that is started has its stream in the store, under the name of
the topic, and the base subscription on it.
-/
theorem start_makes_baseline (answer : Request → ε → Outcome × ε) (memory : σ) (state : ε)
    (auto : config.autoInit = true) (identified : (store.streams.map (·.id)).Nodup)
    (endures : store.Endures ((starting client config).calls answer memory state) after) :
    ∃ found memory' state' middle,
      (through client config.topic config.instancePath).against answer memory state =
        (found, memory', state') ∧
      store.Endures ((through client config.topic config.instancePath).calls answer memory
        state) middle ∧
      middle.Endures ((initializing client config).calls answer memory' state') after ∧
      ((starting client config).against answer memory state).1 =
        ((initializing client config).against answer memory' state').1.map
          (fun service => (service, found.toOption)) ∧
      store.Spares config.topic after ∧
      ∀ service outcome,
        ((starting client config).against answer memory state).1 = .ok (service, outcome) →
          after.Has config.topic service.stream.id ∧
          ∃ base ∈ after.subscriptions,
            base.name = pack config.topic basePool none ∧ base.stream = service.stream.id := by
  obtain ⟨⟨found, memory', state'⟩, reconciled⟩ : ∃ ended,
      (through client config.topic config.instancePath).against answer memory state = ended :=
    ⟨_, rfl⟩
  rcases endures_starting auto reconciled endures with ⟨middle, first, second⟩
  have comes := against_starting auto reconciled
  have ends : Reconcile.EndsIn store config.topic config.instancePath _ middle :=
    (Reconcile.assures_run _ _).of_runs (Procedure.runs_calls answer _ memory state) first
  have begun : middle.Begun config.topic config.instancePath
      (((initializing client config).against answer memory' state').1.map (·.stream)) after :=
    (assures_init config).of_runs (Procedure.runs_calls answer _ memory' state') second
  have spares := ends.spares identified
  refine ⟨found, memory', state', middle, reconciled, first, second, comes,
    spares.trans (begun.spares spares.identified), ?_⟩
  intro service outcome started
  rw [comes] at started
  cases made : ((initializing client config).against answer memory' state').1 with
  | error error =>
      rw [made] at started
      cases started
  | ok own =>
      rw [made] at started begun
      cases started
      exact begun.based_of_ok

/-! ## A start whose reconciliation is interrupted -/

open Reconcile (onceClient lackingStore)

def interruptedConfig : Config :=
  { Config.ofUrl "http://connector" with topic := "tok", instancePath := "/contracts/0xabc" }

/-- A store that lacks an event of a pool, and holds the stream of another topic. -/
def sharedStore : Store where
  streams := lackingStore.streams ++ [⟨"es-0", "other", none, none⟩]
  subscriptions := lackingStore.subscriptions ++ [⟨"sb-0", "other:base", "es-0", none⟩]

/-- What is left when the stream was deleted and the reconciliation interrupted. -/
def interruptedStore : Store :=
  sharedStore.removeStream "es-old"

/-- What there is when the baseline was made after that. -/
def restartedStore : Store :=
  (interruptedStore.addStream ⟨"es-1", "tok", some 50, some 500⟩).subscribe
    ((Stream.baseWish "tok" "/contracts/0xabc" "es-1").made "sb-9")

/-- How a connector answers that refuses to make the stream at first. -/
def interruption : List Outcome :=
  [.carrying (.list EventStream.codec) sharedStore.streams,
    .carrying (.list Subscription.codec) sharedStore.subscriptions,
    .ok ⟨204, .null⟩,
    .carrying (.list EventStream.codec) interruptedStore.streams,
    .error (.other "down"),
    .carrying (.list EventStream.codec) interruptedStore.streams,
    .carrying EventStream.codec ⟨"es-1", "tok", some 50, some 500⟩,
    .carrying (.list Subscription.codec) interruptedStore.subscriptions,
    .carrying Subscription.codec
      ((Stream.baseWish "tok" "/contracts/0xabc" "es-1").made "sb-9")]

theorem endures_interruption :
    sharedStore.Endures ((starting onceClient interruptedConfig).calls Client.prepared ()
      interruption) restartedStore := by
  refine .perform_call rfl (.streams ⟨_, rfl, rfl, rfl⟩) ?_
  refine .perform_call rfl (.subscriptions ⟨_, rfl, rfl, rfl⟩) ?_
  refine .perform_call rfl (.deleted "es-old" ⟨_, rfl, rfl⟩) ?_
  refine .perform_call rfl (.streams ⟨_, rfl, rfl, rfl⟩) ?_
  refine .perform_refused rfl (by decide) rfl ?_
  refine .perform_call rfl (.streams ⟨_, rfl, rfl, rfl⟩) ?_
  refine .perform_call rfl (@Store.Does.created _ _ ⟨"es-1", "tok", some 50, some 500⟩ _
    ⟨by decide, by decide⟩ ⟨_, rfl, rfl, rfl⟩ rfl) ?_
  refine .perform_call rfl (.subscriptions ⟨_, rfl, rfl, rfl⟩) ?_
  refine .perform_call rfl (.subscribed
    (Stream.baseWish "tok" "/contracts/0xabc" "es-1") "sb-9" (by decide) ⟨_, rfl, rfl, rfl⟩) ?_
  exact .nil _

/--
A start whose reconciliation could not make the stream again makes it afterwards, and leaves
the stream of the other topic.
-/
theorem start_makes_baseline_of_interruption :
    interruptedConfig.autoInit = true ∧ (sharedStore.streams.map (·.id)).Nodup ∧
      ((starting onceClient interruptedConfig).against Client.prepared () interruption).1 =
        .ok (⟨interruptedConfig, ⟨"es-1", "tok", some 50, some 500⟩⟩, none) ∧
      restartedStore.Has "tok" "es-1" ∧
      (∃ base ∈ restartedStore.subscriptions,
        base.name = pack "tok" basePool none ∧ base.stream = "es-1") ∧
      sharedStore.Spares "tok" restartedStore := by
  have identified : (sharedStore.streams.map (·.id)).Nodup := by decide
  have started :
      ((starting onceClient interruptedConfig).against Client.prepared () interruption).1 =
        .ok (⟨interruptedConfig, ⟨"es-1", "tok", some 50, some 500⟩⟩, none) := by
    refine Client.comes_perform_call rfl rfl ?_
    refine Client.comes_perform_call rfl rfl ?_
    refine Client.comes_perform_call rfl rfl ?_
    refine Client.comes_perform_call rfl rfl ?_
    refine Client.comes_perform_refused rfl (by decide) rfl ?_
    refine Client.comes_perform_call rfl rfl ?_
    refine Client.comes_perform_call rfl rfl ?_
    refine Client.comes_perform_call rfl rfl ?_
    refine Client.comes_perform_call rfl rfl ?_
    rfl
  obtain ⟨found, memory', state', middle, -, -, -, -, spares, holds⟩ :=
    start_makes_baseline Client.prepared () interruption rfl identified endures_interruption
  rcases holds _ _ started with ⟨has, based⟩
  exact ⟨rfl, identified, started, has, based, spares⟩

end TokenRelay.Service
