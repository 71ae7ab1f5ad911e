import TokenRelay.Proofs.Gateway.Course
import TokenRelay.Proofs.Gateway.FixedAnswers

/-!
# The handling of a batch

A pump handles one batch at a time: it makes passes over it until one of them ends well, hands
over what that pass made and acknowledges the batch.  `Handles` is a step of this, in which a whole
pass is one step, since nobody else uses what a pass keeps.  `Beside` is what goes on meanwhile: the
feed dispatches, replies are forwarded, and subscribers come, take and go.

The connector answers all lookups of an id in the same way, and one subscriber stays: `Handling` is
how far the handling of a batch may come then.  `Onward` says once what a step can be, by where the
pump stands.  A handling is a part of a history of the gateway.
-/

namespace TokenRelay

variable {μ : Type}

namespace Audience

/-- That somebody is on the list and open. -/
def Attended (id : Nat) (audience : Audience) : Prop :=
  ∃ subscriber ∈ audience.subscribers, subscriber.id = id ∧ subscriber.isOpen = true

end Audience

open Audience (Attended)

namespace Gateway

open KnownNames (Abides abides_append_iff)

/-! ## Passes that nobody comes between -/

/-- The calls among what a pass did. -/
def Deed.call? : Deed → Option (Request × Outcome)
  | .asked request outcome => some (request, outcome)
  | .recalled _ => none

def callsOf (deeds : List Deed) : Calls :=
  deeds.filterMap Deed.call?

/-- What a part of a pass may end with that has its memory to itself, and what it does before. -/
inductive ComesAlone {α : Type} :
    Part μ α → GatewayMemory μ → List Deed → α → GatewayMemory μ → Prop where
  | done (value : α) (memory : GatewayMemory μ) : ComesAlone (.done value) memory [] value memory
  | call {request : Request} {next : Outcome → Part μ α} {memory after : GatewayMemory μ}
      {later : List Deed} {value : α} (outcome : Outcome)
      (comes : ComesAlone (next outcome) memory later value after) :
      ComesAlone (.call request next) memory (.asked request outcome :: later) value after
  | pause {rest : Part μ α} {memory after : GatewayMemory μ} {deeds : List Deed} {value : α}
      (duration : Nat) (comes : ComesAlone rest memory deeds value after) :
      ComesAlone (.pause duration rest) memory deeds value after
  | «recall» {next : GatewayMemory μ → Part μ α} {memory after : GatewayMemory μ}
      {later : List Deed} {value : α} (comes : ComesAlone (next memory) memory later value after) :
      ComesAlone (.recall next) memory (.recalled memory.names :: later) value after
  | remember {change : GatewayMemory μ → GatewayMemory μ} {rest : Part μ α}
      {memory after : GatewayMemory μ} {deeds : List Deed} {value : α}
      (comes : ComesAlone rest (change memory) deeds value after) :
      ComesAlone (.remember change rest) memory deeds value after

section ComesAlone

variable {α : Type} {part : Part μ α} {memory after : GatewayMemory μ} {value : α}

theorem ComesAlone.comesTo {deeds : List Deed}
    (alone : ComesAlone part memory deeds value after) : ComesTo part deeds value := by
  induction alone with
  | done value => exact .done value
  | call outcome _ induction => exact .step (.call _ _ outcome) induction
  | pause duration _ induction => exact .step (.pause duration _) induction
  | «recall» _ induction => exact .step (.recall _ _) induction
  | remember _ induction => exact .step (.remember _ _) induction

theorem ComesAlone.runsAlone {deeds : List Deed}
    (alone : ComesAlone part memory deeds value after) :
    part.RunsAlone memory (callsOf deeds) value after := by
  induction alone with
  | done value memory => exact .done value memory
  | call outcome _ induction => exact .call outcome induction
  | pause duration _ induction => exact .pause duration induction
  | «recall» _ induction => exact .recall induction
  | remember _ induction => exact .remember induction

/-- Whatever is told, a part of a pass can be answered so, and ends. -/
theorem exists_abiding (told : String → Outcome) (part : Part μ α) (memory : GatewayMemory μ) :
    ∃ deeds value after, ComesAlone part memory deeds value after ∧
      Abides told (callsOf deeds) := by
  induction part generalizing memory with
  | done value => exact ⟨[], value, memory, .done _ _, fun _ _ => nofun⟩
  | call request next induction =>
      -- the reply is settled if the request is a lookup, and is anything otherwise
      obtain ⟨outcome, abides⟩ : ∃ outcome, Abides told [(request, outcome)] := by
        by_cases lookup : ∃ id, request = KnownNames.request id
        · obtain ⟨id, rfl⟩ := lookup
          refine ⟨told id, fun other outcome member => ?_⟩
          obtain ⟨same, rfl⟩ := Prod.mk.inj (List.mem_singleton.1 member)
          rw [KnownNames.request_injective same]
        · refine ⟨.error (.other ""), fun other outcome member => ?_⟩
          exact absurd ⟨other, (Prod.mk.inj (List.mem_singleton.1 member)).1.symm⟩ lookup
      obtain ⟨deeds, value, after, comes, later⟩ := induction outcome memory
      exact ⟨_, value, after, .call outcome comes, abides_append_iff.2 ⟨abides, later⟩⟩
  | pause duration rest induction =>
      obtain ⟨deeds, value, after, comes, abides⟩ := induction memory
      exact ⟨deeds, value, after, .pause duration comes, abides⟩
  | «recall» next induction =>
      obtain ⟨deeds, value, after, comes, abides⟩ := induction memory memory
      exact ⟨_, value, after, .recall comes, abides⟩
  | remember change rest induction =>
      obtain ⟨deeds, value, after, comes, abides⟩ := induction (change memory)
      exact ⟨deeds, value, after, .remember comes, abides⟩

end ComesAlone

/-! ## The steps -/

/-- A scene, and what the passes keep. -/
structure Desk (μ : Type) where
  scene : Scene μ
  memory : GatewayMemory μ

/-- That a move may be made at an instant, what it shows and what it leaves. -/
def Makes (gateway : Gateway μ) (scene : Scene μ) (now : Nat) (move : GatewayRun.Move (Pass μ))
    (events : List Event) (next : Scene μ) : Prop :=
  ∃ requests, scene.run.step gateway.begin gateway.retryDelay now scene.audience move =
      some (next.run, next.audience, requests) ∧
    events = shown scene next.audience move ++ requests.flatMap asked

/-- One step of the handling of a batch. -/
inductive Handles (gateway : Gateway μ) (told : String → Outcome) :
    Desk μ → List Event → Desk μ → Prop where
  /-- A pass is made, and it ends. -/
  | pass {scene next : Scene μ} {memory after : GatewayMemory μ} {batch : Batch}
      {deeds : List Deed} {result : Except BridgeError (List Notification)}
      {events : List Event} (now : Nat)
      (begun : scene.run.pump = .processing batch (gateway.begin batch))
      (comes : ComesAlone (gateway.begin batch) memory deeds result after)
      (abides : Abides told (callsOf deeds))
      (makes : Makes gateway scene now (.conclude result) events next) :
      Handles gateway told ⟨scene, memory⟩ (deeds.map .did ++ events) ⟨next, after⟩
  | retry {scene next : Scene μ} {memory : GatewayMemory μ} {events : List Event} (now : Nat)
      (makes : Makes gateway scene now .retry events next) :
      Handles gateway told ⟨scene, memory⟩ events ⟨next, memory⟩
  | handOver {scene next : Scene μ} {memory : GatewayMemory μ} {events : List Event} (now : Nat)
      (makes : Makes gateway scene now .handOver events next) :
      Handles gateway told ⟨scene, memory⟩ events ⟨next, memory⟩
  /-- The notifications are given while subscribers take and close. -/
  | give {scene : Scene μ} {memory : GatewayMemory μ} {notifications : List Notification}
      {after : List Subscriber}
      (giving : scene.run.pump = .handingOver ⟨notifications, .give⟩)
      (gives : Audience.Gives notifications scene.audience.subscribers after) :
      Handles gateway told ⟨scene, memory⟩
        [.gave notifications scene.audience.subscribers after]
        ⟨⟨{ scene.run with
            pump := .handingOver
              ⟨notifications, if after.isEmpty then .register else .finished⟩ },
          { scene.audience with subscribers := after }⟩, memory⟩
  | acknowledge {scene next : Scene μ} {memory : GatewayMemory μ} {events : List Event} (now : Nat)
      (makes : Makes gateway scene now .acknowledge events next) :
      Handles gateway told ⟨scene, memory⟩ events ⟨next, memory⟩

/-- Whether a move is made without regard to the pump. -/
def isBeside : GatewayRun.Move (Pass μ) → Bool
  | .dispatchBatch _ => true
  | .dispatchReply _ => true
  | .endFeed => true
  | .forward => true
  | .endForwarding => true
  | _ => false

/-- What may go on beside the handling of a batch. -/
inductive Beside (gateway : Gateway μ) : Desk μ → List Event → Desk μ → Prop where
  | move {scene next : Scene μ} {memory : GatewayMemory μ} {events : List Event} (now : Nat)
      (move : GatewayRun.Move (Pass μ)) (beside : isBeside move = true)
      (makes : Makes gateway scene now move events next) :
      Beside gateway ⟨scene, memory⟩ events ⟨next, memory⟩
  /-- A subscriber does something. -/
  | change {scene : Scene μ} {memory : GatewayMemory μ} {audience : Audience}
      (changes : scene.audience.Changes audience) :
      Beside gateway ⟨scene, memory⟩ [] ⟨⟨scene.run, audience⟩, memory⟩

/-- Where the handling of a batch may come to while a subscriber stays, in a number of steps of
its own, and all that was shown. -/
inductive Handling (gateway : Gateway μ) (told : String → Outcome) (id : Nat) (start : Desk μ) :
    Nat → List Event → Desk μ → Prop where
  | start (attended : start.scene.audience.Attended id) : Handling gateway told id start 0 [] start
  | own {steps : Nat} {log events : List Event} {desk next : Desk μ}
      (handling : Handling gateway told id start steps log desk)
      (handles : Handles gateway told desk events next)
      (attended : next.scene.audience.Attended id) :
      Handling gateway told id start (steps + 1) (log ++ events) next
  | beside {steps : Nat} {log events : List Event} {desk next : Desk μ}
      (handling : Handling gateway told id start steps log desk)
      (beside : Beside gateway desk events next)
      (attended : next.scene.audience.Attended id) :
      Handling gateway told id start steps (log ++ events) next

/-! ## What is shown -/

/-- What a pass came to. -/
def Event.result? : Event → Option (Except BridgeError (List Notification))
  | .failed error => some (.error error)
  | .passed notifications => some (.ok notifications)
  | _ => none

/-- What the passes came to, in order. -/
def results (log : List Event) : List (Except BridgeError (List Notification)) :=
  log.filterMap Event.result?

@[simp]
theorem results_append (log events : List Event) :
    results (log ++ events) = results log ++ results events :=
  List.filterMap_append

/-- Events that tell of no batch, no end of a pass and no acknowledgement. -/
structure Silent (events : List Event) : Prop where
  results : results events = []
  received : received events = []
  acknowledgements : acknowledgements events = 0

theorem silent_did (deeds : List Deed) : Silent (deeds.map .did) := by
  have inner := isInner_of_did deeds
  refine ⟨?_, received_of_inner inner, acknowledgements_of_inner inner⟩
  refine List.filterMap_eq_nil_iff.2 fun event member => ?_
  obtain ⟨deed, -, rfl⟩ := List.mem_map.1 member
  rfl

theorem silent_given (handOver : HandOver) (before after : Audience) :
    Silent (given handOver before after) := by
  obtain ⟨notifications, stage⟩ := handOver
  cases stage <;> exact ⟨rfl, rfl, rfl⟩

/-! ## What a move does -/

section Makes

variable {gateway : Gateway μ} {scene next : Scene μ} {now : Nat} {events : List Event}
  {batch : Batch} {pass : Pass μ} {notifications : List Notification}

theorem Makes.moves {move : GatewayRun.Move (Pass μ)}
    (makes : Makes gateway scene now move events next) :
    ∃ requests, GatewayRun.Moves gateway.begin gateway.retryDelay now scene.run scene.audience
        move next.run next.audience requests ∧
      events = shown scene next.audience move ++ requests.flatMap asked := by
  obtain ⟨requests, possible, shows⟩ := makes
  exact ⟨requests, GatewayRun.moves_of_step possible, shows⟩

theorem makes_of_moves {move : GatewayRun.Move (Pass μ)} {run : GatewayRun (Pass μ)}
    {audience : Audience} {requests : List GatewayRun.Request}
    (moves : GatewayRun.Moves gateway.begin gateway.retryDelay now scene.run scene.audience
      move run audience requests) :
    Makes gateway scene now move (shown scene audience move ++ requests.flatMap asked)
      ⟨run, audience⟩ :=
  ⟨requests, GatewayRun.step_eq_some_iff.2 moves, rfl⟩

/-- What a pass that ends shows, and what it leaves. -/
inductive Concluded (gateway : Gateway μ) (scene : Scene μ) (now : Nat) (batch : Batch) :
    Except BridgeError (List Notification) → List Event → Scene μ → Prop where
  | failed (error : BridgeError) :
      Concluded gateway scene now batch (.error error) [.failed error]
        ⟨{ scene.run with pump := .backingOff batch (now + gateway.retryDelay) }, scene.audience⟩
  | passedNothing :
      Concluded gateway scene now batch (.ok []) [.passed [], .acknowledged]
        ⟨{ scene.run with pump := .idle }, scene.audience⟩
  | passed {notifications : List Notification} (some : notifications ≠ []) :
      Concluded gateway scene now batch (.ok notifications) [.passed notifications]
        ⟨{ scene.run with pump := .handingOver (.ofList notifications) }, scene.audience⟩

theorem makes_conclude_iff (processing : scene.run.pump = .processing batch pass)
    (result : Except BridgeError (List Notification)) :
    Makes gateway scene now (.conclude result) events next ↔
      Concluded gateway scene now batch result events next := by
  constructor
  · obtain ⟨run, audience⟩ := next
    rintro makes
    obtain ⟨requests, moves, rfl⟩ := makes.moves
    cases moves with
    | failed error other =>
        cases processing.symm.trans other
        exact .failed error
    | passedNothing other =>
        cases processing.symm.trans other
        exact .passedNothing
    | passed other some =>
        cases processing.symm.trans other
        exact .passed some
  · intro concluded
    cases concluded with
    | failed error => exact makes_of_moves (.failed error processing)
    | passedNothing => exact makes_of_moves (.passedNothing processing)
    | passed some => exact makes_of_moves (.passed processing some)

/-- However a pass ends it is concluded, and leaves the audience as it was. -/
theorem exists_concluded (gateway : Gateway μ) (scene : Scene μ) (now : Nat) (batch : Batch)
    (result : Except BridgeError (List Notification)) :
    ∃ events next, Concluded gateway scene now batch result events next ∧
      next.audience = scene.audience := by
  rcases result with error | ⟨_ | ⟨first, rest⟩⟩
  · exact ⟨_, _, .failed error, rfl⟩
  · exact ⟨_, _, .passedNothing, rfl⟩
  · exact ⟨_, _, .passed (List.cons_ne_nil first rest), rfl⟩

theorem makes_retry_iff :
    Makes gateway scene now .retry events next ↔
      ∃ batch due, scene.run.pump = .backingOff batch due ∧ due ≤ now ∧ events = [] ∧
        next = ⟨{ scene.run with pump := .processing batch (gateway.begin batch) },
          scene.audience⟩ := by
  constructor
  · obtain ⟨run, audience⟩ := next
    intro makes
    obtain ⟨requests, moves, rfl⟩ := makes.moves
    cases moves with
    | retry waiting late => exact ⟨_, _, waiting, late, rfl, rfl⟩
  · rintro ⟨batch, due, waiting, late, rfl, rfl⟩
    exact makes_of_moves (.retry waiting late)

theorem makes_handOver_iff :
    Makes gateway scene now .handOver events next ↔
      ∃ handOver further audience, scene.run.pump = .handingOver handOver ∧
        handOver.step scene.audience = some (further, audience) ∧
        events = given handOver scene.audience audience ∧
        next = ⟨{ scene.run with pump := .handingOver further }, audience⟩ := by
  have shows {handOver : HandOver} (handing : scene.run.pump = .handingOver handOver)
      (after : Audience) : shown scene after .handOver = given handOver scene.audience after := by
    rw [shown, handing]
  constructor
  · obtain ⟨run, audience⟩ := next
    intro makes
    obtain ⟨requests, moves, rfl⟩ := makes.moves
    cases moves with
    | handOver handing steps =>
        exact ⟨_, _, _, handing, steps, (List.append_nil _).trans (shows handing _), rfl⟩
  · rintro ⟨handOver, further, audience, handing, steps, rfl, rfl⟩
    rw [← shows handing, ← List.append_nil (shown _ _ _)]
    exact makes_of_moves (.handOver handing steps)

theorem makes_acknowledge_iff :
    Makes gateway scene now .acknowledge events next ↔
      ∃ notifications, scene.run.pump = .handingOver ⟨notifications, .finished⟩ ∧
        events = [.acknowledged] ∧ next = ⟨{ scene.run with pump := .idle }, scene.audience⟩ := by
  constructor
  · obtain ⟨run, audience⟩ := next
    intro makes
    obtain ⟨requests, moves, rfl⟩ := makes.moves
    cases moves with
    | acknowledge handing => exact ⟨_, handing, rfl, rfl⟩
  · rintro ⟨notifications, handing, rfl, rfl⟩
    exact makes_of_moves (.acknowledge handing)

/-- What is made beside the pump leaves it alone, and at most puts a batch behind the others. -/
theorem Makes.beside {move : GatewayRun.Move (Pass μ)}
    (makes : Makes gateway scene now move events next) (beside : isBeside move = true) :
    next.run.pump = scene.run.pump ∧
      next.run.batches = scene.run.batches ++ received events ∧ results events = [] ∧
      acknowledgements events = 0 := by
  obtain ⟨run, audience⟩ := next
  obtain ⟨requests, moves, rfl⟩ := makes.moves
  cases moves with
  | dispatchBatch batch => exact ⟨rfl, rfl, rfl, rfl⟩
  | dispatchReply reply => exact ⟨rfl, (List.append_nil _).symm, rfl, rfl⟩
  | endFeed => exact ⟨rfl, (List.append_nil _).symm, rfl, rfl⟩
  | forward => exact ⟨rfl, (List.append_nil _).symm, rfl, rfl⟩
  | endForwarding => exact ⟨rfl, (List.append_nil _).symm, rfl, rfl⟩
  | _ => cases beside

end Makes

/-! ## What a step does -/

variable {gateway : Gateway μ} {told : String → Outcome} {id : Nat} {batch : Batch}
  {start desk next : Desk μ} {log events : List Event}

/-- What a step can be, by where the pump stands. -/
def Onward (gateway : Gateway μ) (told : String → Outcome) (desk : Desk μ) (events : List Event)
    (next : Desk μ) : Pump (Pass μ) → Prop
  | .processing batch _ => ∃ deeds result now shown,
      ComesAlone (gateway.begin batch) desk.memory deeds result next.memory ∧
      Abides told (callsOf deeds) ∧
      Concluded gateway desk.scene now batch result shown next.scene ∧
      events = deeds.map .did ++ shown
  | .backingOff batch _ => events = [] ∧ next =
      ⟨⟨{ desk.scene.run with pump := .processing batch (gateway.begin batch) },
        desk.scene.audience⟩, desk.memory⟩
  | .handingOver handOver => next.scene.run.batches = desk.scene.run.batches ∧
      ((handOver.stage = .finished ∧ events = [.acknowledged] ∧ next.scene.run.pump = .idle) ∨
        (Silent events ∧ ∃ further, next.scene.run.pump = .handingOver further ∧
          (handOver.step desk.scene.audience = some (further, next.scene.audience) ∨
            handOver.stage = .give ∧ further = ⟨handOver.notifications,
              if next.scene.audience.subscribers.isEmpty then .register else .finished⟩)))
  | _ => False

theorem Handles.onward (handles : Handles gateway told desk events next) :
    Onward gateway told desk events next desk.scene.run.pump := by
  cases handles with
  | pass now begun comes abides makes =>
      rw [begun]
      exact ⟨_, _, now, _, comes, abides, (makes_conclude_iff begun _).1 makes, rfl⟩
  | retry now makes =>
      obtain ⟨batch, due, failed, -, rfl, rfl⟩ := makes_retry_iff.1 makes
      rw [failed]
      exact ⟨rfl, rfl⟩
  | handOver now makes =>
      obtain ⟨handOver, further, audience, handing, steps, rfl, rfl⟩ := makes_handOver_iff.1 makes
      rw [handing]
      exact ⟨rfl, .inr ⟨silent_given _ _ _, further, rfl, .inl steps⟩⟩
  | give giving gives =>
      rw [giving]
      exact ⟨rfl, .inr ⟨⟨rfl, rfl, rfl⟩, _, rfl, .inr ⟨rfl, rfl⟩⟩⟩
  | acknowledge now makes =>
      obtain ⟨notifications, finished, rfl, rfl⟩ := makes_acknowledge_iff.1 makes
      rw [finished]
      exact ⟨rfl, .inl ⟨rfl, rfl, rfl⟩⟩

/-- The batches that wait are left alone by the handling of another one. -/
theorem Handles.batches (handles : Handles gateway told desk events next) :
    received events = [] ∧ next.scene.run.batches = desk.scene.run.batches := by
  have onward := handles.onward
  generalize desk.scene.run.pump = pump at onward
  cases pump with
  | idle => exact onward.elim
  | processing batch pass =>
      obtain ⟨deeds, result, now, shown, -, -, concluded, rfl⟩ := onward
      rw [received_append, (silent_did deeds).received]
      obtain ⟨scene, memory⟩ := next
      cases concluded <;> exact ⟨rfl, rfl⟩
  | backingOff batch due =>
      obtain ⟨rfl, rfl⟩ := onward
      exact ⟨rfl, rfl⟩
  | handingOver handOver =>
      obtain ⟨same, ⟨-, rfl, -⟩ | ⟨silent, -⟩⟩ := onward
      · exact ⟨rfl, same⟩
      · exact ⟨silent.received, same⟩
  | stopped => exact onward.elim

/-- What goes on beside a handling leaves it where it is. -/
theorem Beside.keeps (beside : Beside gateway desk events next) :
    next.memory = desk.memory ∧ next.scene.run.pump = desk.scene.run.pump ∧
      next.scene.run.batches = desk.scene.run.batches ++ received events ∧
      ∀ log, results (log ++ events) = results log ∧
        acknowledgements (log ++ events) = acknowledgements log := by
  cases beside with
  | move now move beside makes =>
      obtain ⟨pump, batches, quiet, unacknowledged⟩ := makes.beside beside
      refine ⟨rfl, pump, batches, fun log => ?_⟩
      rw [results_append, quiet, acknowledgements_append, unacknowledged]
      exact ⟨List.append_nil _, rfl⟩
  | change changes =>
      refine ⟨rfl, rfl, (List.append_nil _).symm, fun log => ?_⟩
      rw [List.append_nil]
      exact ⟨rfl, rfl⟩

/-! ## The steps are those of a gateway among its subscribers -/

theorem Makes.step {scene after : Scene μ} {now : Nat} {move : GatewayRun.Move (Pass μ)}
    {deeds : List Deed} (makes : Makes gateway scene now move events after)
    (permits : Permits scene.run.pump move deeds) :
    Step gateway scene (deeds.map .did ++ events) after := by
  obtain ⟨requests, possible, rfl⟩ := makes
  rw [← List.append_assoc]
  exact .move now move permits possible

theorem History.makes {scene after : Scene μ} {now : Nat} {move : GatewayRun.Move (Pass μ)}
    (history : History gateway log scene) (makes : Makes gateway scene now move events after)
    (apart : isOfPass move = false) : History gateway (log ++ events) after := by
  exact history.step (makes.step (.other apart))

/-- A pass is made step by step. -/
theorem History.comesTo {scene : Scene μ} {pass : Pass μ} {deeds : List Deed}
    {result : Except BridgeError (List Notification)} (history : History gateway log scene)
    (processing : scene.run.pump = .processing batch pass)
    (comesTo : ComesTo pass deeds result) :
    History gateway (log ++ deeds.map .did)
      ⟨{ scene.run with pump := .processing batch (.done result) }, scene.audience⟩ := by
  induction comesTo generalizing log scene with
  | done result =>
      rw [List.map_nil, List.append_nil, ← processing]
      exact history
  | @step pass further deeds later result proceeds _ induction =>
      have makes : Makes gateway scene 0 (.proceed further) []
          ⟨{ scene.run with pump := .processing batch further }, scene.audience⟩ :=
        makes_of_moves (.proceed further processing)
      have permits : Permits scene.run.pump (.proceed further) deeds :=
        processing ▸ .proceed proceeds
      have goesOn := induction (history.step (makes.step permits)) rfl
      rwa [List.append_nil, List.append_assoc, ← List.map_append] at goesOn

theorem Handles.history (handles : Handles gateway told desk events next)
    (history : History gateway log desk.scene) : History gateway (log ++ events) next.scene := by
  cases handles with
  | @pass scene after _ _ batch deeds result events now begun comes abides makes =>
      have concludes : Makes gateway ⟨{ scene.run with pump := .processing batch (.done result) },
          scene.audience⟩ now (.conclude result) events after := by
        obtain ⟨⟨batches, replies, ended, pump, forwarding⟩, audience⟩ := scene
        obtain rfl : pump = .processing batch (gateway.begin batch) := begun
        exact makes
      rw [← List.append_assoc]
      exact (history.comesTo begun comes.comesTo).step (concludes.step (.conclude result))
  | retry now makes => exact history.makes makes rfl
  | handOver now makes => exact history.makes makes rfl
  | give giving gives => exact history.step (.give giving gives)
  | acknowledge now makes => exact history.makes makes rfl

theorem Beside.history (beside : Beside gateway desk events next)
    (history : History gateway log desk.scene) : History gateway (log ++ events) next.scene := by
  cases beside with
  | move now move beside makes =>
      refine history.makes makes ?_
      cases move <;> first | rfl | cases beside
  | change changes => exact history.step (.change changes)

/-! ## Whole handlings -/

namespace Handling

variable {steps : Nat}

theorem attended (handling : Handling gateway told id start steps log desk) :
    desk.scene.audience.Attended id := by
  cases handling with
  | start attended => exact attended
  | own _ _ attended => exact attended
  | beside _ _ attended => exact attended

theorem history {past : List Event} (handling : Handling gateway told id start steps log desk)
    (history : History gateway past start.scene) :
    History gateway (past ++ log) desk.scene := by
  induction handling with
  | start => rwa [List.append_nil]
  | own _ handles _ induction =>
      rw [← List.append_assoc]
      exact handles.history induction
  | beside _ beside _ induction =>
      rw [← List.append_assoc]
      exact beside.history induction

/-- The batches that wait stay in their order, and those that are received come behind them. -/
theorem batches (handling : Handling gateway told id start steps log desk) :
    desk.scene.run.batches = start.scene.run.batches ++ received log := by
  induction handling with
  | start => exact (List.append_nil _).symm
  | own _ handles _ induction =>
      obtain ⟨none, same⟩ := handles.batches
      rw [same, induction, received_append, none, List.append_nil]
  | beside _ beside _ induction =>
      obtain ⟨-, -, later, -⟩ := beside.keeps
      rw [later, induction, received_append, List.append_assoc]

end Handling

end Gateway

end TokenRelay
