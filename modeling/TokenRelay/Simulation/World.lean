import TokenRelay.Connector.Client
import TokenRelay.Gateway.Run
import TokenRelay.Simulation.Connector
import TokenRelay.Simulation.Line

/-!
# A relay under a virtual clock

A world holds a connector in memory, the subscribers, and at most one feed with its
reader.  Time stands still while anything can happen; then the clock goes on to the next
instant at which something is due.

A task in the foreground is waited for up to a deadline.  At each instant it comes first,
then what happens in the background.
-/

namespace TokenRelay.Simulation

/-- The URI templates that the gateway's transformers keep, by topic. -/
abbrev Templates := List (String × String)

namespace Templates

/-- The template that a topic's transformer keeps. -/
def ofTopic (topic : String) (templates : Templates) : Listener.Memory :=
  templates.lookup topic

/-- Remember the template of a topic, if it is known. -/
def keep (topic : String) (template : Listener.Memory) (templates : Templates) :
    Templates :=
  match template with
  | some text => (topic, text) :: templates
  | none => templates

end Templates

/-- What the procedures of a world share. -/
structure Memory where
  now : Nat
  connector : Connector
  gateway : GatewayMemory Templates
  /-- The template of a listener that works apart from the gateway. -/
  template : Listener.Memory

namespace Memory

variable {α : Type}

/-- The memory before anything was asked. -/
def start (connector : Connector) : Memory :=
  ⟨0, connector, ⟨[], []⟩, none⟩

/-- Use what the gateway keeps. -/
def withGateway (task : Task (GatewayMemory Templates) α) : Task Memory α :=
  ExceptT.mk (task.run.within (·.gateway) fun gateway memory =>
    { memory with gateway := gateway })

/-- Use the template of the listener that works apart. -/
def withTemplate (procedure : Procedure Answer Listener.Memory α) : Task Memory α :=
  ExceptT.mk do
    let value ← procedure.within (·.template) fun template memory =>
      { memory with template := template }
    return .ok value

/-- Let the connector answer a request. -/
def answer (request : Request) : Procedure Unit Memory Outcome :=
  .recall fun memory =>
    let (outcome, connector) := memory.connector.answer request
    .remember (fun memory => { memory with connector := connector }) (.done outcome)

/-- Let the connector receive a request and react to it or answer it. -/
def serve (request : Request) : Procedure Unit Memory Outcome :=
  .recall fun memory =>
    let (reaction, connector) := memory.connector.receive memory.now request
    .remember (fun memory => { memory with connector := connector })
      (match reaction with
        | none => answer request
        | some reaction =>
          .pause reaction.delay
            (match reaction.outcome with
              | some outcome => .done outcome
              | none => answer request))

end Memory

/-- A relay with everything around it. -/
structure World where
  client : Client
  routes : Routes Templates
  /-- The delay of the gateway after a pass that failed. -/
  retryDelay : Nat
  memory : Memory
  audience : Audience
  line : Option (Line Memory)

namespace World

variable {α κ : Type}

/-- A world in which nothing was done yet. -/
def start (client : Client) (routes : Routes Templates) (retryDelay : Nat)
    (connector : Connector) : World :=
  ⟨client, routes, retryDelay, .start connector, .empty, none⟩

/-- The present instant. -/
def now (world : World) : Nat :=
  world.memory.now

/-- A task as the client performs it against the connector. -/
def program (world : World) (task : Task Memory α) :
    Procedure Unit Memory (Except BridgeError α) :=
  (world.client.perform task.run).answeredBy Memory.serve

/-- A pass over a batch that begins now. -/
def beginPass (world : World) (batch : Batch) : Pass Memory :=
  .start world.now (world.program (Memory.withGateway (world.routes.process batch)))

/-! ## The background -/

/-- Do what the gateway asks of the feed. -/
def command (line : Line Memory) : GatewayRun.Request → Line Memory
  | .acknowledge => line.command .acknowledge
  | .release => line.command .close

/-- Make a move of the gateway, if it is possible. -/
def moveGateway (world : World) (line : Line Memory) (run : GatewayRun (Pass Memory))
    (move : GatewayRun.Move (Pass Memory)) : Option World :=
  match run.step world.beginPass world.retryDelay world.now world.audience move with
  | some (run, audience, requests) =>
    let line := requests.foldl command { line with outlet := .gateway run }
    some { world with audience := audience, line := some line }
  | none => none

/-- Let the gateway's pass go on, or conclude it. -/
def stepPass (world : World) (line : Line Memory) (run : GatewayRun (Pass Memory)) :
    Option World :=
  match run.pump with
  | .processing _ (.ended result) => world.moveGateway line run (.conclude result)
  | .processing _ (.asleep due rest) =>
    if due ≤ world.now then
      let (pass, memory) := rest.run world.now world.memory
      { world with memory := memory }.moveGateway line run (.proceed pass)
    else
      none
  | _ => none

/-- The moves of a gateway other than its passes, the first possible one being made. -/
def gatewayMoves (line : Line Memory) : List (GatewayRun.Move (Pass Memory)) :=
  (if line.phase.isClosed then [.endFeed] else []) ++
    [.forward, .endForwarding, .take, .retry, .handOver, .acknowledge, .stop]

/-- One event in the background, if one is possible at this instant. -/
def step (world : World) : Option World :=
  match world.line with
  | none => none
  | some line =>
    match line.step world.now with
    | some line => some { world with line := some line }
    | none =>
      match line.outlet with
      | .gateway run =>
        match world.stepPass line run with
        | some world => some world
        | none => (gatewayMoves line).findSome? (world.moveGateway line run)
      | _ => none

/-- Let things happen, up to a number of them. -/
def settleWithin : Nat → World → World
  | 0, world => world
  | fuel + 1, world =>
    match world.step with
    | some world => settleWithin fuel world
    | none => world

/-- The most that happens at one instant. -/
def busyLimit : Nat := 100000

/-- Let everything happen that can happen at this instant. -/
def settle (world : World) : World :=
  settleWithin busyLimit world

/-- When a gateway's run goes on by itself. -/
def runDue? (run : GatewayRun (Pass Memory)) : Option Nat :=
  match run.pump with
  | .processing _ pass => pass.due?
  | .backingOff _ due => some due
  | _ => none

/-- When something happens in the background by itself. -/
def due? (world : World) : Option Nat :=
  match world.line with
  | none => none
  | some line =>
    match line.outlet with
    | .gateway run => earlier? line.due? (runDue? run)
    | _ => line.due?

/-! ## The foreground -/

/-- Something that is waited for: how it goes on, and when it is due. -/
structure Wait (κ α : Type) where
  /-- Go on as far as possible now, to the end or to what is left. -/
  poll : World → κ → (κ ⊕ α) × World
  /-- When what is left goes on by itself. -/
  due? : κ → Option Nat

/-- Let the clock go on. -/
def atInstant (instant : Nat) (world : World) : World :=
  { world with memory := { world.memory with now := instant } }

/--
Wait for something from instant to instant, up to a deadline; the fuel is the time left.
-/
def awaitWithin (wait : Wait κ α) (deadline : Nat) :
    Nat → κ → World → Option α × World
  | 0, _, world => (none, world)
  | fuel + 1, state, world =>
    match wait.poll world state with
    | (.inr value, world) => (some value, world.settle)
    | (.inl state, world) =>
      if deadline ≤ world.now then
        (none, world.settle)
      else
        let world := world.settle
        match wait.poll world state with
        | (.inr value, world) => (some value, world.settle)
        | (.inl state, world) =>
          let next := match earlier? (wait.due? state) world.due? with
            | some due => min deadline (max due (world.now + 1))
            | none => deadline
          awaitWithin wait deadline fuel state (world.atInstant next)

/-- Wait for something, up to some time from now. -/
def await (wait : Wait κ α) (state : κ) (limit : Nat) (world : World) :
    Option α × World :=
  awaitWithin wait (world.now + limit) (limit + 1) state world

/-- Wait for a thread to end. -/
def threadWait : Wait (Thread Memory α) α where
  poll := fun world thread =>
    let (thread, memory) := thread.wake world.now world.memory
    let world := { world with memory := memory }
    match thread with
    | .ended value => (.inr value, world)
    | asleep => (.inl asleep, world)
  due? := Thread.due?

/-- Carry out a task while everything else goes on. -/
def perform (task : Task Memory α) (limit : Nat) (world : World) :
    Option (Except BridgeError α) × World :=
  world.await threadWait (.start world.now (world.program task)) limit

/-- Threads side by side in the foreground. -/
def joinedWait {ε : Type} :
    Wait (List (Thread Memory (Except ε α))) (Except ε (List α)) where
  poll := fun world threads =>
    match Thread.wakeAll world.now threads world.memory with
    | (.failed error, memory) => (.inr (.error error), { world with memory := memory })
    | (.running threads, memory) =>
      let world := { world with memory := memory }
      match Thread.valuesOf threads with
      | some values => (.inr (.ok values), world)
      | none => (.inl threads, world)
  due? := fun threads => threads.foldl (fun due thread => earlier? due thread.due?) none

/-- Perform tasks side by side, up to the first failure. -/
def performAll (tasks : List (Task Memory α)) (limit : Nat) (world : World) :
    Option (Except BridgeError (List α)) × World :=
  let threads := tasks.map fun task => Thread.start world.now (world.program task)
  world.await joinedWait threads limit

/-- Let some time pass. -/
def sleep (duration limit : Nat) (world : World) : Option Unit × World :=
  let wait : Wait Nat Unit :=
    { poll := fun world due =>
        if due ≤ world.now then (.inr (), world) else (.inl due, world)
      due? := some }
  world.await wait (world.now + duration) limit

/-- Let a hand-over make some steps. -/
def handOverWithin : Nat → HandOver → Audience → HandOver × Audience
  | 0, handOver, audience => (handOver, audience)
  | fuel + 1, handOver, audience =>
    match handOver.step audience with
    | some (handOver, audience) => handOverWithin fuel handOver audience
    | none => (handOver, audience)

/-- Hand notifications over to the subscribers. -/
def deliver (notifications : List Notification) (limit : Nat) (world : World) :
    Option Unit × World :=
  let wait : Wait HandOver Unit :=
    { poll := fun world handOver =>
        let (handOver, audience) := handOverWithin busyLimit handOver world.audience
        let world := { world with audience := audience }
        if handOver.isFinished then (.inr (), world) else (.inl handOver, world)
      due? := fun _ => none }
  world.await wait (.ofList notifications) limit

/-- Whether a line's socket is in a state, or will never be in another. -/
def hasReached (state : ConnectionState) (world : World) : Bool :=
  match world.line with
  | some line => line.state = state || line.phase.isClosed
  | none => true

/-- Wait until the socket is in a state. -/
def awaitState (state : ConnectionState) (limit : Nat) (world : World) :
    Option Unit × World :=
  let wait : Wait Unit Unit :=
    { poll := fun world _ =>
        if world.hasReached state then (.inr (), world) else (.inl (), world)
      due? := fun _ => none }
  world.await wait () limit

end World

end TokenRelay.Simulation
