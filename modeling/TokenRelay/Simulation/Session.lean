import TokenRelay.Simulation.World
import TokenRelay.Token.Service

/-!
# Sessions

A session works in a world step by step: it calls the connector, runs a service, keeps
named subscribers, and holds one end of a feed.  After every step the world comes to rest
and the session reports what happened.
-/

namespace TokenRelay.Simulation

/-- Who holds the handle of the socket. -/
inductive Hold where
  | nothing
  | socket
  | gateway
  deriving DecidableEq, Repr

/-- Someone who works in a world. -/
structure Session where
  config : Config
  world : World
  service : Option Service
  subscribers : List (String × Nat)
  /-- How many subscribers were ever attached. -/
  attached : Nat
  hold : Hold

/-- What happened during a step. -/
structure Report where
  requests : List LoggedRequest
  sights : List LoggedSight
  batches : List Batch
  replies : List Reply
  received : List (String × List Notification)

namespace Session

variable {α : Type}

/-- A session of which no step was made. -/
def start (config : Config) (client : Client) (routes : Routes Templates)
    (retryDelay : Nat) (connector : Connector) : Session :=
  ⟨config, .start client routes retryDelay connector, none, [], 0, .nothing⟩

/-- The listener of a topic and a contract, with its template among those kept. -/
def listenerRoute (listener : Listener) : Transformer Templates :=
  .ofListener listener (Templates.ofTopic listener.topic) (Templates.keep listener.topic)

/-- A transformer that only tells which event came to it. -/
def echoRoute (topic : String) : Transformer Templates where
  topic := topic
  transform := fun subscription event =>
    .done [.receipt
      ⟨subscription, true, some (event.transactionHash ++ " via " ++ topic)⟩]

/-- Carry out a task for as long as the limit permits. -/
def perform (task : Task Memory α) (limit : Nat) (session : Session) :
    Option (Except BridgeError α) × Session :=
  let (result, world) := session.world.perform task limit
  (result, { session with world := world })

/-- Perform tasks side by side. -/
def performAll (tasks : List (Task Memory α)) (limit : Nat) (session : Session) :
    Option (Except BridgeError (List α)) × Session :=
  let (result, world) := session.world.performAll tasks limit
  (result, { session with world := world })

/-- Make a service; the one made last is the session's. -/
def serve (task : Task Memory (Service × Option Reconcile.Result)) (limit : Nat)
    (session : Session) :
    Option (Except BridgeError (Service × Option Reconcile.Result)) × Session :=
  let (result, session) := session.perform task limit
  match result with
  | some (.ok (service, _)) => (result, { session with service := some service })
  | _ => (result, session)

/-- Let time pass. -/
def sleep (duration limit : Nat) (session : Session) : Option Unit × Session :=
  let (result, world) := session.world.sleep duration limit
  (result, { session with world := world })

/-- Hand notifications over. -/
def deliver (notifications : List Notification) (limit : Nat) (session : Session) :
    Option Unit × Session :=
  let (result, world) := session.world.deliver notifications limit
  (result, { session with world := world })

/-- Wait for a state of the socket. -/
def awaitState (state : ConnectionState) (limit : Nat) (session : Session) :
    Option Unit × Session :=
  let (result, world) := session.world.awaitState state limit
  (result, { session with world := world })

/-- Let the world come to rest. -/
def settle (session : Session) : Session :=
  { session with world := session.world.settle }

/-- Change the audience. -/
def onAudience (change : Audience → Audience) (session : Session) : Session :=
  { session with
    world := { session.world with audience := change session.world.audience } }

/-- Change the line, if there is one. -/
def onLine (change : Line Memory → Line Memory) (session : Session) : Session :=
  { session with world := { session.world with line := session.world.line.map change } }

/-- Change the connector. -/
def onConnector (change : Connector → Connector) (session : Session) : Session :=
  let memory := session.world.memory
  { session with
    world := { session.world with
      memory := { memory with connector := change memory.connector } } }

/-! ## Subscribers -/

/-- The number of subscribers who are open. -/
def subscriberCount (session : Session) : Nat × Session :=
  let session := session.onAudience Audience.prune
  (session.world.audience.size, session)

/-- Close the subscriber of a name. -/
def unsubscribe (name : String) (session : Session) : Session :=
  match session.subscribers.lookup name with
  | none => session
  | some id =>
    { session.onAudience (Audience.close id) with
      subscribers := session.subscribers.filter (·.1 ≠ name) }

/-- Attach a subscriber in the place of any other of its name. -/
def subscribe (name : String) (session : Session) : Nat × Session :=
  let id := session.attached
  let session := { session.onAudience (Audience.attach id) with attached := id + 1 }
  let session := session.unsubscribe name
  { session with subscribers := session.subscribers ++ [(name, id)] }.subscriberCount

/-! ## The feed -/

/-- Open a feed, read by the session or by its gateway. -/
def connect (peer : Peer) (byGateway : Bool) (session : Session) : Session :=
  let settings : SocketSettings := ⟨session.config.topic, session.config.feed⟩
  let outlet : Outlet Memory := if byGateway then .gateway .start else .collected [] []
  { session with
    world := { session.world with line := some (.start settings peer outlet) }
    hold := if byGateway then .gateway else .socket }

/-- Put something on the feed's connection, if one is open. -/
def push (arrival : Socket.Arrival) (session : Session) : Bool × Session :=
  let isOpen := match session.world.line with
    | some line => line.peer.isOpen
    | none => false
  (isOpen, session.onLine fun line => { line with peer := line.peer.push arrival })

/-- Let the peer hang up; whether it was there to do so. -/
def hangUp (session : Session) : Bool × Session :=
  let isPresent := match session.world.line with
    | some line => line.peer.present
    | none => false
  (isPresent, session.onLine fun line => { line with peer := line.peer.hangUp })

/-- Whether the feed has closed for good. -/
def isClosed (session : Session) : Bool :=
  match session.world.line with
  | some line => line.phase.isClosed
  | none => true

/-- Acknowledge a batch; refused once the feed has closed. -/
def acknowledge (session : Session) : Except TransportError Unit × Session :=
  if session.isClosed then
    (.error (.webSocket "feed task closed"), session)
  else
    (.ok (), session.onLine (Line.command .acknowledge))

/-- Ask the socket to close. -/
def close (session : Session) : Session :=
  session.onLine (Line.command .close)

/-- Let go of the socket, which closes it. -/
def dropSocket (session : Session) : Bool × Session :=
  if session.hold = .socket then
    (true, { session.close with hold := .nothing })
  else
    (false, session)

/-- Let go of what collects batches and replies. -/
def dropReceivers (session : Session) : Bool × Session :=
  match session.world.line with
  | some { outlet := .collected _ _, .. } =>
    (true, session.onLine fun line => { line with outlet := .nobody })
  | _ => (false, session)

/-- Stop the gateway's run from outside. -/
def abortGateway (session : Session) : Bool × Session :=
  if session.hold = .gateway then
    let session := { session with hold := .nothing }
    match session.world.line with
    | some line =>
      match line.outlet with
      | .gateway run =>
        match session.world.moveGateway line run .abort with
        | some world => (true, { session with world := world })
        | none => (true, session)
      | _ => (true, session)
    | none => (true, session)
  else
    (false, session)

/-- Whether the gateway's run goes on; absent where the session holds none. -/
def gatewayRunning? (session : Session) : Option Bool :=
  match session.hold, session.world.line with
  | .gateway, some { outlet := .gateway run, .. } => some run.isRunning
  | _, _ => none

/-- The state of the socket that the session holds. -/
def state? (session : Session) : Option ConnectionState :=
  match session.hold with
  | .socket => session.world.line.map (·.state)
  | _ => none

/-! ## Reports -/

/-- What happened since the last report. -/
def report (session : Session) : Report :=
  let sights := match session.world.line with
    | some line => line.peer.log.reverse
    | none => []
  let (batches, replies) : List Batch × List Reply := match session.world.line with
    | some { outlet := .collected batches replies, .. } => (batches, replies)
    | _ => ([], [])
  { requests := session.world.memory.connector.log.reverse
    sights := sights
    batches := batches
    replies := replies
    received := session.subscribers.map fun (name, id) =>
      (name, session.world.audience.pending id) }

/-- Forget what was reported. -/
def clear (session : Session) : Session :=
  let session := session.onConnector fun connector => { connector with log := [] }
  let session := session.onAudience Audience.drain
  session.onLine fun line =>
    { line with
      peer := { line.peer with log := [] }
      outlet := match line.outlet with
        | .collected _ _ => .collected [] []
        | other => other }

end Session

end TokenRelay.Simulation
