import TokenRelay.Gateway.Run
import TokenRelay.Simulation.Peer
import TokenRelay.Simulation.Thread

/-!
# A feed from the peer to its readers

A line is a socket with its peer at one end and the readers of batches and replies at the
other: either they are collected, or a gateway takes them, or nobody does.  Of the inputs
that are possible at an instant the socket takes what answers its last action first, then
the end of the delay before a connection, then commands, then what has arrived, and then
what has come due on a connection.
-/

namespace TokenRelay.Simulation

/-- A pass of a gateway over a batch. -/
abbrev Pass (σ : Type) := Thread σ (Except BridgeError (List Notification))

/-- Where batches and replies go. -/
inductive Outlet (σ : Type) where
  | nobody
  | collected (batches : List Batch) (replies : List Reply)
  | gateway (run : GatewayRun (Pass σ))

/-- A socket with its peer and its readers. -/
structure Line (σ : Type) where
  settings : SocketSettings
  phase : Socket.Phase
  state : ConnectionState
  /-- The commands that wait to be taken. -/
  commands : List Socket.Command
  peer : Peer
  outlet : Outlet σ

namespace Line

variable {σ : Type}

/-- A line nobody has opened yet. -/
def start (settings : SocketSettings) (peer : Peer) (outlet : Outlet σ) : Line σ :=
  ⟨settings, .unstarted, .disconnected, [], peer, outlet⟩

/-- Give the socket a command, which is lost once the socket is closed. -/
def command (command : Socket.Command) (line : Line σ) : Line σ :=
  if line.phase.isClosed then line
  else { line with commands := line.commands ++ [command] }

/-- Carry out one action of the socket. -/
def perform (now : Nat) (line : Line σ) (action : Socket.Action) : Line σ :=
  match action with
  | .publish state => { line with state := state }
  | .batch events =>
    match line.outlet with
    | .nobody => line
    | .collected batches replies =>
      { line with outlet := .collected (batches ++ [events]) replies }
    | .gateway run => { line with outlet := .gateway (run.dispatchBatch events) }
  | .reply reply =>
    match line.outlet with
    | .nobody => line
    | .collected batches replies =>
      { line with outlet := .collected batches (replies ++ [reply]) }
    | .gateway run => { line with outlet := .gateway (run.dispatchReply reply) }
  | other => { line with peer := line.peer.perform now other }

/-- The inputs on offer at an instant, each with the line that it is taken from. -/
def offers (now : Nat) (line : Line σ) : List (Socket.Input × Line σ) :=
  let fromPeer (offer : Option (Socket.Input × Peer)) : List (Socket.Input × Line σ) :=
    (offer.map fun (input, peer) => (input, { line with peer := peer })).toList
  let commanded : List (Socket.Input × Line σ) := match line.commands with
    | command :: rest => [(.command command, { line with commands := rest })]
    | [] => []
  [(.start, line)] ++ fromPeer line.peer.replied? ++ fromPeer (line.peer.dialed? now) ++
    [(.delayOver, line)] ++ commanded ++ fromPeer line.peer.arrived? ++
    [(.pingDue, line), (.pongOverdue, line)]

/-- Let the socket take an input, unless it takes none of that kind now. -/
def takeInput (now : Nat) (offer : Socket.Input × Line σ) : Option (Line σ) :=
  let (input, line) := offer
  match Socket.step line.settings now line.phase input with
  | some (phase, actions) => some (actions.foldl (perform now) { line with phase := phase })
  | none => none

/-- Take the first possible input. -/
def step (now : Nat) (line : Line σ) : Option (Line σ) :=
  (line.offers now).findSome? (takeInput now)

/-- When something happens on the line by itself. -/
def due? (line : Line σ) : Option Nat :=
  earlier? line.phase.due? line.peer.due?

end Line

end TokenRelay.Simulation
