import TokenRelay.Feed.Socket

/-!
# The peer at the other end of a feed

The peer follows a script: how each attempt to connect goes, which frames cannot be sent,
and whether pings are answered at once.  It does what the socket asks for and gives the
inputs that answer it.  What happened is logged.
-/

namespace TokenRelay.Simulation

/-- How an attempt to connect goes. -/
structure Plan where
  delay : Nat
  fails : Bool

/-- What the peer sees of the socket. -/
inductive Sight where
  | connect
  | sent (frame : Frame)
  | sendFailed (frame : Frame)
  | terminate

/-- What the peer saw at an instant on a connection, counted from zero. -/
structure LoggedSight where
  connection : Nat
  sight : Sight
  instant : Nat

/-- The other side of the connection, with how it was told to behave. -/
structure Peer where
  answersPings : Bool
  /-- How the next attempts to connect go; all later ones succeed at once. -/
  plans : List Plan
  /-- The places of the frames that cannot be sent, counted over all connections. -/
  failing : List Nat
  /-- How many frames were sent or were to be sent. -/
  frames : Nat
  /-- How many attempts to connect were made. -/
  attempts : Nat
  /-- When the attempt under way ends, and whether it fails. -/
  dialing : Option (Nat × Bool)
  /-- What answers the socket's last action. -/
  reply : Option Socket.Input
  /-- What has arrived on the open connection and was not yet read. -/
  arrivals : Option (List Socket.Arrival)
  /-- Whether the peer has connected and has not hung up since. -/
  present : Bool
  /-- What the peer saw, the latest first. -/
  log : List LoggedSight

namespace Peer

/-- A peer before any attempt to connect. -/
def ofScript (answersPings : Bool) (plans : List Plan) (failing : List Nat) : Peer :=
  ⟨answersPings, plans, failing, 0, 0, none, none, none, false, []⟩

/-- Log what the peer sees. -/
def see (now : Nat) (sight : Sight) (peer : Peer) : Peer :=
  { peer with log := ⟨peer.attempts - 1, sight, now⟩ :: peer.log }

/-- Put something on the open connection. -/
def push (arrival : Socket.Arrival) (peer : Peer) : Peer :=
  { peer with arrivals := peer.arrivals.map (· ++ [arrival]) }

/-- Whether there is a connection. -/
def isOpen (peer : Peer) : Bool :=
  peer.arrivals.isSome

/-- The peer hangs up, which ends the connection if it is open. -/
def hangUp (peer : Peer) : Peer :=
  { peer.push .ended with present := false }

/-- The next attempt to connect begins. -/
def dial (now : Nat) (peer : Peer) : Peer :=
  let (plan, plans) : Plan × List Plan := match peer.plans with
    | plan :: plans => (plan, plans)
    | [] => (⟨0, false⟩, [])
  { peer with
    attempts := peer.attempts + 1
    plans := plans
    dialing := some (now + plan.delay, plan.fails) }.see now .connect

/-- A frame is sent, or cannot be sent. -/
def take (now : Nat) (frame : Frame) (peer : Peer) : Peer :=
  let place := peer.frames
  let peer := { peer with frames := place + 1 }
  if peer.failing.contains place then
    { peer with reply := some .sendFailed }.see now (.sendFailed frame)
  else
    let peer := { peer with reply := some .sent }.see now (.sent frame)
    if frame = .ping ∧ peer.answersPings then peer.push (.frame .pong) else peer

/-- What an action of the socket does to the peer. -/
def perform (now : Nat) (peer : Peer) : Socket.Action → Peer
  | .connect => peer.dial now
  | .send frame => peer.take now frame
  | .terminate => { peer with reply := some .terminated }.see now .terminate
  | .release => { peer with arrivals := none }
  | .publish _ => peer
  | .batch _ => peer
  | .reply _ => peer

/-- The end of an attempt to connect, if it has come. -/
def dialed? (now : Nat) (peer : Peer) : Option (Socket.Input × Peer) :=
  match peer.dialing with
  | some (due, fails) =>
    if now < due then
      none
    else if fails then
      some (.connectFailed, { peer with dialing := none })
    else
      some (.connected,
        { peer with dialing := none, arrivals := some [], present := true })
  | none => none

/-- The answer to the socket's last action. -/
def replied? (peer : Peer) : Option (Socket.Input × Peer) :=
  peer.reply.map fun input => (input, { peer with reply := none })

/-- What comes next on the open connection. -/
def arrived? (peer : Peer) : Option (Socket.Input × Peer) :=
  match peer.arrivals with
  | some (arrival :: rest) => some (.arrived arrival, { peer with arrivals := some rest })
  | _ => none

/-- When the attempt to connect ends. -/
def due? (peer : Peer) : Option Nat :=
  peer.dialing.map Prod.fst

end Peer

end TokenRelay.Simulation
