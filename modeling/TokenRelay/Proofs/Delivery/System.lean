import TokenRelay.Proofs.Delivery.Ledger
import TokenRelay.Proofs.Feed.Socket
import TokenRelay.Proofs.Gateway.Course

/-!
# A connector, a socket and a gateway

The connector sends the batch at its cursor once on each connection and moves the cursor
on by one for each frame of acknowledgement that it receives.  Between it and the gateway
stands the socket with the queue of its commands.  A connection may be lost at any moment,
with what was on its way; subscribers, lookups, frames and commands interleave freely.

What the connector sends is marked with the place of its batch, and an acknowledgement
with its number: the gateway's `n`-th one carries `n`.  The marks are not part of a frame,
and neither the socket nor the gateway nor the connector looks at them.
-/

namespace TokenRelay

/-- The batches of a connector, each with the text of its frame. -/
structure Source where
  text : Nat → String
  batch : Nat → Batch
  parse_text : ∀ place, FeedMessage.parse (text place) = .ok (.batch (batch place))

/-- A connector with its batches, a socket and a gateway. -/
structure Delivery (μ : Type) where
  source : Source
  settings : SocketSettings
  gateway : Gateway μ

namespace Delivery

variable {μ : Type}

/-- What is on its way to the socket: the batch at a place, or another frame. -/
inductive Shipment where
  | batch (place : Nat)
  | other (frame : Frame)

/-- The place of a batch on its way. -/
def Shipment.place? : Shipment → Option Nat
  | .batch place => some place
  | .other _ => none

/-- The frame that a shipment arrives as. -/
def Shipment.frame (source : Source) : Shipment → Frame
  | .batch place => .text (source.text place)
  | .other frame => frame

/-- What is on its way to the connector: a frame, and the number that it is marked with. -/
structure Parcel where
  frame : Frame
  number : Option Nat

/-- A command to the socket; acknowledgements are numbered. -/
inductive Order where
  | acknowledge (number : Nat)
  | close

namespace Order

def number? : Order → Option Nat
  | .acknowledge number => some number
  | .close => none

def command : Order → Socket.Command
  | .acknowledge _ => .acknowledge
  | .close => .close

end Order

/-- A connector, the connection and the program behind it. -/
structure State (μ : Type) where
  cursor : Nat
  /-- The batch at the cursor was sent on this connection. -/
  outstanding : Bool
  connection : Nat
  inbound : List Shipment
  outbound : List Parcel
  phase : Socket.Phase
  orders : List Order
  /-- How many acknowledgements the gateway has asked for. -/
  issued : Nat
  scene : Gateway.Scene μ

/-- What is seen of a delivery. -/
inductive Event where
  /-- The socket dispatched a copy of a batch. -/
  | dispatched (copy : Copy)
  | gateway (event : Gateway.Event)
  /-- An acknowledgement came to the connector on a connection and moved the cursor on. -/
  | credited (number : Option Nat) (connection cursor : Nat)

/-- Nothing was sent and no batch was acknowledged. -/
def start (audience : Audience) : State μ where
  cursor := 0
  outstanding := false
  connection := 0
  inbound := []
  outbound := []
  phase := .unstarted
  orders := []
  issued := 0
  scene := ⟨.start, audience⟩

/-! ## The socket -/

/-- What an input of the socket is taken from. -/
inductive Origin where
  | nothing
  | order (order : Order)
  | shipment (shipment : Shipment)

/-- The number that a frame is marked with which is sent on an input. -/
def Origin.number? : Origin → Option Nat
  | .order command => command.number?
  | _ => none

/-- The place of the batch that an input came from. -/
def Origin.place? : Origin → Option Nat
  | .shipment arrived => arrived.place?
  | _ => none

/-- A new connection, on which nothing was sent. -/
def reconnected (state : State μ) : State μ :=
  { state with
    outstanding := false, connection := state.connection + 1, inbound := [],
    outbound := [] }

/-- The inputs that may come to the socket, and what is left when one is taken. -/
inductive Offers (source : Source) (state : State μ) :
    Socket.Input → Origin → State μ → Prop where
  | connected : Offers source state .connected .nothing (reconnected state)
  | command {order : Order} {rest : List Order} (first : state.orders = order :: rest) :
      Offers source state (.command order.command) (.order order)
        { state with orders := rest }
  | arrived {shipment : Shipment} {rest : List Shipment}
      (first : state.inbound = shipment :: rest) :
      Offers source state (.arrived (.frame (shipment.frame source)))
        (.shipment shipment) { state with inbound := rest }
  | lost (error : TransportError) :
      Offers source state (.arrived (.failure error)) .nothing state
  | ended : Offers source state (.arrived .ended) .nothing state
  | start : Offers source state .start .nothing state
  | connectFailed : Offers source state .connectFailed .nothing state
  | sent : Offers source state .sent .nothing state
  | sendFailed : Offers source state .sendFailed .nothing state
  | pingDue : Offers source state .pingDue .nothing state
  | pongOverdue : Offers source state .pongOverdue .nothing state
  | terminated : Offers source state .terminated .nothing state
  | delayOver : Offers source state .delayOver .nothing state

/-- Do what the socket asks for on an input. -/
def perform (origin : Origin) (state : State μ) : Socket.Action → State μ
  | .send frame => { state with outbound := state.outbound ++ [⟨frame, origin.number?⟩] }
  | .batch events =>
    { state with scene := { state.scene with run := state.scene.run.dispatchBatch events } }
  | .reply reply =>
    { state with scene := { state.scene with run := state.scene.run.dispatchReply reply } }
  | _ => state

/-- What is seen of an action of the socket. -/
def shown (origin : Origin) (connection : Nat) : Socket.Action → List Event
  | .batch events =>
    (origin.place?.map fun place => Event.dispatched ⟨place, connection⟩).toList ++
      [.gateway (.received events)]
  | _ => []

/-! ## Steps -/

/-- One step of a delivery, and what it shows. -/
inductive Step (delivery : Delivery μ) : State μ → List Event → State μ → Prop where
  | socket {state taken : State μ} {input : Socket.Input} {origin : Origin}
      {phase : Socket.Phase} {actions : List Socket.Action} (now : Nat)
      (offers : Offers delivery.source state input origin taken)
      (possible : Socket.step delivery.settings now state.phase input =
        some (phase, actions)) :
      Step delivery state (actions.flatMap (shown origin taken.connection))
        (actions.foldl (perform origin) { taken with phase := phase })
  /-- The connector sends the batch at its cursor. -/
  | ship {state : State μ} (free : state.outstanding = false) :
      Step delivery state []
        { state with
          outstanding := true, inbound := state.inbound ++ [.batch state.cursor] }
  | tell {state : State μ} (frame : Frame)
      (noBatch : ∀ text, frame = .text text →
        ∀ events, FeedMessage.parse text ≠ .ok (.batch events)) :
      Step delivery state [] { state with inbound := state.inbound ++ [.other frame] }
  | credit {state : State μ} {parcel : Parcel} {rest : List Parcel}
      (first : state.outbound = parcel :: rest)
      (acknowledges :
        parcel.frame = .text (Socket.acknowledgementFrame delivery.settings.topic)) :
      Step delivery state [.credited parcel.number state.connection state.cursor]
        { state with cursor := state.cursor + 1, outstanding := false, outbound := rest }
  | ignore {state : State μ} {parcel : Parcel} {rest : List Parcel}
      (first : state.outbound = parcel :: rest)
      (other : parcel.frame ≠ .text (Socket.acknowledgementFrame delivery.settings.topic)) :
      Step delivery state [] { state with outbound := rest }
  /-- The gateway or one of its subscribers makes a step. -/
  | gateway {state : State μ} {scene : Gateway.Scene μ} {events : List Gateway.Event}
      (step : Gateway.Step delivery.gateway state.scene events scene)
      (noBatch : Gateway.received events = []) :
      Step delivery state (events.map .gateway)
        { state with
          scene := scene
          orders := state.orders ++ (List.range' state.issued
            (Gateway.acknowledgements events)).map .acknowledge
          issued := state.issued + Gateway.acknowledgements events }
  | close {state : State μ} :
      Step delivery state [] { state with orders := state.orders ++ [.close] }

/-- A state that a delivery may come to, and all that was shown. -/
inductive History (delivery : Delivery μ) : List Event → State μ → Prop where
  | start (audience : Audience) : History delivery [] (start audience)
  | step {log events : List Event} {state next : State μ}
      (history : History delivery log state) (step : Step delivery state events next) :
      History delivery (log ++ events) next

end Delivery

end TokenRelay
