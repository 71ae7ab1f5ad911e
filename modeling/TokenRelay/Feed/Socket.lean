import TokenRelay.Config
import TokenRelay.Feed.Message
import TokenRelay.Feed.Timer
import TokenRelay.Json.Printer

/-!
# The socket of a feed

The socket holds at most one connection and makes a new one after each that is lost.
After connecting it asks for the topic's events and for replies, and then sends a ping.
A pong puts off the deadline and arms the next ping; a deadline that is reached ends the
connection.  Batches are acknowledged on command, and a closing command ends everything.

The socket is a machine: `step` says what an input does in a phase at an instant, where it
is possible there.  What the machine asks for in its actions is answered by inputs:
`connect` by `connected` or `connectFailed`, `send` by `sent` or `sendFailed`, and
`terminate` by `terminated`.
-/

namespace TokenRelay

/-- One message on a connection. -/
inductive Frame where
  | text (value : String)
  | ping
  | pong
  | close
  deriving DecidableEq, Repr

/-- The state of the connection that is published to whoever watches it. -/
inductive ConnectionState where
  | disconnected
  | connecting
  | connected
  | reconnectWait
  | closing
  | closed
  deriving DecidableEq, Repr

namespace ConnectionState

/-- The name under which a state is shown. -/
def name : ConnectionState → String
  | .disconnected => "Disconnected"
  | .connecting => "Connecting"
  | .connected => "Connected"
  | .reconnectWait => "ReconnectWait"
  | .closing => "Closing"
  | .closed => "Closed"

/-- All states of a connection. -/
def all : List ConnectionState :=
  [.disconnected, .connecting, .connected, .reconnectWait, .closing, .closed]

end ConnectionState

/-- What a socket serves and how it is kept open. -/
structure SocketSettings where
  topic : String
  feed : FeedSettings
  deriving DecidableEq

namespace Socket

/-- What the holder of the handle can ask of the socket. -/
inductive Command where
  | acknowledge
  | close
  deriving DecidableEq, Repr

/-- What a connection yields: a frame, a failure or its end. -/
inductive Arrival where
  | frame (frame : Frame)
  | failure (error : TransportError)
  | ended

/-- Why a connection is terminated. -/
inductive Termination where
  | overdue
  | closing
  deriving DecidableEq, Repr

/-- Where the task of the socket stands. -/
inductive Phase where
  | unstarted
  | connecting
  /-- A frame of the greeting is being sent, and these follow. -/
  | greeting (rest : List String)
  /-- The first ping is being sent. -/
  | firstPing
  | live (keepalive : Keepalive)
  | acknowledging (keepalive : Keepalive)
  | pinging (keepalive : Keepalive)
  | terminating (reason : Termination)
  /-- A new connection is made at an instant. -/
  | waiting (due : Nat)
  | closed

/-- What can happen to the task of the socket. -/
inductive Input where
  | start
  | connected
  | connectFailed
  | sent
  | sendFailed
  /-- A command is taken from the queue. -/
  | command (command : Command)
  | arrived (arrival : Arrival)
  | pingDue
  /-- The deadline for a pong has come due. -/
  | pongOverdue
  | terminated
  /-- The delay before the next connection is over. -/
  | delayOver

/-- What the task of the socket does in answer. -/
inductive Action where
  | publish (state : ConnectionState)
  | connect
  | send (frame : Frame)
  | terminate
  /-- The connection is let go of. -/
  | release
  | batch (events : Batch)
  | reply (reply : Reply)

/-- Where a step leads, and what is done on the way. -/
abbrev Next := Phase × List Action

/-- The frame that asks for the events of a topic. -/
def listenFrame (topic : String) : String :=
  (Json.ofFields [("type", .text "listen"), ("topic", .text topic)]).compact

/-- The frame that asks the connector for replies. -/
def listenRepliesFrame : String :=
  (Json.ofFields [("type", .text "listenreplies")]).compact

/-- The frame that acknowledges the batch held last on a topic. -/
def acknowledgementFrame (topic : String) : String :=
  (Json.ofFields [("type", .text "ack"), ("topic", .text topic)]).compact

/-- What is dispatched of a text frame; a text that says nothing is passed over. -/
def dispatch (text : String) : List Action :=
  match FeedMessage.parse text with
  | .ok (.batch events) => [.batch events]
  | .ok (.reply reply) => [.reply reply]
  | .error _ => []

variable (settings : SocketSettings) (now : Nat)

/-- Wait before the next connection. -/
def backOff : Next :=
  (.waiting (now + settings.feed.reconnectDelay), [.publish .reconnectWait])

/-- Let go of a lost connection and wait before the next. -/
def drop : Next :=
  let (phase, actions) := backOff settings now
  (phase, .release :: actions)

/-- A ping was sent: a pong has to come in time. -/
def awaitPong (ping : Timer) : Next :=
  (.live ⟨ping, .arm now settings.feed.pingTimeout⟩, [])

/-- Make a connection. -/
def dial : Next :=
  (.connecting, [.publish .connecting, .connect])

/-- A command while a connection is live. -/
def commanded (keepalive : Keepalive) : Command → Next
  | .acknowledge =>
    (.acknowledging keepalive, [.send (.text (acknowledgementFrame settings.topic))])
  | .close => (.terminating .closing, [.publish .closing, .terminate])

/-- An arrival while a connection is live. -/
def received (keepalive : Keepalive) : Arrival → Next
  | .frame (.text text) => (.live keepalive, dispatch text)
  | .frame .pong => (.live ⟨.arm now settings.feed.pingInterval, .idle⟩, [])
  | .frame .ping => (.live keepalive, [])
  | .frame .close => drop settings now
  | .failure _ => drop settings now
  | .ended => drop settings now

/-- What an input does in a phase, where it is possible. -/
def step : Phase → Input → Option Next
  | .unstarted, .start => some dial
  | .connecting, .connected =>
    some (.greeting [listenRepliesFrame], [.send (.text (listenFrame settings.topic))])
  | .connecting, .connectFailed => some (backOff settings now)
  | .greeting (next :: rest), .sent => some (.greeting rest, [.send (.text next)])
  | .greeting [], .sent => some (.firstPing, [.publish .connected, .send .ping])
  | .greeting _, .sendFailed => some (drop settings now)
  | .firstPing, .sent => some (awaitPong settings now .idle)
  | .firstPing, .sendFailed => some (drop settings now)
  | .live keepalive, .command command => some (commanded settings keepalive command)
  | .live keepalive, .arrived arrival => some (received settings now keepalive arrival)
  | .live keepalive, .pingDue =>
    if keepalive.ping.isDue now then
      some (.pinging ⟨.idle, keepalive.deadline⟩, [.send .ping])
    else
      none
  | .live keepalive, .pongOverdue =>
    if keepalive.deadline.isDue now then
      some (.terminating .overdue, [.terminate])
    else
      none
  | .acknowledging keepalive, .sent => some (.live keepalive, [])
  | .acknowledging _, .sendFailed => some (drop settings now)
  | .pinging keepalive, .sent => some (awaitPong settings now keepalive.ping)
  | .pinging _, .sendFailed => some (drop settings now)
  | .terminating .overdue, .terminated => some (drop settings now)
  | .terminating .closing, .terminated => some (.closed, [.release, .publish .closed])
  | .waiting due, .delayOver => if due ≤ now then some dial else none
  | .waiting due, .command .acknowledge => some (.waiting due, [])
  | .waiting _, .command .close =>
    some (.closed, [.publish .closing, .publish .closed])
  | _, _ => none

/-- Whether commands are still taken, now or later. -/
def Phase.isClosed : Phase → Bool
  | .closed => true
  | _ => false

/-- The instant at which a phase ends by itself. -/
def Phase.due? : Phase → Option Nat
  | .live keepalive =>
    match keepalive.ping.due, keepalive.deadline.due with
    | some ping, some deadline => some (min ping deadline)
    | some ping, none => some ping
    | none, deadline => deadline
  | .waiting due => some due
  | _ => none

end Socket

end TokenRelay
