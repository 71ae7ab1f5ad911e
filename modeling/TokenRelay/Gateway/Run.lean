import TokenRelay.Gateway.Processing
import TokenRelay.Gateway.Audience

/-!
# A gateway's run over a feed

The pump takes batches one after another.  It processes a batch until one pass succeeds,
with a delay after each pass that fails, hands the notifications over unless there are
none, and acknowledges the batch.  Replies go their own way: each becomes a receipt for
those who are there, whatever the pump waits for.

The run ends when the feed has ended and no batch is left; then no reply is forwarded any
more and the feed's handle is let go of.

A run is described by its moves.  Which one is made next is left open: `step` says what
each does where it is possible.  `π` is a pass under way, and `begin` begins one.
-/

namespace TokenRelay

/-- What the part that serves batches is doing. -/
inductive Pump (π : Type) where
  | idle
  | processing (batch : Batch) (pass : π)
  | backingOff (batch : Batch) (due : Nat)
  | handingOver (handOver : HandOver)
  | stopped

/-- A run: what the feed dispatched and nobody has taken yet, and who takes it. -/
structure GatewayRun (π : Type) where
  batches : List Batch
  replies : List Reply
  feedEnded : Bool
  pump : Pump π
  forwarding : Bool

namespace GatewayRun

/-- The delay after a pass that failed, where none is given. -/
def standardRetryDelay : Nat := 5000

/-- What can happen in a run. -/
inductive Move (π : Type) where
  | dispatchBatch (batch : Batch)
  | dispatchReply (reply : Reply)
  | endFeed
  /-- The next reply is forwarded. -/
  | forward
  /-- No reply will come any more. -/
  | endForwarding
  /-- The pump takes the next batch. -/
  | take
  | proceed (pass : π)
  /-- The pass ends. -/
  | conclude (result : Except BridgeError (List Notification))
  /-- The delay after a failed pass is over. -/
  | retry
  /-- The hand-over makes a step. -/
  | handOver
  /-- The batch was handed over and is acknowledged. -/
  | acknowledge
  /-- The feed has ended and no batch is left. -/
  | stop
  /-- The pump is stopped from outside. -/
  | abort

/-- What a move asks of the feed. -/
inductive Request where
  | acknowledge
  | release
  deriving DecidableEq, Repr

variable {π : Type}

/-- A run at its beginning: nothing was dispatched and no end has come. -/
def start : GatewayRun π :=
  ⟨[], [], false, .idle, true⟩

/-- The receipt that a reply becomes. -/
def receipt (reply : Reply) : Notification :=
  .receipt ⟨reply.headers.requestId, reply.isSuccess, reply.errorMessage⟩

/-- A batch of the feed joins those that wait. -/
def dispatchBatch (batch : Batch) (run : GatewayRun π) : GatewayRun π :=
  { run with batches := run.batches ++ [batch] }

/-- A reply of the feed joins those that wait. -/
def dispatchReply (reply : Reply) (run : GatewayRun π) : GatewayRun π :=
  { run with replies := run.replies ++ [reply] }

/-- A run, its audience, and what was asked of the feed. -/
abbrev Next (π : Type) := GatewayRun π × Audience × List Request

/-- What a move does at an instant, where it is possible. -/
def step (begin : Batch → π) (retryDelay now : Nat) (run : GatewayRun π)
    (audience : Audience) : Move π → Option (Next π)
  | .dispatchBatch batch => some (run.dispatchBatch batch, audience, [])
  | .dispatchReply reply => some (run.dispatchReply reply, audience, [])
  | .endFeed =>
    if run.feedEnded then none
    else some ({ run with feedEnded := true }, audience, [])
  | .forward =>
    match run.forwarding, run.replies with
    | true, reply :: rest =>
      some ({ run with replies := rest }, audience.broadcast (receipt reply), [])
    | _, _ => none
  | .endForwarding =>
    if run.forwarding && run.feedEnded && run.replies.isEmpty then
      some ({ run with forwarding := false }, audience, [])
    else
      none
  | .take =>
    match run.pump, run.batches with
    | .idle, batch :: rest =>
      some ({ run with batches := rest, pump := .processing batch (begin batch) },
        audience, [])
    | _, _ => none
  | .proceed pass =>
    match run.pump with
    | .processing batch _ =>
      some ({ run with pump := .processing batch pass }, audience, [])
    | _ => none
  | .conclude result =>
    match run.pump with
    | .processing batch _ =>
      match result with
      | .error _ =>
        some ({ run with pump := .backingOff batch (now + retryDelay) }, audience, [])
      | .ok [] => some ({ run with pump := .idle }, audience, [.acknowledge])
      | .ok notifications =>
        some ({ run with pump := .handingOver (.ofList notifications) }, audience, [])
    | _ => none
  | .retry =>
    match run.pump with
    | .backingOff batch due =>
      if due ≤ now then
        some ({ run with pump := .processing batch (begin batch) }, audience, [])
      else
        none
    | _ => none
  | .handOver =>
    match run.pump with
    | .handingOver handOver =>
      match handOver.step audience with
      | some (handOver, audience) =>
        some ({ run with pump := .handingOver handOver }, audience, [])
      | none => none
    | _ => none
  | .acknowledge =>
    match run.pump with
    | .handingOver handOver =>
      if handOver.isFinished then
        some ({ run with pump := .idle }, audience, [.acknowledge])
      else
        none
    | _ => none
  | .stop =>
    match run.pump, run.batches with
    | .idle, [] =>
      if run.feedEnded then
        some ({ run with pump := .stopped, forwarding := false }, audience, [.release])
      else
        none
    | _, _ => none
  | .abort =>
    match run.pump with
    | .stopped => none
    | _ => some ({ run with pump := .stopped }, audience, [.release])

/-- Whether the pump still runs. -/
def isRunning (run : GatewayRun π) : Bool :=
  match run.pump with
  | .stopped => false
  | _ => true

end GatewayRun

end TokenRelay
