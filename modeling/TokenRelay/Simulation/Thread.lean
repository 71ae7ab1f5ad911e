import TokenRelay.Connector.Procedure

/-!
# Running procedures under a virtual clock

A thread is a procedure that was started: it has ended with a value, or it sleeps until an
instant.  Where all calls of a procedure are answered by another procedure, what is left
is pauses and memory, and a thread runs from one pause to the next without time passing.
-/

namespace TokenRelay

/-- A procedure that was started. -/
inductive Thread (σ α : Type) where
  | ended (value : α)
  | asleep (due : Nat) (rest : Procedure Unit σ α)

namespace Procedure

variable {σ α : Type}

/-- Run a procedure up to its next pause; a call left in it is answered by nothing. -/
def run (now : Nat) : Procedure Unit σ α → σ → Thread σ α × σ
  | .done value, memory => (.ended value, memory)
  | .call _ next, memory => (next ()).run now memory
  | .pause duration rest, memory =>
    if duration = 0 then rest.run now memory
    else (.asleep (now + duration) rest, memory)
  | .recall next, memory => (next memory).run now memory
  | .remember change rest, memory => rest.run now (change memory)

end Procedure

namespace Thread

variable {σ α : Type}

/-- A thread that is about to run. -/
def start (now : Nat) (procedure : Procedure Unit σ α) : Thread σ α :=
  .asleep now procedure

/-- The instant until which a thread sleeps. -/
def due? : Thread σ α → Option Nat
  | .ended _ => none
  | .asleep due _ => some due

/-- Let a thread run if it has slept long enough. -/
def wake (now : Nat) (thread : Thread σ α) (memory : σ) : Thread σ α × σ :=
  match thread with
  | .ended value => (.ended value, memory)
  | .asleep due rest =>
    if due ≤ now then rest.run now memory else (.asleep due rest, memory)

/-- The value of a thread that has ended. -/
def value? : Thread σ α → Option α
  | .ended value => some value
  | .asleep _ _ => none

/-- Some threads that run side by side, and the first failure or all their values. -/
inductive Joined (σ ε α : Type) where
  | failed (error : ε)
  | running (threads : List (Thread σ (Except ε α)))

/--
Let threads run in order; the first failure ends them all, and those after it are not run.
-/
def wakeAll {ε : Type} (now : Nat) :
    List (Thread σ (Except ε α)) → σ → Joined σ ε α × σ
  | [], memory => (.running [], memory)
  | thread :: rest, memory =>
    match thread.wake now memory with
    | (.ended (.error error), memory) => (.failed error, memory)
    | (thread, memory) =>
      match wakeAll now rest memory with
      | (.failed error, memory) => (.failed error, memory)
      | (.running rest, memory) => (.running (thread :: rest), memory)

/-- The values of threads that have all ended well. -/
def valuesOf {ε : Type} (threads : List (Thread σ (Except ε α))) : Option (List α) :=
  threads.mapM fun thread =>
    match thread.value? with
    | some (.ok value) => some value
    | _ => none

end Thread

/-- The earlier of two instants, either of which may be missing. -/
def earlier? : Option Nat → Option Nat → Option Nat
  | some first, some second => some (min first second)
  | some first, none => some first
  | none, second => second

end TokenRelay
