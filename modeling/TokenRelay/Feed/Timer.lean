/-!
# Timers

A timer is at most one instant.  Arming it again or cancelling it is an explicit step,
and a timer that is not armed is never due.  Instants are milliseconds.

A connection has two timers, for the next ping and for the pong that answers the last one.
-/

namespace TokenRelay

/-- A timer that fires at most once for each arming. -/
structure Timer where
  due : Option Nat
  deriving DecidableEq, Repr

namespace Timer

/-- The timer that is not armed. -/
def idle : Timer :=
  ⟨none⟩

/-- Arm a timer to fire some time after now. -/
def arm (now after : Nat) : Timer :=
  ⟨some (now + after)⟩

/-- Whether the timer has an instant, which may be over. -/
def isArmed (timer : Timer) : Bool :=
  timer.due.isSome

/-- Whether the instant of the timer has come; one that is not armed has none. -/
def isDue (timer : Timer) (now : Nat) : Bool :=
  match timer.due with
  | some instant => instant ≤ now
  | none => false

/-- Wait for the timer up to some time from now: whether it fired, and the instant then. -/
def wait (timer : Timer) (now limit : Nat) : Bool × Nat :=
  match timer.due with
  | some due => if due ≤ now + limit then (true, max now due) else (false, now + limit)
  | none => (false, now + limit)

end Timer

/-- The timers of a connection. -/
structure Socket.Keepalive where
  /-- When the next ping is due. -/
  ping : Timer
  /-- When the pong that answers the last ping is overdue. -/
  deadline : Timer
  deriving DecidableEq, Repr

end TokenRelay
