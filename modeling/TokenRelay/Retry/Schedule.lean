/-!
# The delays between attempts

The delay after the n-th failed attempt is `initial * factor ^ (n - 1)`, at most
`longest`, cut to whole milliseconds; after the last permitted attempt there is none.

The computation is written over any arithmetic.  `Schedule.nextDelay` runs it with
double-precision numbers, whose powers are taken by squaring; the exponent is the number
of attempts before, held in 32 bits with a sign.
-/

namespace TokenRelay

/-- What the delays are computed with. -/
structure Arithmetic (ν : Type) where
  ofNat : Nat → ν
  mul : ν → ν → ν
  /-- One over a number. -/
  inverse : ν → ν
  /-- The lesser of a grown delay and the longest one. -/
  least : ν → ν → ν
  /-- The whole part, brought into 64 bits. -/
  floor : ν → Nat

namespace Arithmetic

/-- The product of `found` and a power, by squaring. -/
def powerFrom {ν : Type} (arithmetic : Arithmetic ν) (found base : ν) (exponent : Nat) : ν :=
  let next := if exponent % 2 = 1 then arithmetic.mul found base else found
  if exponent / 2 = 0 then
    next
  else
    arithmetic.powerFrom next (arithmetic.mul base base) (exponent / 2)
termination_by exponent
decreasing_by omega

/-- A power with a whole exponent; a negative one is inverted at the end. -/
def power {ν : Type} (arithmetic : Arithmetic ν) (base : ν) (exponent : Int) : ν :=
  let found := arithmetic.powerFrom (arithmetic.ofNat 1) base exponent.natAbs
  if exponent < 0 then arithmetic.inverse found else found

/-- Double-precision numbers. -/
def double : Arithmetic Float where
  ofNat := fun value => (UInt64.ofNat value).toFloat
  mul := (· * ·)
  inverse := fun value => 1.0 / value
  least := fun grown longest =>
    if grown.isNaN then longest else if grown < longest then grown else longest
  floor := fun value => value.toUInt64.toNat

end Arithmetic

/-- How often and after which delays a call is tried again; delays are milliseconds. -/
structure Schedule (ν : Type) where
  /-- All attempts, the first included. -/
  attempts : Nat
  initial : Nat
  longest : Nat
  factor : ν

namespace Schedule

/-- The number of attempts before this one, as a signed number of 32 bits. -/
def exponent (attempt : Nat) : Int :=
  let earlier := attempt - 1
  if earlier < Nat.pow 2 31 then earlier else (earlier : Int) - Nat.pow 2 32

/-- Whether another attempt is permitted after so many. -/
def permits {ν : Type} (schedule : Schedule ν) (attempt : Nat) : Bool :=
  attempt < schedule.attempts

/-- The delay after an attempt, by the given arithmetic. -/
def delayBy {ν : Type} (arithmetic : Arithmetic ν) (schedule : Schedule ν)
    (attempt : Nat) : Option Nat :=
  if schedule.permits attempt then
    let grown :=
      arithmetic.mul (arithmetic.ofNat schedule.initial)
        (arithmetic.power schedule.factor (exponent attempt))
    some (arithmetic.floor (arithmetic.least grown (arithmetic.ofNat schedule.longest)))
  else
    none

/-- The delay after an attempt, in milliseconds, or none where the last one was made. -/
def nextDelay (schedule : Schedule Float) (attempt : Nat) : Option Nat :=
  delayBy .double schedule attempt

/-- Fifteen attempts, from a tenth of a second to ten seconds, doubling. -/
def standard : Schedule Float :=
  ⟨15, 100, 10000, 2.0⟩

end Schedule

end TokenRelay
