import Mathlib
import TokenRelay.Retry.Schedule

/-!
# Delays in exact arithmetic

Over the rationals a power that is taken by squaring is that power, and nothing is rounded before
the whole milliseconds are cut off.  A delay is then the lesser of the longest one and of the
initial one times a power of the factor, and it grows with the exponent.

The exponent is the number of attempts before, as long as that fits into 31 bits.  From the
attempt after it on the exponent starts again far below zero, and the delay with it: it comes to
what is stated only where growth never showed in whole milliseconds.
-/

namespace TokenRelay

namespace Arithmetic

/-- Rational numbers; the whole part is brought into 64 bits at the end. -/
def exact : Arithmetic ℚ where
  ofNat := Nat.cast
  mul := (· * ·)
  inverse := (·⁻¹)
  least := min
  floor := fun value => min ⌊value⌋₊ (2 ^ 64 - 1)

theorem powerFrom_exact (found base : ℚ) (exponent : ℕ) :
    exact.powerFrom found base exponent = found * base ^ exponent := by
  induction exponent using Nat.strongRecOn generalizing found base with
  | ind exponent induction =>
      have halves := Nat.div_add_mod exponent 2
      have next : (if exponent % 2 = 1 then exact.mul found base else found) =
          found * base ^ (exponent % 2) := by
        rcases Nat.mod_two_eq_zero_or_one exponent with even | odd
        · rw [even, if_neg zero_ne_one, pow_zero, mul_one]
        · rw [odd, if_pos rfl, pow_one]
          rfl
      rw [powerFrom, next]
      split_ifs with last
      · rw [last, mul_zero, zero_add] at halves
        rw [halves]
      · have smaller : exponent / 2 < exponent := by omega
        have squared : exact.mul base base = base ^ 2 := (sq base).symm
        rw [induction _ smaller, squared, mul_assoc, ← pow_mul, ← pow_add, Nat.add_comm, halves]

theorem power_exact (base : ℚ) (exponent : ℤ) :
    exact.power base exponent = base ^ exponent := by
  have one : exact.ofNat 1 = 1 := Nat.cast_one
  rw [power, powerFrom_exact, one, one_mul]
  cases exponent with
  | ofNat count => rfl
  | negSucc count =>
      rw [if_pos (Int.negSucc_lt_zero count), zpow_negSucc]
      rfl

end Arithmetic

namespace Schedule

open Arithmetic (exact)

variable {schedule : Schedule ℚ} {attempt earlier later : ℕ}

/-! ## Exponents -/

theorem exponent_of_le (few : attempt ≤ 2 ^ 31) : exponent attempt = ((attempt - 1 : ℕ) : ℤ) := by
  have narrow : attempt - 1 < Nat.pow 2 31 := by
    rw [Nat.pow_eq]
    omega
  rw [exponent, if_pos narrow]

theorem exponent_of_lt (many : 2 ^ 31 < attempt) (word : attempt < 2 ^ 32) :
    exponent attempt = -((2 ^ 32 + 1 - attempt : ℕ) : ℤ) := by
  have wide : ¬ attempt - 1 < Nat.pow 2 31 := by
    rw [Nat.pow_eq]
    omega
  rw [exponent, if_neg wide, Nat.pow_eq]
  omega

/-! ## Growth -/

/-- The delay at an exponent, in whole milliseconds. -/
def grown (schedule : Schedule ℚ) (exponent : ℤ) : ℕ :=
  ⌊min (schedule.longest : ℚ) (schedule.initial * schedule.factor ^ exponent)⌋₊

theorem grown_le_longest (schedule : Schedule ℚ) (exponent : ℤ) :
    schedule.grown exponent ≤ schedule.longest := by
  refine (Nat.floor_le_floor (min_le_left _ _)).trans ?_
  rw [Nat.floor_natCast]

theorem grown_mono (grows : 1 ≤ schedule.factor) : Monotone schedule.grown := by
  intro less more ordered
  refine Nat.floor_le_floor (min_le_min_left _ ?_)
  exact mul_le_mul_of_nonneg_left (zpow_le_zpow_right₀ grows ordered) (Nat.cast_nonneg _)

/-- Without growth the delay is the lesser of two whole numbers. -/
theorem grown_zero (schedule : Schedule ℚ) :
    schedule.grown 0 = min schedule.longest schedule.initial := by
  rw [grown, zpow_zero, mul_one, ← Nat.cast_min, Nat.floor_natCast]

theorem delayBy_exact (short : schedule.longest < 2 ^ 64)
    (permitted : attempt < schedule.attempts) :
    schedule.delayBy exact attempt = some (schedule.grown (exponent attempt)) := by
  have fits : schedule.grown (exponent attempt) ≤ 2 ^ 64 - 1 :=
    (schedule.grown_le_longest _).trans (Nat.le_sub_one_of_lt short)
  have permits : schedule.permits attempt = true := decide_eq_true permitted
  rw [delayBy, if_pos permits, Option.some.injEq, Arithmetic.power_exact]
  exact (congrArg (fun value => min ⌊value⌋₊ (2 ^ 64 - 1)) (min_comm _ _)).trans
    (min_eq_left fits)

/-- Shrinking back and growing on come to the same only where neither shows. -/
theorem grown_neg_eq_grown_iff (grows : 1 ≤ schedule.factor) {less : ℕ} (some : 0 < less)
    (more : ℕ) :
    schedule.grown (-(less : ℤ)) = schedule.grown more ↔
      schedule.factor = 1 ∨ schedule.initial = 0 ∨
        schedule.longest * schedule.factor ^ less ≤ schedule.initial := by
  have positive : 0 < schedule.factor ^ less := pow_pos (zero_lt_one.trans_le grows) less
  have shrunk : schedule.initial * schedule.factor ^ (-(less : ℤ)) =
      schedule.initial / schedule.factor ^ less := by
    rw [zpow_neg, zpow_natCast, div_eq_mul_inv]
  constructor
  · intro same
    by_contra! apart
    obtain ⟨changing, present, early⟩ := apart
    -- neither step leads away from the delay without growth, since both lead the same way
    have still : min schedule.longest schedule.initial ≤ schedule.grown (-(less : ℤ)) := by
      rw [← grown_zero, same]
      exact grown_mono grows (Int.natCast_nonneg more)
    have reached : (min schedule.longest schedule.initial : ℚ) ≤
        schedule.initial / schedule.factor ^ less := by
      rw [← shrunk, ← Nat.cast_min]
      exact (Nat.cast_le.2 still).trans ((Nat.floor_le (by positivity)).trans (min_le_right _ _))
    rw [le_div_iff₀ positive] at reached
    have powered : 1 < schedule.factor ^ less :=
      one_lt_pow₀ (lt_of_le_of_ne grows changing.symm) some.ne'
    have owned : (0 : ℚ) < schedule.initial := Nat.cast_pos.2 (Nat.pos_of_ne_zero present)
    rcases min_cases (schedule.longest : ℚ) schedule.initial with ⟨least, -⟩ | ⟨least, -⟩
    · rw [least] at reached
      exact reached.not_gt early
    · rw [least] at reached
      exact reached.not_gt (lt_mul_of_one_lt_right owned powered)
  · rintro (fixed | none | early)
    · simp only [grown, fixed, one_zpow]
    · simp only [grown, none, Nat.cast_zero, zero_mul]
    · have full : schedule.grown (-(less : ℤ)) = schedule.longest := by
        rw [grown, shrunk, min_eq_left ((le_div_iff₀ positive).2 early), Nat.floor_natCast]
      refine le_antisymm (grown_mono grows (by omega)) ?_
      rw [full]
      exact schedule.grown_le_longest more

/-! ## The delays as they are stated -/

/-- The delay that is stated: the lesser of the longest one and of what the initial one grows to. -/
def stated (schedule : Schedule ℚ) (attempt : ℕ) : ℕ :=
  ⌊min (schedule.longest : ℚ) (schedule.initial * schedule.factor ^ (attempt - 1))⌋₊

theorem stated_eq_grown (schedule : Schedule ℚ) (attempt : ℕ) :
    schedule.stated attempt = schedule.grown ((attempt - 1 : ℕ) : ℤ) := by
  rw [stated, grown, zpow_natCast]

/-- The delay that follows an attempt whose exponent has turned negative. -/
theorem grown_exponent_of_lt (many : 2 ^ 31 < attempt) (word : attempt < 2 ^ 32) :
    schedule.grown (exponent attempt) =
      ⌊min (schedule.longest : ℚ)
        (schedule.initial / schedule.factor ^ (2 ^ 32 + 1 - attempt))⌋₊ := by
  rw [exponent_of_lt many word, grown, zpow_neg, zpow_natCast, div_eq_mul_inv]

theorem delayBy_exact_eq_none_iff (schedule : Schedule ℚ) (attempt : ℕ) :
    schedule.delayBy exact attempt = none ↔ schedule.attempts ≤ attempt := by
  have permits_iff : schedule.permits attempt = true ↔ attempt < schedule.attempts :=
    decide_eq_true_iff
  rw [delayBy, ← not_lt, ← permits_iff]
  split_ifs with permitted
  · exact iff_of_false nofun (not_not.2 permitted)
  · exact iff_of_true rfl permitted

/--
In exact arithmetic there is no delay from the last attempt on, and no delay exceeds the longest
one.  As far as the exponent fits into 31 bits the delay is the stated one, and the delays never
decrease.  After that a delay is what the initial one shrinks to; they never decrease again, but
none is longer than those before, and one is the stated delay exactly if the factor is one, there
is nothing to grow, or what has shrunk is still no shorter than the longest delay.
-/
theorem delays_as_stated (schedule : Schedule ℚ) (grows : 1 ≤ schedule.factor)
    (short : schedule.longest < 2 ^ 64) (word : schedule.attempts < 2 ^ 32) :
    (∀ attempt, schedule.delayBy exact attempt = none ↔ schedule.attempts ≤ attempt) ∧
    (∀ attempt, 1 ≤ attempt → attempt < schedule.attempts →
      ∃ delay, schedule.delayBy exact attempt = some delay ∧ delay ≤ schedule.longest ∧
        (attempt ≤ 2 ^ 31 → delay = schedule.stated attempt) ∧
        (2 ^ 31 < attempt → delay = ⌊min (schedule.longest : ℚ)
          (schedule.initial / schedule.factor ^ (2 ^ 32 + 1 - attempt))⌋₊) ∧
        (delay = schedule.stated attempt ↔
          attempt ≤ 2 ^ 31 ∨ schedule.factor = 1 ∨ schedule.initial = 0 ∨
            schedule.longest * schedule.factor ^ (2 ^ 32 + 1 - attempt) ≤ schedule.initial)) ∧
    (∀ earlier later, 1 ≤ earlier → earlier ≤ later →
      ∀ first ∈ schedule.delayBy exact earlier, ∀ second ∈ schedule.delayBy exact later,
        (later ≤ 2 ^ 31 ∨ 2 ^ 31 < earlier → first ≤ second) ∧
        (earlier ≤ 2 ^ 31 → 2 ^ 31 < later → second ≤ first)) := by
  refine ⟨schedule.delayBy_exact_eq_none_iff, ?_, ?_⟩
  · intro attempt counted permitted
    refine ⟨_, delayBy_exact short permitted, schedule.grown_le_longest _, ?_,
      fun many => grown_exponent_of_lt many (permitted.trans word), ?_⟩
    · intro few
      rw [exponent_of_le few, stated_eq_grown]
    · rw [stated_eq_grown]
      rcases le_or_gt attempt (2 ^ 31) with few | many
      · simp only [exponent_of_le few, few, true_or]
      · have positive : 0 < 2 ^ 32 + 1 - attempt := by omega
        rw [exponent_of_lt many (permitted.trans word), grown_neg_eq_grown_iff grows positive,
          or_iff_right many.not_ge]
  · intro earlier later counted ordered first firstDelay second secondDelay
    have permitted (attempt delay : ℕ) (found : delay ∈ schedule.delayBy exact attempt) :
        attempt < schedule.attempts := by
      by_contra spent
      rw [(schedule.delayBy_exact_eq_none_iff attempt).2 (not_lt.1 spent)] at found
      cases found
    have before := permitted _ _ firstDelay
    have after := permitted _ _ secondDelay
    rw [delayBy_exact short before, Option.mem_some_iff] at firstDelay
    rw [delayBy_exact short after, Option.mem_some_iff] at secondDelay
    rw [← firstDelay, ← secondDelay]
    constructor
    · rintro (few | many)
      · refine grown_mono grows ?_
        rw [exponent_of_le few, exponent_of_le (ordered.trans few)]
        omega
      · refine grown_mono grows ?_
        rw [exponent_of_lt many (before.trans word),
          exponent_of_lt (many.trans_le ordered) (after.trans word)]
        omega
    · intro few many
      refine grown_mono grows ?_
      rw [exponent_of_le few, exponent_of_lt many (after.trans word)]
      omega

/-- As many attempts as can be counted, with the delays of the standard schedule. -/
def enduring : Schedule ℚ :=
  ⟨2 ^ 32 - 1, 100, 10000, 2⟩

/-- After two to the power of 31 failures the delay is gone, which had long been the longest one. -/
theorem delays_as_stated_of_enduring :
    1 ≤ enduring.factor ∧ enduring.longest < 2 ^ 64 ∧ enduring.attempts < 2 ^ 32 ∧
      enduring.delayBy exact (2 ^ 31) = some 10000 ∧
      enduring.delayBy exact (2 ^ 31 + 1) = some 0 ∧
      enduring.stated (2 ^ 31 + 1) = 10000 := by
  have grows : 1 ≤ enduring.factor := by
    norm_num [enduring]
  have short : enduring.longest < 2 ^ 64 := by
    norm_num [enduring]
  have word : enduring.attempts < 2 ^ 32 := by
    norm_num [enduring]
  have permitted : 2 ^ 31 + 1 < enduring.attempts := by
    norm_num [enduring]
  -- the powers are too large to be computed, and need not be
  have large (exponent : ℕ) (far : 7 ≤ exponent) : (128 : ℚ) ≤ enduring.factor ^ exponent := by
    calc (128 : ℚ) = 2 ^ 7 := by norm_num
      _ ≤ 2 ^ exponent := pow_le_pow_right₀ one_le_two far
  have ceiling (exponent : ℕ) (far : 7 ≤ exponent) :
      ⌊min (enduring.longest : ℚ) (enduring.initial * enduring.factor ^ exponent)⌋₊ = 10000 := by
    have least : min (enduring.longest : ℚ) (enduring.initial * enduring.factor ^ exponent) =
        (10000 : ℕ) := by
      refine min_eq_left ?_
      calc (enduring.longest : ℚ) ≤ enduring.initial * 128 := by norm_num [enduring]
        _ ≤ enduring.initial * enduring.factor ^ exponent :=
          mul_le_mul_of_nonneg_left (large exponent far) (Nat.cast_nonneg _)
    rw [least, Nat.floor_natCast]
  obtain ⟨-, delays, -⟩ := delays_as_stated enduring grows short word
  obtain ⟨last, lastDelay, -, lastStated, -⟩ :=
    delays (2 ^ 31) (by norm_num) ((Nat.lt_succ_self _).trans permitted)
  obtain ⟨next, nextDelay, -, -, nextShrunk, -⟩ := delays (2 ^ 31 + 1) (by norm_num) permitted
  refine ⟨grows, short, word, ?_, ?_, ceiling _ (by norm_num)⟩
  · rw [lastDelay, lastStated le_rfl]
    exact congrArg some (ceiling _ (by norm_num))
  · rw [nextDelay, nextShrunk (Nat.lt_succ_self _), Option.some.injEq, Nat.floor_eq_zero]
    refine (min_le_right _ _).trans_lt ?_
    have far := large (2 ^ 32 + 1 - (2 ^ 31 + 1)) (by norm_num)
    rw [div_lt_one (by linarith only [far])]
    exact lt_of_lt_of_le (by norm_num [enduring]) far

end Schedule

end TokenRelay
