import Mathlib
import TokenRelay.Text.Digits

/-!
# What digits in base sixteen denote

Octets are read back from their digits, and they are all zero exactly if their digits are.

`Hex.fixed` writes a number in a given count of digits.  `Hex.value` is the value of digits,
the most significant first; over lower-case digits of one count it is an injection, so what is
written in as many digits as the number needs denotes the number and nothing else does.
-/

namespace TokenRelay.Hex

theorem digit?_digitChar {digit : Nat} (small : digit < 16) :
    digit? (digitChar digit) = some digit := by
  interval_cases digit <;> rfl

theorem digitChar_eq_zero_iff {digit : Nat} (small : digit < 16) :
    digitChar digit = '0' ↔ digit = 0 := by
  interval_cases digit <;> decide

/-! ## Octets -/

theorem encode_cons (octet : Nat) (rest : List Nat) :
    encode (octet :: rest) = digitChar (octet / 16) :: digitChar (octet % 16) :: encode rest :=
  rfl

theorem length_encode (octets : List Nat) : (encode octets).length = 2 * octets.length := by
  induction octets with
  | nil => rfl
  | cons octet rest induction =>
      rw [encode_cons, List.length_cons, List.length_cons, induction, List.length_cons]
      ring

/-- Octets are read back from their digits. -/
theorem decode?_encode {octets : List Nat} (small : ∀ octet ∈ octets, octet < 256) :
    decode? (encode octets) = some octets := by
  induction octets with
  | nil => rfl
  | cons octet rest induction =>
      obtain ⟨here, others⟩ := List.forall_mem_cons.1 small
      have upper : octet / 16 < 16 := by omega
      have lower : octet % 16 < 16 := Nat.mod_lt octet (by omega)
      have whole : octet / 16 * 16 + octet % 16 = octet := Nat.div_add_mod' octet 16
      rw [encode_cons, decode?, digit?_digitChar upper, digit?_digitChar lower, induction others]
      simp only [whole]

/-- Digits are all zero exactly if the octets are. -/
theorem all_encode_eq_zero_iff {octets : List Nat} (small : ∀ octet ∈ octets, octet < 256) :
    (encode octets).all (· = '0') = true ↔ ∀ octet ∈ octets, octet = 0 := by
  induction octets with
  | nil => exact iff_of_true rfl (List.forall_mem_nil _)
  | cons octet rest induction =>
      obtain ⟨here, others⟩ := List.forall_mem_cons.1 small
      have upper : octet / 16 < 16 := by omega
      have lower : octet % 16 < 16 := Nat.mod_lt octet (by omega)
      rw [encode_cons, List.all_cons, List.all_cons, Bool.and_eq_true, Bool.and_eq_true,
        induction others, List.forall_mem_cons, decide_eq_true_eq, decide_eq_true_eq,
        digitChar_eq_zero_iff upper, digitChar_eq_zero_iff lower, ← and_assoc]
      refine and_congr_left fun _ => ?_
      omega

/-! ## Numbers -/

/-- The value of digits, the most significant first. -/
def value (digits : List Char) : Nat :=
  digits.foldl (fun found digit => found * 16 + (digit? digit).getD 0) 0

theorem value_concat (digits : List Char) (last : Char) :
    value (digits ++ [last]) = value digits * 16 + (digit? last).getD 0 :=
  List.foldl_concat ..

/-- The lower-case digits of base sixteen. -/
def lowerDigits : List Char :=
  "0123456789abcdef".toList

theorem digitChar_mem {digit : Nat} (small : digit < 16) : digitChar digit ∈ lowerDigits := by
  interval_cases digit <;> decide

theorem length_fixed (width number : Nat) : (fixed width number).length = width := by
  induction width generalizing number with
  | zero => rfl
  | succ width induction =>
      rw [fixed, List.length_append, induction, List.length_singleton]

theorem mem_lowerDigits_of_mem_fixed {width number : Nat} {digit : Char}
    (member : digit ∈ fixed width number) : digit ∈ lowerDigits := by
  induction width generalizing number with
  | zero => cases member
  | succ width induction =>
      rcases List.mem_append.1 member with before | last
      · exact induction before
      · rw [List.mem_singleton.1 last]
        exact digitChar_mem (Nat.mod_lt number (by omega))

/-- A number is denoted by the digits it is written in, as far as they reach. -/
theorem value_fixed (width number : Nat) : value (fixed width number) = number % 16 ^ width := by
  induction width generalizing number with
  | zero => rw [pow_zero, Nat.mod_one]; rfl
  | succ width induction =>
      have lower : number % 16 < 16 := Nat.mod_lt number (by omega)
      rw [fixed, value_concat, induction, digit?_digitChar lower, Option.getD_some, pow_succ',
        Nat.mod_mul, Nat.mul_comm, Nat.add_comm]

/-- The digits of a number divide at any place into those of its parts. -/
theorem fixed_add (width low number : Nat) :
    fixed (width + low) number = fixed width (number / 16 ^ low) ++ fixed low number := by
  induction low generalizing number with
  | zero => rw [pow_zero, Nat.div_one, fixed, List.append_nil]; rfl
  | succ low induction =>
      rw [← Nat.add_assoc, fixed, induction, fixed, List.append_assoc, pow_succ',
        Nat.div_div_eq_div_mul]

end TokenRelay.Hex
