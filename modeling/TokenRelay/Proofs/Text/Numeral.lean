import Mathlib
import TokenRelay.Text.Numeral

/-!
# What numerals denote

The writer of whole numbers is the standard one: `decimal` gives the digits that
`Nat.toDigits` gives in base ten.  The readers are described by what they accept.
`Denotes` says that a text consists of digits, at least one, and names the number they
denote; leading zeros do not matter.  `readDigits` and `readUnsigned` accept exactly the
spellings of numbers below their bound, although they give up at the first character that
is no digit or that makes the value too large.
-/

namespace TokenRelay.Numeral

/-! ## Writing -/

theorem digitChar_eq (digit : Nat) (small : digit < 10) :
    digitChar digit = Nat.digitChar digit := by
  interval_cases digit <;> rfl

/-- The written digits are the standard ones. -/
theorem decimal_eq_toDigits (number : Nat) :
    decimal number = Nat.toDigits 10 number := by
  induction number using Nat.strong_induction_on with
  | _ number induction =>
      rw [decimal]
      split
      · rename_i small
        rw [Nat.toDigits_of_lt_base small, digitChar_eq number small]
      · rename_i large
        have shorter : number / 10 < number := by omega
        have last : number % 10 < 10 := Nat.mod_lt number (by omega)
        rw [Nat.toDigits_of_base_le (by omega) (by omega), induction _ shorter,
          digitChar_eq _ last]

theorem decimal_ne_nil (number : Nat) : decimal number ≠ [] := by
  rw [decimal_eq_toDigits]
  exact Nat.toDigits_ne_nil

theorem isDigit_of_mem_decimal {number : Nat} {char : Char}
    (member : char ∈ decimal number) : char.isDigit := by
  rw [decimal_eq_toDigits] at member
  exact Nat.isDigit_of_mem_toDigits (by omega) (by omega) member

/-- The written text is the standard one. -/
theorem text_eq_repr (number : Nat) : text number = Nat.repr number := by
  rw [text, decimal_eq_toDigits, Nat.repr_eq_ofList_toDigits]

@[simp]
theorem toList_text (number : Nat) : (text number).toList = decimal number :=
  String.toList_ofList

/-! ## Numbers and their spellings -/

/-- A text of one or more digits, and the number that it denotes. -/
structure Denotes (digits : List Char) (number : Nat) : Prop where
  nonempty : digits ≠ []
  allDigits : ∀ char ∈ digits, char.isDigit
  value : Nat.ofDigitChars 10 digits 0 = number

theorem Denotes.unique {digits : List Char} {first second : Nat}
    (one : Denotes digits first) (other : Denotes digits second) : first = second :=
  one.value.symm.trans other.value

theorem denotes_decimal (number : Nat) : Denotes (decimal number) number where
  nonempty := decimal_ne_nil number
  allDigits := fun _ member => isDigit_of_mem_decimal member
  value := by
    rw [decimal_eq_toDigits]
    exact Nat.ofDigitChars_ten_toDigits

theorem decimal_injective : Function.Injective decimal := by
  intro first second equal
  have spelled := denotes_decimal first
  rw [equal] at spelled
  exact spelled.unique (denotes_decimal second)

theorem text_injective : Function.Injective text := by
  intro first second equal
  apply decimal_injective
  rw [← toList_text, equal, toList_text]

/-! ## Reading -/

theorem isDigit_iff (char : Char) :
    char.isDigit = true ↔ 48 ≤ char.toNat ∧ char.toNat ≤ 57 := by
  simp only [Char.isDigit, Bool.and_eq_true, decide_eq_true_eq, ge_iff_le,
    UInt32.le_iff_toNat_le, Char.toNat]
  rfl

theorem digit?_eq (char : Char) :
    digit? char = if char.isDigit then some (char.toNat - 48) else none := by
  simp only [digit?, isDigit_iff]

@[simp]
theorem isSome_digit? (char : Char) : (digit? char).isSome = char.isDigit := by
  rw [digit?_eq]
  cases char.isDigit <;> rfl

theorem le_ofDigitChars (value : Nat) (digits : List Char) :
    value ≤ Nat.ofDigitChars 10 digits value := by
  induction digits generalizing value with
  | nil => simp
  | cons char rest induction =>
      rw [Nat.ofDigitChars_cons]
      have later := induction (10 * value + (char.toNat - '0'.toNat))
      omega

/-- Digits are read exactly if there are only digits and their value stays in bounds. -/
theorem readDigits_eq_ok_iff (bound value : Nat) (digits : List Char) (number : Nat) :
    readDigits bound value digits = .ok number ↔
      (∀ char ∈ digits, char.isDigit) ∧
        Nat.ofDigitChars 10 digits value = number ∧
        (digits ≠ [] → number < bound) := by
  induction digits generalizing value with
  | nil => simp [readDigits]
  | cons char rest induction =>
      have next : Nat.ofDigitChars 10 (char :: rest) value =
          Nat.ofDigitChars 10 rest (value * 10 + (char.toNat - 48)) := by
        rw [Nat.ofDigitChars_cons, Nat.mul_comm]
        rfl
      rw [readDigits, digit?_eq, next]
      cases isDigit : char.isDigit with
      | false => simp [isDigit]
      | true =>
          have grows := le_ofDigitChars (value * 10 + (char.toNat - 48)) rest
          simp only [if_true, List.forall_mem_cons, isDigit, true_and, ne_eq,
            reduceCtorEq, not_false_eq_true, forall_const]
          split
          · rename_i inBounds
            rw [induction]
            constructor
            · rintro ⟨digits, rfl, below⟩
              refine ⟨digits, rfl, ?_⟩
              by_cases empty : rest = []
              · simpa [empty] using inBounds
              · exact below empty
            · rintro ⟨digits, rfl, below⟩
              exact ⟨digits, rfl, fun _ => below⟩
          · rename_i outOfBounds
            constructor
            · intro impossible
              cases impossible
            · rintro ⟨_, rfl, below⟩
              omega

theorem readDigits_zero_eq_ok_iff (bound : Nat) (digits : List Char)
    (nonempty : digits ≠ []) (number : Nat) :
    readDigits bound 0 digits = .ok number ↔
      Denotes digits number ∧ number < bound := by
  rw [readDigits_eq_ok_iff]
  constructor
  · rintro ⟨allDigits, value, below⟩
    exact ⟨⟨nonempty, allDigits, value⟩, below nonempty⟩
  · rintro ⟨denotes, below⟩
    exact ⟨denotes.allDigits, denotes.value, fun _ => below⟩

/-- A text that an unsigned integer is read from: digits, one plus sign allowed before them. -/
inductive Unsigned : List Char → Nat → Prop where
  | plain {digits : List Char} {number : Nat} (denotes : Denotes digits number) :
      Unsigned digits number
  | signed {digits : List Char} {number : Nat} (denotes : Denotes digits number) :
      Unsigned ('+' :: digits) number

theorem Unsigned.ne_nil {chars : List Char} {number : Nat}
    (unsigned : Unsigned chars number) : chars ≠ [] := by
  cases unsigned with
  | plain denotes => exact denotes.nonempty
  | signed denotes => exact List.cons_ne_nil _ _

theorem not_denotes_plus (digits : List Char) (number : Nat) :
    ¬ Denotes ('+' :: digits) number := by
  intro denotes
  have plus := denotes.allDigits '+' (List.mem_cons_self ..)
  exact absurd plus (by decide)

/-- Unsigned integers are read exactly from the spellings of numbers in bounds. -/
theorem readUnsigned_eq_ok_iff (bound : Nat) (chars : List Char) (number : Nat) :
    readUnsigned bound chars = .ok number ↔
      Unsigned chars number ∧ number < bound := by
  fun_cases readUnsigned bound chars with
  | case1 =>
      constructor
      · intro impossible
        cases impossible
      · rintro ⟨denotes | _, _⟩
        exact (denotes.nonempty rfl).elim
  | case2 =>
      constructor
      · intro impossible
        cases impossible
      · rintro ⟨denotes | denotes, _⟩
        · exact (not_denotes_plus _ _ denotes).elim
        · exact (denotes.nonempty rfl).elim
  | case3 digits several =>
      have nonempty : digits ≠ [] := by
        rintro rfl
        exact several rfl
      rw [readDigits_zero_eq_ok_iff bound digits nonempty]
      constructor
      · rintro ⟨denotes, below⟩
        exact ⟨.signed denotes, below⟩
      · rintro ⟨denotes | denotes, below⟩
        · exact (not_denotes_plus _ _ denotes).elim
        · exact ⟨denotes, below⟩
  | case4 =>
      rename_i nonempty _ unsigned
      rw [readDigits_zero_eq_ok_iff bound chars nonempty]
      constructor
      · rintro ⟨denotes, below⟩
        exact ⟨.plain denotes, below⟩
      · rintro ⟨denotes | _, below⟩
        · exact ⟨denotes, below⟩
        · exact (unsigned _ rfl).elim

end TokenRelay.Numeral
