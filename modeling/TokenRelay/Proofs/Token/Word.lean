import TokenRelay.Proofs.Text.Numeral
import TokenRelay.Token.Word

/-!
# What texts of words denote

A word is read group by group, and the bound is looked at only where a group ends.  The
result does not depend on the groups: a text is read exactly if it consists of digits of
the base and underscores and its value, taken over all its digits, is a word.  The value
never falls while a text is read, so a group that is too large is never made good later.

`Word.Spells` states this for base ten over the standard value of digits.
-/

namespace TokenRelay.Word

/-! ## Values in any base -/

/-- The value of a text in a base, continued from a value; underscores are skipped. -/
def valueFrom (base : Nat) : Nat → List Char → Nat
  | value, [] => value
  | value, char :: rest =>
    if char = '_' then
      valueFrom base value rest
    else
      valueFrom base (value * base + (digit? base char).getD 0) rest

/-- Whether a character may stand in a text of a word. -/
def Readable (base : Nat) (char : Char) : Prop :=
  char = '_' ∨ (digit? base char).isSome

/-- The value of all that has been read. -/
def Progress.total (base : Nat) (progress : Progress) : Nat :=
  progress.value * Nat.pow base progress.width + progress.group

theorem Progress.close_eq (base : Nat) (progress : Progress) :
    progress.close base =
      if progress.total base < count then .ok (progress.total base)
      else .error .tooLarge :=
  rfl

theorem le_valueFrom {base : Nat} (positive : 0 < base) (value : Nat)
    (chars : List Char) : value ≤ valueFrom base value chars := by
  induction chars generalizing value with
  | nil => exact Nat.le_refl value
  | cons char rest induction =>
      rw [valueFrom]
      split
      · exact induction value
      · have here : value ≤ value * base + (digit? base char).getD 0 :=
          Nat.le_add_right_of_le (Nat.le_mul_of_pos_right value positive)
        exact here.trans (induction _)

/-- A text is read exactly if all of it can be read and its value is a word. -/
theorem readFrom_eq_ok_iff {base : Nat} (positive : 0 < base) (span : Nat)
    (progress : Progress) (chars : List Char) (word : Nat) :
    readFrom base span progress chars = .ok word ↔
      (∀ char ∈ chars, Readable base char) ∧
        valueFrom base (progress.total base) chars = word ∧ word < count := by
  induction chars generalizing progress with
  | nil =>
      rw [readFrom, Progress.close_eq, valueFrom]
      split
      · rename_i inBounds
        constructor
        · rintro ⟨⟩
          exact ⟨by simp, rfl, inBounds⟩
        · rintro ⟨_, rfl, _⟩
          rfl
      · rename_i outOfBounds
        constructor
        · intro impossible
          cases impossible
        · rintro ⟨_, rfl, below⟩
          exact (outOfBounds below).elim
  | cons char rest induction =>
      rw [readFrom, valueFrom, List.forall_mem_cons]
      by_cases skipped : char = '_'
      · rw [if_pos skipped, if_pos skipped, induction]
        simp [Readable, skipped]
      · rw [if_neg skipped, if_neg skipped]
        cases found : digit? base char with
        | none => simp [Readable, skipped, found]
        | some digit =>
            have total : Progress.total base
                ⟨progress.value, progress.group * base + digit, progress.width + 1⟩ =
                  progress.total base * base + digit := by
              simp only [Progress.total, Nat.pow_eq, pow_succ]
              ring
            have readable : Readable base char := Or.inr (by simp [found])
            simp only [readable, true_and, Option.getD_some]
            split
            · -- the group is complete: it is closed, and reading goes on from its value
              rw [Progress.close_eq, total]
              split
              · rename_i outcome inBounds
                split at inBounds
                · cases inBounds
                  rw [induction]
                  simp [Progress.total]
                · cases inBounds
              · rename_i outcome outOfBounds
                split at outOfBounds
                · cases outOfBounds
                · rename_i tooLarge
                  constructor
                  · intro impossible
                    cases impossible
                  · rintro ⟨_, rfl, below⟩
                    have grows := le_valueFrom positive
                      (progress.total base * base + digit) rest
                    omega
            · rw [induction, total]

/-! ## Base ten -/

theorem digit?_ten (char : Char) :
    digit? 10 char = if char.isDigit then some (char.toNat - 48) else none := by
  have split := Numeral.isDigit_iff char
  unfold digit? digitValue?
  by_cases isDigit : char.isDigit
  · rw [if_pos (split.1 isDigit), if_pos isDigit]
    have bounds := split.1 isDigit
    simp only [Option.filter_some, decide_eq_true_eq, ite_eq_left_iff, reduceCtorEq, imp_false,
      not_not]
    omega
  · rw [if_neg (fun bounds => isDigit (split.2 bounds)), if_neg isDigit]
    split_ifs with lower upper
    · simp only [Option.filter_some, decide_eq_true_eq, ite_eq_right_iff, reduceCtorEq,
        imp_false]
      omega
    · simp only [Option.filter_some, decide_eq_true_eq, ite_eq_right_iff, reduceCtorEq,
        imp_false]
      omega
    · rfl

theorem readable_ten_iff (char : Char) :
    Readable 10 char ↔ char = '_' ∨ char.isDigit := by
  rw [Readable, digit?_ten]
  cases char.isDigit <;> simp

theorem valueFrom_ten (value : Nat) (chars : List Char)
    (readable : ∀ char ∈ chars, char = '_' ∨ char.isDigit) :
    valueFrom 10 value chars =
      Nat.ofDigitChars 10 (chars.filter (· ≠ '_')) value := by
  induction chars generalizing value with
  | nil => simp [valueFrom]
  | cons char rest induction =>
      rw [List.forall_mem_cons] at readable
      rw [valueFrom]
      by_cases skipped : char = '_'
      · rw [if_pos skipped, induction _ readable.2]
        simp [skipped]
      · have isDigit : char.isDigit := readable.1.resolve_left skipped
        rw [if_neg skipped, induction _ readable.2, digit?_ten, if_pos isDigit]
        simp only [Option.getD_some, ne_eq, skipped, not_false_eq_true, decide_true,
          List.filter_cons_of_pos, Nat.ofDigitChars_cons, Nat.mul_comm 10]
        rfl

/-- A text in base ten that denotes a word: digits, with underscores anywhere among them. -/
structure Spells (chars : List Char) (word : Nat) : Prop where
  readable : ∀ char ∈ chars, char = '_' ∨ char.isDigit
  value : Nat.ofDigitChars 10 (chars.filter (· ≠ '_')) 0 = word
  inBounds : word < count

/-- Words are read exactly from their spellings. -/
theorem readDecimal_eq_ok_iff (chars : List Char) (word : Nat) :
    readDecimal chars = .ok word ↔ Spells chars word := by
  have start : Progress.total 10 ⟨0, 0, 0⟩ = 0 := by simp [Progress.total]
  rw [readDecimal, readFrom_eq_ok_iff (by omega), start]
  simp only [readable_ten_iff]
  constructor
  · rintro ⟨readable, value, inBounds⟩
    rw [valueFrom_ten 0 chars readable] at value
    exact ⟨readable, value, inBounds⟩
  · rintro ⟨readable, value, inBounds⟩
    rw [valueFrom_ten 0 chars readable]
    exact ⟨readable, value, inBounds⟩

theorem spells_of_denotes {digits : List Char} {word : Nat}
    (denotes : Numeral.Denotes digits word) (inBounds : word < count) :
    Spells digits word where
  readable := fun char member => Or.inr (denotes.allDigits char member)
  value := by
    have noneSkipped : digits.filter (· ≠ '_') = digits := by
      rw [List.filter_eq_self]
      intro char member
      have isDigit := denotes.allDigits char member
      refine decide_eq_true ?_
      rintro rfl
      exact absurd isDigit (by decide)
    rw [noneSkipped]
    exact denotes.value
  inBounds := inBounds

/-- A text in base sixteen that denotes a word: digits and letters, and underscores. -/
structure SpellsHex (chars : List Char) (word : Nat) : Prop where
  readable : ∀ char ∈ chars, Readable 16 char
  value : valueFrom 16 0 chars = word
  inBounds : word < count

/-- Words are read in base sixteen exactly from their spellings. -/
theorem readHex_eq_ok_iff (chars : List Char) (word : Nat) :
    readHex chars = .ok word ↔ SpellsHex chars word := by
  have start : Progress.total 16 ⟨0, 0, 0⟩ = 0 := by
    simp [Progress.total]
  rw [readHex, readFrom_eq_ok_iff (by omega), start]
  constructor
  · rintro ⟨readable, value, inBounds⟩
    exact ⟨readable, value, inBounds⟩
  · intro spells
    exact ⟨spells.readable, spells.value, spells.inBounds⟩

end TokenRelay.Word
