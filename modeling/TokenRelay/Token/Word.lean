import TokenRelay.Text.Numeral
import TokenRelay.Text.Utf8

/-!
# 256-bit words in text

A word is a natural number below `2 ^ 256`.  Its text is read in a given base with
letters as the digits above nine; an underscore is skipped wherever it stands and a
text without digits is zero.

Digits are gathered in groups, and a word is compared with the bound only when a
group is complete or the text ends.  So an offending character is reported in
place of an overflow that its own group would have brought to light.
-/

namespace TokenRelay.Word

/-- How many words there are. -/
def count : Nat := Nat.pow 2 256

/-- Why a text is no word. -/
inductive Fault where
  /-- A character that is no digit of the base, shown by its first octet. -/
  | invalidDigit (shown : Char)
  | tooLarge
  deriving DecidableEq

/-- The text of a fault. -/
def Fault.message : Fault → String
  | .invalidDigit shown => "invalid digit: " ++ String.ofList [shown]
  | .tooLarge => "the value is too large to fit the target type"

/-- The value of a digit or letter, letters counting on from ten in either case. -/
def digitValue? (char : Char) : Option Nat :=
  if 48 ≤ char.toNat ∧ char.toNat ≤ 57 then
    some (char.toNat - 48)
  else if 97 ≤ char.toNat ∧ char.toNat ≤ 122 then
    some (char.toNat - 87)
  else if 65 ≤ char.toNat ∧ char.toNat ≤ 90 then
    some (char.toNat - 55)
  else
    none

/-- The value of a character as a digit of a base. -/
def digit? (base : Nat) (char : Char) : Option Nat :=
  (digitValue? char).filter (· < base)

/-- What has been read of a text: the complete groups and the open one. -/
structure Progress where
  value : Nat
  group : Nat
  width : Nat

/-- The word that the digits read so far denote. -/
def Progress.close (base : Nat) (progress : Progress) : Except Fault Nat :=
  let value := progress.value * Nat.pow base progress.width + progress.group
  if value < count then .ok value else .error .tooLarge

/-- Read the rest of a text, closing a group at every `span` digits. -/
def readFrom (base span : Nat) :
    Progress → List Char → Except Fault Nat
  | progress, [] => progress.close base
  | progress, char :: rest =>
    if char = '_' then
      readFrom base span progress rest
    else
      match digit? base char with
      | none => .error (.invalidDigit (Char.ofNat (Utf8.leadOctet char)))
      | some digit =>
        let next : Progress :=
          ⟨progress.value, progress.group * base + digit, progress.width + 1⟩
        if next.width = span then
          match next.close base with
          | .ok value => readFrom base span ⟨value, 0, 0⟩ rest
          | .error fault => .error fault
        else
          readFrom base span next rest

/-- Read a word in base ten, in groups of nineteen digits. -/
def readDecimal (text : List Char) : Except Fault Nat :=
  readFrom 10 19 ⟨0, 0, 0⟩ text

/-- Read a word in base sixteen, in groups of fifteen digits. -/
def readHex (text : List Char) : Except Fault Nat :=
  readFrom 16 15 ⟨0, 0, 0⟩ text

end TokenRelay.Word
