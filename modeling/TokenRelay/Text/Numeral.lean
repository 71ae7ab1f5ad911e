/-!
# Whole numbers in text

`decimal` writes a natural number in base ten without leading zeros, and
`readUnsigned` reads an unsigned machine integer: digits from left to right with
one optional plus sign.  The reader stops at the first fault, and a character that
is no digit is reported before an overflow at the same place.
-/

namespace TokenRelay.Numeral

/-- The character of a digit below ten. -/
def digitChar (digit : Nat) : Char :=
  Char.ofNat (48 + digit)

/-- The value of a base-ten digit. -/
def digit? (char : Char) : Option Nat :=
  if 48 ≤ char.toNat ∧ char.toNat ≤ 57 then some (char.toNat - 48) else none

/-- The base-ten digits of a number, most significant first; zero has one digit. -/
def decimal (number : Nat) : List Char :=
  if number < 10 then
    [digitChar number]
  else
    decimal (number / 10) ++ [digitChar (number % 10)]

/-- The base-ten text of a number. -/
def text (number : Nat) : String :=
  String.ofList (decimal number)

/-- The base-ten text of an integer, with a minus sign below zero. -/
def signedText : Int → String
  | .ofNat number => text number
  | .negSucc number => String.ofList ('-' :: decimal (number + 1))

/-- Why a text is no unsigned integer of the wanted width. -/
inductive Fault where
  | empty
  | invalidDigit
  | tooLarge
  deriving DecidableEq

/-- The words in which a fault is reported. -/
def Fault.message : Fault → String
  | .empty => "cannot parse integer from empty string"
  | .invalidDigit => "invalid digit found in string"
  | .tooLarge => "number too large to fit in target type"

/-- Append digits to a value that has to stay below a bound. -/
def readDigits (bound : Nat) : Nat → List Char → Except Fault Nat
  | value, [] => .ok value
  | value, char :: rest =>
    match digit? char with
    | none => .error .invalidDigit
    | some digit =>
      if value * 10 + digit < bound then
        readDigits bound (value * 10 + digit) rest
      else
        .error .tooLarge

/-- Read an unsigned integer below a bound; one leading plus sign is allowed. -/
def readUnsigned (bound : Nat) : List Char → Except Fault Nat
  | [] => .error .empty
  | ['+'] => .error .invalidDigit
  | '+' :: digits => readDigits bound 0 digits
  | digits => readDigits bound 0 digits

end TokenRelay.Numeral
