/-!
# Labels in ASCII letters and digits

A label of a name may be written with ASCII characters only: those that it has come first,
then, after a hyphen, numbers that say which other characters stand where.  The numbers
have digits of a mixed base, whose thresholds follow a bias that each number adapts.
`decode?` reads such a label.
-/

namespace TokenRelay.Punycode

/-- The value of a character as a digit. -/
def digit? (char : Char) : Option Nat :=
  let code := char.toNat
  if 97 ≤ code ∧ code ≤ 122 then some (code - 97)
  else if 48 ≤ code ∧ code ≤ 57 then some (code - 22)
  else none

/-- The number of digits. -/
def base : Nat := 36

/-- What reading a label has come to. -/
structure State where
  found : List Char
  /-- The code point of the last character that was put in. -/
  code : Nat
  /-- The place and the code point that the open number counts on from. -/
  start : Nat
  /-- The value of the open number so far, counted from `start`. -/
  value : Nat
  bias : Nat
  /-- The weight of the next digit. -/
  weight : Nat
  /-- How many digits the open number has. -/
  digits : Nat

/-- Halve a difference until it is small; the number of rounds decides the bias. -/
def settle : Nat → Nat → Nat → Nat
  | 0, delta, rounds => rounds + base * delta / (delta + 38)
  | fuel + 1, delta, rounds =>
    if 455 < delta then settle fuel (delta / 35) (rounds + base)
    else rounds + base * delta / (delta + 38)

/-- The bias after a number. -/
def adapt (delta count : Nat) (isFirst : Bool) : Nat :=
  let damped := if isFirst then delta / 700 else delta / 2
  settle damped (damped + damped / count) 0

/-- The digit below which a number ends. -/
def State.threshold (state : State) : Nat :=
  max 1 (min 26 (base * (state.digits + 1) - state.bias))

/-- The character of a code point beyond ASCII. -/
def charOfCode? (code : Nat) : Option Char :=
  if 128 ≤ code ∧ (code < 0xD800 ∨ (0xE000 ≤ code ∧ code < 0x110000)) then
    some (Char.ofNat code)
  else
    none

/-- Put in the character that a number tells. -/
def State.finish (state : State) (value : Nat) : Option State :=
  let count := state.found.length + 1
  let code := state.code + value / count
  let place := value % count
  (charOfCode? code).map fun char =>
    { found := state.found.take place ++ char :: state.found.drop place
      code := code
      start := place + 1
      value := place + 1
      bias := adapt (value - state.start) count (state.start = 0)
      weight := 1
      digits := 0 }

/-- Insert the characters that the digits encode. -/
def readDigits (state : State) : List Char → Option (List Char)
  | [] => if state.digits = 0 then some state.found else none
  | char :: rest =>
    match digit? char with
    | none => none
    | some digit =>
      let value := state.value + digit * state.weight
      if digit < state.threshold then
        match state.finish value with
        | none => none
        | some next => readDigits next rest
      else
        readDigits
          { state with
            value := value
            weight := state.weight * (base - state.threshold)
            digits := state.digits + 1 } rest

/-- The state before the first number. -/
def State.initial (found : List Char) : State where
  found := found
  code := 128
  start := 0
  value := 0
  bias := 72
  weight := 1
  digits := 0

/-- The characters of a label in small letters; the last hyphen ends those of ASCII. -/
def decode? (label : List Char) : Option (List Char) :=
  let numbers := (label.reverse.takeWhile (· ≠ '-')).reverse
  if numbers.length = label.length then
    readDigits (.initial []) numbers
  else
    let found := label.take (label.length - numbers.length - 1)
    if found.isEmpty then none else readDigits (.initial found) numbers

end TokenRelay.Punycode
