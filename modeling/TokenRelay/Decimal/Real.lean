import TokenRelay.Decimal.Shortest

/-!
# Double-precision numbers in text

`positional` and `pointed` write a number with the fewest digits that read back.
`ofText?` reads a number rounded to nearest; `ofParts?` is the quicker reader of
data formats, which scales a 64-bit significand by powers of ten and so may be off by
the last bit.
-/

namespace TokenRelay.Real

/-- The sign, the mantissa and the exponent of a number that is neither infinite nor undefined. -/
structure Parts where
  negative : Bool
  mantissa : Nat
  exponent : Int
  /-- Whether the gap to the next smaller number is half the gap above. -/
  narrow : Bool

/-- Take a number apart. -/
def parts (value : Float) : Parts :=
  let bits : Nat := value.toBits.toNat
  let fraction : Nat := bits % Nat.pow 2 52
  let field : Nat := bits / Nat.pow 2 52 % Nat.pow 2 11
  let negative := bits / Nat.pow 2 63 = 1
  if field = 0 then
    ⟨negative, fraction, -1074, false⟩
  else
    ⟨negative, Nat.pow 2 52 + fraction, (field : Int) - 1075, fraction = 0 ∧ 1 < field⟩

/-- Write a finite number by a layout of its digits. -/
def write (zero : List Char) (layout : Decimal.Shortest → List Char) (value : Float) :
    List Char :=
  let found := parts value
  let body :=
    if found.mantissa = 0 then
      zero
    else
      layout (Decimal.Shortest.ofBinary found.mantissa found.exponent found.narrow)
  if found.negative then '-' :: body else body

/-- Whether a number is neither infinite nor undefined. -/
def isFinite (value : Float) : Bool :=
  value.toBits.toNat / Nat.pow 2 52 % Nat.pow 2 11 ≠ 2047

/-- Positional text, without a point for a whole number. -/
def positional (value : Float) : String :=
  String.ofList (write ['0'] Decimal.Shortest.positional value)

/-- Text with a point, in scientific notation for large and small numbers. -/
def pointed (value : Float) : String :=
  String.ofList (write ['0', '.', '0'] Decimal.Shortest.pointed value)

/-- A power of ten, rounded to nearest. -/
def powerOfTen (exponent : Nat) : Float :=
  Float.ofScientific 1 false exponent

/-- Scale a significand by a power of ten, in steps of 308; none for an overflow. -/
def scale : Nat → Float → Int → Option Float
  | 0, _, _ => none
  | fuel + 1, value, exponent =>
    if exponent.natAbs ≤ 308 then
      if 0 ≤ exponent then
        let scaled := value * powerOfTen exponent.natAbs
        if isFinite scaled then some scaled else none
      else
        some (value / powerOfTen exponent.natAbs)
    else if value == 0.0 then
      some value
    else if 0 ≤ exponent then
      none
    else
      scale fuel (value / powerOfTen 308) (exponent + 308)

/-- The number of a sign, a 64-bit significand and a decimal exponent. -/
def ofParts? (negative : Bool) (significand : Nat) (exponent : Int) : Option Float :=
  (scale 16 (UInt64.ofNat significand).toFloat (max exponent (-4000))).map
    fun value => if negative then -value else value

/-- The number nearest to `digits * 10 ^ exponent`. -/
def nearest (digits : Nat) (exponent : Int) : Float :=
  let magnitude : Int := (Nat.log2 (digits + 1) : Int) * 30103 / 100000 + exponent
  if digits = 0 then
    0.0
  else if 400 < magnitude then
    1.0 / 0.0
  else if magnitude < -400 then
    0.0
  else if 0 ≤ exponent then
    Float.ofScientific digits false exponent.toNat
  else
    Float.ofScientific digits true (-exponent).toNat

/-- The leading digits of a text, and what follows them. -/
def takeDigits : List Char → List Nat × List Char
  | [] => ([], [])
  | char :: rest =>
    match Numeral.digit? char with
    | some digit =>
      let (digits, remainder) := takeDigits rest
      (digit :: digits, remainder)
    | none => ([], char :: rest)

/-- The number that digits denote in base ten. -/
def digitsValue (digits : List Nat) : Nat :=
  digits.foldl (fun value digit => value * 10 + digit) 0

/-- Whether a minus stands in front, and what follows the sign. -/
def takeSign : List Char → Bool × List Char
  | '-' :: rest => (true, rest)
  | '+' :: rest => (false, rest)
  | rest => (false, rest)

/-- The exponent that ends a number, if what is left is one. -/
def exponent? : List Char → Option Int
  | [] => some 0
  | mark :: rest =>
    if mark = 'e' ∨ mark = 'E' then
      let (negative, digits) := takeSign rest
      match takeDigits digits with
      | ([], _) => none
      | (found, []) =>
        let value : Int := digitsValue found
        some (if negative then -value else value)
      | _ => none
    else
      none

/-- Read digits with an optional point and an optional exponent. -/
def magnitude? (text : List Char) : Option Float :=
  let (whole, rest) := takeDigits text
  let (fraction, rest) := match rest with
    | '.' :: tail => takeDigits tail
    | other => ([], other)
  if whole.isEmpty ∧ fraction.isEmpty then
    none
  else
    (exponent? rest).map fun exponent =>
      nearest (digitsValue (whole ++ fraction)) (exponent - fraction.length)

/-- The words for numbers that are no fractions, in lower case. -/
def named? (word : List Char) : Option Float :=
  if word = "inf".toList ∨ word = "infinity".toList then
    some (1.0 / 0.0)
  else if word = "nan".toList then
    some (0.0 / 0.0)
  else
    none

/-- Read a number: a sign, then digits or one of the words for infinity and not-a-number. -/
def ofText? (text : String) : Option Float :=
  let (negative, body) := takeSign text.toList
  let value := match magnitude? body with
    | some found => some found
    | none => named? (body.map Char.toLower)
  value.map fun found => if negative then -found else found

end TokenRelay.Real
