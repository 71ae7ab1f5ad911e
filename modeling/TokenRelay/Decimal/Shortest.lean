import TokenRelay.Text.Numeral

/-!
# The fewest digits of a binary number

A finite binary fraction is written with the fewest decimal digits that are nearer
to it than to any of its neighbours.  `Shortest.ofBinary` takes the interval of reals
that round to `mantissa * 2 ^ exponent` and looks at decimal grids from the coarsest
to the finest: the first grid with a point in the interval gives the digits, and of
two such points the nearer one is taken.

All comparisons are between natural numbers.  The two layouts at the end place the
decimal point; they differ in where they leave positional notation.
-/

namespace TokenRelay.Decimal

/-- A positive decimal number `digits * 10 ^ exponent`. -/
structure Shortest where
  digits : Nat
  exponent : Int
  deriving Repr

/-- A binary number with the interval of reals that round to it, over one denominator. -/
structure Interval where
  value : Nat
  lower : Nat
  upper : Nat
  denominator : Nat
  /-- Whether the ends belong to the interval. -/
  closed : Bool

/-- The interval of `mantissa * 2 ^ exponent`; the gap below a power of two is narrower. -/
def Interval.ofBinary (mantissa : Nat) (exponent : Int) (narrow : Bool) : Interval :=
  let scale := Nat.pow 2 (exponent - 2).toNat
  { value := 4 * mantissa * scale
    lower := (if narrow then 4 * mantissa - 1 else 4 * mantissa - 2) * scale
    upper := (4 * mantissa + 2) * scale
    denominator := Nat.pow 2 (2 - exponent).toNat
    closed := mantissa % 2 = 0 }

/-- Whether `numerator / divisor` lies in the interval. -/
def Interval.contains (interval : Interval) (numerator divisor : Nat) : Bool :=
  let point := numerator * interval.denominator
  let lower := interval.lower * divisor
  let upper := interval.upper * divisor
  if interval.closed then
    lower ≤ point && point ≤ upper
  else
    lower < point && point < upper

/-- The numerator and denominator of `digits * 10 ^ exponent`. -/
def gridPoint (digits : Nat) (exponent : Int) : Nat × Nat :=
  (digits * Nat.pow 10 exponent.toNat, Nat.pow 10 (-exponent).toNat)

/-- The nearest point of one decimal grid, if it lies in the interval. -/
def Interval.onGrid? (interval : Interval) (exponent : Int) : Option Nat :=
  let step := Nat.pow 10 exponent.toNat * interval.denominator
  let scaled := interval.value * Nat.pow 10 (-exponent).toNat
  let below := scaled / step
  let above := below + 1
  let inside (digits : Nat) : Bool :=
    let (numerator, divisor) := gridPoint digits exponent
    0 < digits && interval.contains numerator divisor
  match inside below, inside above with
  | true, true =>
    let toBelow := scaled - below * step
    let toAbove := above * step - scaled
    if toBelow < toAbove then some below
    else if toAbove < toBelow then some above
    else if below % 2 = 0 then some below
    else some above
  | true, false => some below
  | false, true => some above
  | false, false => none

/-- The exponent of the first grid: the value is below ten to the power after it. -/
def Interval.topExponent (interval : Interval) : Nat → Int → Int
  | 0, exponent => exponent
  | fuel + 1, exponent =>
    let (numerator, divisor) := gridPoint 1 exponent
    if interval.value * divisor < numerator * interval.denominator then
      interval.topExponent fuel (exponent - 1)
    else
      exponent

/-- Try grids of falling exponent. -/
def Interval.search (interval : Interval) : Nat → Int → Shortest
  | 0, exponent =>
    ⟨interval.value * Nat.pow 10 (-exponent).toNat /
      (Nat.pow 10 exponent.toNat * interval.denominator), exponent⟩
  | fuel + 1, exponent =>
    match interval.onGrid? exponent with
    | some digits => ⟨digits, exponent⟩
    | none => interval.search fuel (exponent - 1)

/-- Take trailing zeros into the exponent. -/
def Shortest.normalize : Nat → Shortest → Shortest
  | 0, number => number
  | fuel + 1, number =>
    if number.digits % 10 = 0 ∧ number.digits ≠ 0 then
      Shortest.normalize fuel ⟨number.digits / 10, number.exponent + 1⟩
    else
      number

/-- The fewest digits of `mantissa * 2 ^ exponent` for a positive mantissa. -/
def Shortest.ofBinary (mantissa : Nat) (exponent : Int) (narrow : Bool) : Shortest :=
  let interval := Interval.ofBinary mantissa exponent narrow
  let guess : Int := ((mantissa.log2 : Int) + exponent) * 30103 / 100000 + 2
  let top := interval.topExponent 8 guess
  (interval.search 20 top).normalize 20

/-- The digits of a number. -/
def Shortest.chars (number : Shortest) : List Char :=
  Numeral.decimal number.digits

/-- A number of zeros. -/
def zeros (count : Nat) : List Char :=
  List.replicate count '0'

/-- Positional notation without an exponent and without a point where none is needed. -/
def Shortest.positional (number : Shortest) : List Char :=
  let digits := number.chars
  let point : Int := digits.length + number.exponent
  if 0 ≤ number.exponent then
    digits ++ zeros number.exponent.toNat
  else if 0 < point then
    digits.take point.toNat ++ '.' :: digits.drop point.toNat
  else
    '0' :: '.' :: (zeros (-point).toNat ++ digits)

/-- The exponent mark of a number in scientific notation; its sign is always written. -/
def exponentMark (exponent : Int) : List Char :=
  'e' :: (if 0 ≤ exponent then '+' else '-') :: Numeral.decimal exponent.natAbs

/-- Positional notation with a point from `1e-5` to `1e16`, and scientific notation beyond. -/
def Shortest.pointed (number : Shortest) : List Char :=
  let digits := number.chars
  let point : Int := digits.length + number.exponent
  if 0 ≤ number.exponent ∧ point ≤ 16 then
    digits ++ zeros number.exponent.toNat ++ ['.', '0']
  else if 0 < point ∧ point ≤ 16 then
    digits.take point.toNat ++ '.' :: digits.drop point.toNat
  else if -5 < point ∧ point ≤ 0 then
    '0' :: '.' :: (zeros (-point).toNat ++ digits)
  else
    match digits with
    | [] => []
    | [only] => only :: exponentMark (point - 1)
    | first :: rest => first :: '.' :: (rest ++ exponentMark (point - 1))

end TokenRelay.Decimal
