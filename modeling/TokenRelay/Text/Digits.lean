/-!
# Octets in digits

In base sixteen an octet is two digits, lower-case ones when writing and of either case when
reading.  In base sixty-four four digits of the standard alphabet stand for three octets, with
padding.
-/

namespace TokenRelay.Hex

/-- The lower-case digit of a value below sixteen. -/
def digitChar (digit : Nat) : Char :=
  if digit < 10 then Char.ofNat (48 + digit) else Char.ofNat (87 + digit)

/-- The value of a base-sixteen digit of either case. -/
def digit? (char : Char) : Option Nat :=
  if 48 ≤ char.toNat ∧ char.toNat ≤ 57 then
    some (char.toNat - 48)
  else if 97 ≤ char.toNat ∧ char.toNat ≤ 102 then
    some (char.toNat - 87)
  else if 65 ≤ char.toNat ∧ char.toNat ≤ 70 then
    some (char.toNat - 55)
  else
    none

/-- The two digits of each octet. -/
def encode (octets : List Nat) : List Char :=
  octets.flatMap fun octet => [digitChar (octet / 16), digitChar (octet % 16)]

/-- The octets of an even number of digits. -/
def decode? : List Char → Option (List Nat)
  | [] => some []
  | [_] => none
  | high :: low :: rest =>
    match digit? high, digit? low, decode? rest with
    | some upper, some lower, some octets => some ((upper * 16 + lower) :: octets)
    | _, _, _ => none

/-- A number in a fixed count of digits, most significant first. -/
def fixed : Nat → Nat → List Char
  | 0, _ => []
  | width + 1, number => fixed width (number / 16) ++ [digitChar (number % 16)]

end TokenRelay.Hex

namespace TokenRelay.Base64

/-- The digit of a value below sixty-four. -/
def digitChar (digit : Nat) : Char :=
  if digit < 26 then Char.ofNat (65 + digit)
  else if digit < 52 then Char.ofNat (71 + digit)
  else if digit < 62 then Char.ofNat (digit - 4)
  else if digit = 62 then '+'
  else '/'

/-- Four digits for each three octets, the last group padded. -/
def encode : List Nat → List Char
  | [] => []
  | [first] =>
    [digitChar (first / 4), digitChar (first % 4 * 16), '=', '=']
  | [first, second] =>
    [digitChar (first / 4), digitChar (first % 4 * 16 + second / 16),
      digitChar (second % 16 * 4), '=']
  | first :: second :: third :: rest =>
    digitChar (first / 4) :: digitChar (first % 4 * 16 + second / 16) ::
      digitChar (second % 16 * 4 + third / 64) :: digitChar (third % 64) ::
      encode rest

end TokenRelay.Base64
