import TokenRelay.Text.Digits
import TokenRelay.Text.Utf8

/-!
# Percent encoding

An octet that may not stand in a place is written as `%` and two upper-case digits in base
sixteen.  What may stand where is a set of octets; form encoding has its own and writes a
space as `+`.
-/

namespace TokenRelay.Percent

/-- The upper-case digit of a value below sixteen. -/
def digitChar (digit : Nat) : Char :=
  if digit < 10 then Char.ofNat (48 + digit) else Char.ofNat (55 + digit)

/-- An octet in encoded form. -/
def escape (octet : Nat) : List Char :=
  ['%', digitChar (octet / 16), digitChar (octet % 16)]

/-- Whether an octet is a printable character of ASCII. -/
def isPrintable (octet : Nat) : Bool :=
  0x20 ≤ octet && octet ≤ 0x7E

/-- Whether an octet is printable and none of some characters. -/
def allBut (excluded : List Char) (octet : Nat) : Bool :=
  isPrintable octet && !excluded.contains (Char.ofNat octet)

/-- The octets that stand for themselves in a path. -/
def inPath : Nat → Bool :=
  allBut [' ', '\x22', '#', '<', '>', '?', '\x60', '\x7b', '\x7d']

/-- The octets that stand for themselves in a query. -/
def inQuery : Nat → Bool :=
  allBut [' ', '\x22', '#', '<', '>', '\x27']

/-- The octets that stand for themselves in a fragment. -/
def inFragment : Nat → Bool :=
  allBut [' ', '\x22', '<', '>', '\x60']

/-- What may stand in a user's name or password. -/
def inCredentials : Nat → Bool :=
  allBut [' ', '\x22', '#', '<', '>', '?', '\x60', '\x7b', '\x7d', '/', ':', ';', '=', '@',
    '[', '\\', ']', '^', '|']

/-- Escape the octets of a text that do not stand for themselves. -/
def encode (stands : Nat → Bool) (chars : List Char) : List Char :=
  (Utf8.encode chars).flatMap fun octet =>
    if stands octet then [Char.ofNat octet] else escape octet

/-- Decode what is encoded, and leave a `%` that encodes nothing. -/
def decode : List Nat → List Nat
  | 0x25 :: high :: low :: rest =>
    match Hex.digit? (Char.ofNat high), Hex.digit? (Char.ofNat low) with
    | some upper, some lower => (upper * 16 + lower) :: decode rest
    | _, _ => 0x25 :: decode (high :: low :: rest)
  | octet :: rest => octet :: decode rest
  | [] => []

/-- Whether an octet stands for itself in a form. -/
def inForm (octet : Nat) : Bool :=
  (48 ≤ octet && octet ≤ 57) || (65 ≤ octet && octet ≤ 90) ||
    (97 ≤ octet && octet ≤ 122) ||
    ['*', '-', '.', '_'].contains (Char.ofNat octet)

/-- Encode a name or a value of a form. -/
def formText (text : String) : List Char :=
  (Utf8.encode text.toList).flatMap fun octet =>
    if octet = 0x20 then ['+']
    else if inForm octet then [Char.ofNat octet]
    else escape octet

/-- Encode the pairs of a form. -/
def form : List (String × String) → List Char
  | [] => []
  | [(name, value)] => formText name ++ '=' :: formText value
  | (name, value) :: rest => formText name ++ '=' :: formText value ++ '&' :: form rest

end TokenRelay.Percent
