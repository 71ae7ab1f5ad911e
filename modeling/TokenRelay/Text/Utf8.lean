/-!
# UTF-8

`encode` writes characters as octets.  `decodeLossy` reads any octets: where they
are no UTF-8 it writes one replacement character for each longest run of octets
that could have begun a character, and goes on with the octet that ended the run.
The reader is a machine over octets whose state is the unfinished character.
-/

namespace TokenRelay.Utf8

/-- The octets of one code point. -/
def encodeCode (code : Nat) : List Nat :=
  if code < 0x80 then
    [code]
  else if code < 0x800 then
    [0xC0 + code / 64, 0x80 + code % 64]
  else if code < 0x10000 then
    [0xE0 + code / 4096, 0x80 + code / 64 % 64, 0x80 + code % 64]
  else
    [0xF0 + code / 262144, 0x80 + code / 4096 % 64,
      0x80 + code / 64 % 64, 0x80 + code % 64]

/-- The octets of a text. -/
def encode (text : List Char) : List Nat :=
  text.flatMap fun char => encodeCode char.toNat

/-- A character whose first octets have been read. -/
structure Unfinished where
  /-- How many octets are still owed. -/
  owed : Nat
  /-- The least next octet. -/
  least : Nat
  /-- The greatest next octet. -/
  greatest : Nat
  /-- The bits collected so far. -/
  bits : Nat
  deriving DecidableEq

/-- The character that stands in place of octets that mean none. -/
def replacement : Char := Char.ofNat 0xFFFD

/-- Read an octet between characters. -/
def openWith (octet : Nat) : List Char × Option Unfinished :=
  if octet < 0x80 then
    ([Char.ofNat octet], none)
  else if octet < 0xC2 then
    ([replacement], none)
  else if octet < 0xE0 then
    ([], some ⟨1, 0x80, 0xBF, octet - 0xC0⟩)
  else if octet = 0xE0 then
    ([], some ⟨2, 0xA0, 0xBF, 0⟩)
  else if octet = 0xED then
    ([], some ⟨2, 0x80, 0x9F, 13⟩)
  else if octet < 0xF0 then
    ([], some ⟨2, 0x80, 0xBF, octet - 0xE0⟩)
  else if octet = 0xF0 then
    ([], some ⟨3, 0x90, 0xBF, 0⟩)
  else if octet < 0xF4 then
    ([], some ⟨3, 0x80, 0xBF, octet - 0xF0⟩)
  else if octet = 0xF4 then
    ([], some ⟨3, 0x80, 0x8F, 4⟩)
  else
    ([replacement], none)

/-- Read one octet: the characters that are now certain, and what is unfinished. -/
def step : Option Unfinished → Nat → List Char × Option Unfinished
  | none, octet => openWith octet
  | some pending, octet =>
    if pending.least ≤ octet ∧ octet ≤ pending.greatest then
      let bits := pending.bits * 64 + (octet - 0x80)
      if pending.owed ≤ 1 then
        ([Char.ofNat bits], none)
      else
        ([], some ⟨pending.owed - 1, 0x80, 0xBF, bits⟩)
    else
      let (chars, next) := openWith octet
      (replacement :: chars, next)

/-- Read octets from a given state to the end. -/
def decodeFrom : Option Unfinished → List Nat → List Char
  | none, [] => []
  | some _, [] => [replacement]
  | state, octet :: rest =>
    let (chars, next) := step state octet
    chars ++ decodeFrom next rest

/-- Read octets as text, with replacement characters where they are no UTF-8. -/
def decodeLossy (octets : List Nat) : List Char :=
  decodeFrom none octets

/-- The first octet of a character. -/
def leadOctet (char : Char) : Nat :=
  (encodeCode char.toNat).headD 0

end TokenRelay.Utf8
