import TokenRelay.Http.DomainName
import TokenRelay.Http.Percent
import TokenRelay.Text.Numeral

/-!
# Hosts

A host is an address of 32 or 128 bits or a name.  A name that ends in a number has to be
an address of 32 bits, whose parts may be written in base eight, ten or sixteen; an
address of 128 bits stands in brackets.
-/

namespace TokenRelay

/-- Whom to connect to. -/
inductive Host where
  | name (text : String)
  | address32 (value : Nat)
  | address128 (pieces : List Nat)
  deriving DecidableEq, Repr

namespace Host

/-- The number that digits denote in a base. -/
def readBase (base : Nat) : List Char → Option Nat
  | digits => digits.foldl
    (fun value char =>
      match value, Hex.digit? char with
      | some value, some digit =>
        if digit < base then some (value * base + digit) else none
      | _, _ => none)
    (some 0)

/-- The number of one part of an address. -/
def readPart : List Char → Option Nat
  | [] => none
  | '0' :: 'x' :: digits => readBase 16 digits
  | '0' :: 'X' :: digits => readBase 16 digits
  | ['0'] => some 0
  | '0' :: digits => readBase 8 digits
  | digits => readBase 10 digits

/-- The parts of a name, without an empty one at its end. -/
def parts (chars : List Char) : List (List Char) :=
  match (Separated.parts '.' chars).reverse with
  | [] :: part :: rest => (part :: rest).reverse
  | found => found.reverse

/-- Whether the last part is a number, so that the whole has to be an address. -/
def endsInNumber (chars : List Char) : Bool :=
  match (parts chars).getLast? with
  | some last =>
    (!last.isEmpty && last.all fun char => (Numeral.digit? char).isSome) ||
      (readPart last).isSome
  | none => false

/-- The address that some numbers denote; the last fills what the others leave. -/
def joinParts (numbers : List Nat) : Option Nat :=
  match numbers.reverse with
  | [] => none
  | last :: before =>
    if 3 < before.length then none
    else if before.any (255 < ·) then none
    else if Nat.pow 256 (4 - before.length) ≤ last then none
    else
      let high := before.reverse.foldl (fun value number => value * 256 + number) 0
      some (high * Nat.pow 256 (4 - before.length) + last)

/-- An address of up to four numbers. -/
def readAddress32 (chars : List Char) : Option Nat :=
  match (parts chars).mapM readPart with
  | some numbers => joinParts numbers
  | none => none

/-- A group of up to four hexadecimal digits. -/
def readGroup (digits : List Char) : Option Nat :=
  if digits.isEmpty || 4 < digits.length then none else readBase 16 digits

/-- A number below 256 in base ten without leading zeros. -/
def readOctet (digits : List Char) : Option Nat :=
  match digits with
  | [] => none
  | ['0'] => some 0
  | '0' :: _ => none
  | _ =>
    match readBase 10 digits with
    | some value => if value < 256 then some value else none
    | none => none

/-- The two pieces of an address of 32 bits within a longer one. -/
def readEmbedded (chars : List Char) : Option (List Nat) :=
  match (Separated.parts '.' chars).mapM readOctet with
  | some [first, second, third, fourth] =>
    some [first * 256 + second, third * 256 + fourth]
  | _ => none

/-- The pieces of some groups; the last group may be an address of 32 bits. -/
def readGroups : List (List Char) → Option (List Nat)
  | [] => some []
  | [last] =>
    if last.contains '.' then readEmbedded last else (readGroup last).map ([·])
  | group :: rest =>
    match readGroup group, readGroups rest with
    | some piece, some pieces => some (piece :: pieces)
    | _, _ => none

/-- The pieces of a text, of which an empty one has none. -/
def readPieces (chars : List Char) : Option (List Nat) :=
  if chars.isEmpty then some [] else readGroups (Separated.parts ':' chars)

/-- The texts before and after the first double colon. -/
def cutGap : List Char → Option (List Char × List Char)
  | ':' :: ':' :: rest => some ([], rest)
  | char :: rest => (cutGap rest).map fun (before, after) => (char :: before, after)
  | [] => none

/-- Read an address of 128 bits; a double colon stands for zeros, at least one piece. -/
def readAddress128 (chars : List Char) : Option (List Nat) :=
  match cutGap chars with
  | none =>
    match readPieces chars with
    | some pieces => if pieces.length = 8 then some pieces else none
    | none => none
  | some (before, after) =>
    if before.contains '.' then none
    else
      match readPieces before, readPieces after with
      | some high, some low =>
        if high.length + low.length ≤ 7 then
          some (high ++ List.replicate (8 - high.length - low.length) 0 ++ low)
        else
          none
      | _, _ => none

/-- Read a host; none where it is empty or no host. -/
def read? (chars : List Char) : Option Host :=
  match chars with
  | '[' :: rest =>
    match rest.reverse with
    | ']' :: inner => (readAddress128 inner.reverse).map .address128
    | _ => none
  | _ =>
    match DomainName.read? (Utf8.decodeLossy (Percent.decode (Utf8.encode chars))) with
    | none => none
    | some found =>
      if endsInNumber found then
        (readAddress32 found).map .address32
      else
        some (.name (String.ofList found))

/-! ## Hosts in text -/

/-- How many zeros some pieces begin with. -/
def leadingZeros : List Nat → Nat
  | 0 :: rest => leadingZeros rest + 1
  | _ => 0

/-- Where the first of the longest runs of zeros begins, and its length. -/
def longestZeros (start : Nat) : List Nat → Nat × Nat
  | [] => (0, 0)
  | piece :: rest =>
    let later := longestZeros (start + 1) rest
    let here := leadingZeros (piece :: rest)
    if later.2 ≤ here then (start, here) else later

/-- A piece in base sixteen without leading zeros. -/
def pieceText (piece : Nat) : String :=
  let digits := (Hex.fixed 4 piece).dropWhile (· = '0')
  if digits.isEmpty then "0" else String.ofList digits

/-- Pieces between colons. -/
def piecesText (pieces : List Nat) : String :=
  ":".intercalate (pieces.map pieceText)

/-- An address of 128 bits; a double colon stands for its longest run of zeros. -/
def address128Text (pieces : List Nat) : String :=
  let (start, length) := longestZeros 0 pieces
  if length < 2 then
    piecesText pieces
  else
    piecesText (pieces.take start) ++ "::" ++ piecesText (pieces.drop (start + length))

/-- The octets of an address of 32 bits. -/
def octets (value : Nat) : List Nat :=
  [value / Nat.pow 256 3, value / Nat.pow 256 2 % 256, value / 256 % 256, value % 256]

/-- The host as it stands in an address. -/
def text : Host → String
  | .name found => found
  | .address32 value => ".".intercalate ((octets value).map Numeral.text)
  | .address128 pieces => "[" ++ address128Text pieces ++ "]"

/-- Whether a request can be sent to a host; a few signs that names may have prevent it. -/
def isSendable (host : Host) : Bool :=
  !host.text.toList.any fun char => ['\x22', '\x60', '\x7b', '\x7d'].contains char

end Host

end TokenRelay
