import TokenRelay.Decimal.Real
import TokenRelay.Json.Basic
import TokenRelay.Text.Digits
import TokenRelay.Text.Utf8

/-!
# Reading JSON text

Each reader takes the rest of a text and returns what it read and what remains.
A fault is one of two kinds: the text ended early, or something in it is wrong, which
covers nesting deeper than 127, numbers too large for a real, and lone surrogates.

An integer that fits 64 bits stays an integer.  All other numbers become reals, made
from a significand of at most 64 bits: digits that no longer fit are passed over.
-/

namespace TokenRelay.Json

/-- Why a text is no JSON text. -/
inductive SyntaxFault where
  /-- The text ended where more was needed. -/
  | ended
  /-- Something in the text is wrong. -/
  | malformed
  deriving DecidableEq

/-- Whether a character separates tokens. -/
def isBlank (char : Char) : Bool :=
  char = ' ' || char = '\n' || char = '\t' || char = '\r'

/-- The text after leading blanks. -/
def skipBlanks (text : List Char) : List Char :=
  text.dropWhile isBlank

/-- Read the rest of a fixed word. -/
def readWord (value : Json) :
    List Char → List Char → Except SyntaxFault (Json × List Char)
  | [], rest => .ok (value, rest)
  | _ :: _, [] => .error .ended
  | expected :: word, char :: rest =>
    if expected = char then readWord value word rest else .error .malformed

/-- Where the reader stands within a text. -/
inductive TextState where
  | plain
  /-- After a backslash. -/
  | escaped
  /-- Within the four digits of a code unit, perhaps after a leading surrogate. -/
  | unit (owed : Nat) (value : Nat) (leading : Option Nat)
  /-- After a leading surrogate: the second escape has to follow. -/
  | wantBackslash (leading : Nat)
  | wantMark (leading : Nat)

/-- The character that an escape of one letter stands for. -/
def escapedChar? (char : Char) : Option Char :=
  match char with
  | '"' => some '"'
  | '\\' => some '\\'
  | '/' => some '/'
  | 'b' => some (Char.ofNat 8)
  | 'f' => some (Char.ofNat 12)
  | 'n' => some '\n'
  | 'r' => some '\r'
  | 't' => some '\t'
  | _ => none

/-- Whether the four octets of a code unit's digits are there. -/
def hasUnit (rest : List Char) : Bool :=
  4 ≤ (Utf8.encode (rest.take 4)).length

/-- What a complete code unit means: a character, or the wait for its second half. -/
def closeUnit (value : Nat) (leading : Option Nat) :
    Except SyntaxFault (Option Char × TextState) :=
  match leading with
  | none =>
    if 0xDC00 ≤ value ∧ value ≤ 0xDFFF then
      .error .malformed
    else if 0xD800 ≤ value ∧ value ≤ 0xDBFF then
      .ok (none, .wantBackslash value)
    else
      .ok (some (Char.ofNat value), .plain)
  | some high =>
    if 0xDC00 ≤ value ∧ value ≤ 0xDFFF then
      .ok (some (Char.ofNat (0x10000 + (high - 0xD800) * 1024 + (value - 0xDC00))),
        .plain)
    else
      .error .malformed

/-- Read quoted text up to its closing quote; the characters read come in reverse. -/
def readQuoted : TextState → List Char → List Char →
    Except SyntaxFault (List Char × List Char)
  | _, _, [] => .error .ended
  | .plain, found, char :: rest =>
    if char = '"' then .ok (found, rest)
    else if char = '\\' then readQuoted .escaped found rest
    else if char.toNat < 32 then .error .malformed
    else readQuoted .plain (char :: found) rest
  | .escaped, found, char :: rest =>
    if char = 'u' then
      if hasUnit rest then readQuoted (.unit 4 0 none) found rest else .error .ended
    else
      match escapedChar? char with
      | some meant => readQuoted .plain (meant :: found) rest
      | none => .error .malformed
  | .unit owed value leading, found, char :: rest =>
    match Hex.digit? char with
    | none => .error .malformed
    | some digit =>
      if owed ≤ 1 then
        match closeUnit (value * 16 + digit) leading with
        | .error fault => .error fault
        | .ok (some meant, state) => readQuoted state (meant :: found) rest
        | .ok (none, state) => readQuoted state found rest
      else
        readQuoted (.unit (owed - 1) (value * 16 + digit) leading) found rest
  | .wantBackslash leading, found, char :: rest =>
    if char = '\\' then readQuoted (.wantMark leading) found rest else .error .malformed
  | .wantMark leading, found, char :: rest =>
    if char = 'u' then
      if hasUnit rest then
        readQuoted (.unit 4 0 (some leading)) found rest
      else
        .error .ended
    else
      .error .malformed

/-- How many significands fit into a machine word. -/
def significandCount : Nat := Nat.pow 2 64

/-- Append digits to a significand while they fit; also how many were taken. -/
def takeSignificand : Nat → Nat → List Char → Nat × Nat × List Char
  | value, taken, [] => (value, taken, [])
  | value, taken, char :: rest =>
    match Numeral.digit? char with
    | some digit =>
      if value * 10 + digit < significandCount then
        takeSignificand (value * 10 + digit) (taken + 1) rest
      else
        (value, taken, char :: rest)
    | none => (value, taken, char :: rest)

/-- A real number, refused when it is too large. -/
def realOf (negative : Bool) (significand : Nat) (exponent : Int) (rest : List Char) :
    Except SyntaxFault (Json × List Char) :=
  match Real.ofParts? negative significand exponent with
  | some value => .ok (.real value, rest)
  | none => .error .malformed

/-- Read the exponent after its mark. -/
def readExponent (negative : Bool) (significand : Nat) (start : Int) (text : List Char) :
    Except SyntaxFault (Json × List Char) :=
  let (below, digits) := Real.takeSign text
  match Real.takeDigits digits with
  | ([], []) => .error .ended
  | ([], _ :: _) => .error .malformed
  | (found, rest) =>
    let exponent := Real.digitsValue found
    if Nat.pow 2 31 ≤ exponent then
      if significand ≠ 0 ∧ !below then
        .error .malformed
      else
        .ok (.real (if negative then -0.0 else 0.0), rest)
    else
      realOf negative significand
        (if below then start - exponent else start + exponent) rest

/-- Finish a real number whose significand is read: an exponent may follow. -/
def finishReal (negative : Bool) (significand : Nat) (exponent : Int) :
    List Char → Except SyntaxFault (Json × List Char)
  | [] => realOf negative significand exponent []
  | char :: rest =>
    if char = 'e' ∨ char = 'E' then
      readExponent negative significand exponent rest
    else
      realOf negative significand exponent (char :: rest)

/-- Read the digits after a point. -/
def readFraction (negative : Bool) (significand : Nat) (exponent : Int)
    (text : List Char) : Except SyntaxFault (Json × List Char) :=
  let (value, taken, rest) := takeSignificand significand 0 text
  let full := match rest with
    | char :: _ => (Numeral.digit? char).isSome
    | [] => false
  if full then
    finishReal negative value (exponent - taken) (Real.takeDigits rest).2
  else if taken = 0 then
    match rest with
    | [] => .error .ended
    | _ :: _ => .error .malformed
  else
    finishReal negative value (exponent - taken) rest

/-- An integer in its own range, else a real. -/
def integerOf (negative : Bool) (value : Nat) : Json :=
  if negative then
    if value = 0 ∨ Nat.pow 2 63 < value then
      .real (-(UInt64.ofNat value).toFloat)
    else
      .integer (-(value : Int))
  else
    .integer value

/-- Read what follows the whole part of a number. -/
def finishNumber (negative : Bool) (value : Nat) :
    List Char → Except SyntaxFault (Json × List Char)
  | [] => .ok (integerOf negative value, [])
  | char :: rest =>
    if char = '.' then readFraction negative value 0 rest
    else if char = 'e' ∨ char = 'E' then readExponent negative value 0 rest
    else .ok (integerOf negative value, char :: rest)

/-- Read a number after its sign. -/
def readNumber (negative : Bool) : List Char → Except SyntaxFault (Json × List Char)
  | [] => .error .ended
  | '0' :: rest =>
    match rest with
    | char :: _ =>
      if (Numeral.digit? char).isSome then .error .malformed
      else finishNumber negative 0 rest
    | [] => finishNumber negative 0 []
  | char :: rest =>
    match Numeral.digit? char with
    | none => .error .malformed
    | some _ =>
      let (value, _, remainder) := takeSignificand 0 0 (char :: rest)
      let (passed, after) := Real.takeDigits remainder
      if passed.isEmpty then
        finishNumber negative value remainder
      else
        match after with
        | '.' :: fraction => readFraction negative value passed.length fraction
        | _ => finishReal negative value passed.length after

mutual

/-- Read a value; `depth` counts the enclosing arrays and objects. -/
def readValue : Nat → Nat → List Char → Except SyntaxFault (Json × List Char)
  | 0, _, _ => .error .malformed
  | fuel + 1, depth, source =>
    match skipBlanks source with
    | [] => .error .ended
    | char :: rest =>
      if char = '"' then
        match readQuoted .plain [] rest with
        | .error fault => .error fault
        | .ok (found, remainder) => .ok (.text (String.ofList found.reverse), remainder)
      else if char = '[' then
        if 127 ≤ depth then .error .malformed
        else readItems fuel (depth + 1) true [] rest
      else if char = '\x7b' then
        if 127 ≤ depth then .error .malformed
        else readFields fuel (depth + 1) true [] rest
      else if char = '-' then readNumber true rest
      else if char = 'n' then readWord .null ['u', 'l', 'l'] rest
      else if char = 't' then readWord (.boolean true) ['r', 'u', 'e'] rest
      else if char = 'f' then readWord (.boolean false) ['a', 'l', 's', 'e'] rest
      else if (Numeral.digit? char).isSome then readNumber false (char :: rest)
      else .error .malformed

/-- Read the items of an array, `first` before any item is read. -/
def readItems : Nat → Nat → Bool → List Json → List Char →
    Except SyntaxFault (Json × List Char)
  | 0, _, _, _, _ => .error .malformed
  | fuel + 1, depth, first, found, source =>
    match skipBlanks source with
    | [] => .error .ended
    | char :: rest =>
      if char = ']' then
        .ok (.array found.reverse, rest)
      else
        let start : Except SyntaxFault (List Char) :=
          if first then .ok (char :: rest)
          else if char ≠ ',' then .error .malformed
          else
            match skipBlanks rest with
            | [] => .error .ended
            | ']' :: _ => .error .malformed
            | next => .ok next
        match start with
        | .error fault => .error fault
        | .ok begin =>
          match readValue fuel depth begin with
          | .error fault => .error fault
          | .ok (item, remainder) => readItems fuel depth false (item :: found) remainder

/-- Read the fields of an object, `first` before any field is read. -/
def readFields : Nat → Nat → Bool → List (String × Json) → List Char →
    Except SyntaxFault (Json × List Char)
  | 0, _, _, _, _ => .error .malformed
  | fuel + 1, depth, first, found, source =>
    match skipBlanks source with
    | [] => .error .ended
    | char :: rest =>
      if char = '\x7d' then
        .ok (.object found, rest)
      else
        let start :=
          if first then char :: rest
          else if char = ',' then skipBlanks rest
          else ['!']
        match start with
        | [] => .error .ended
        | '"' :: begin =>
          match readQuoted .plain [] begin with
          | .error fault => .error fault
          | .ok (key, remainder) =>
            match skipBlanks remainder with
            | [] => .error .ended
            | ':' :: after =>
              match readValue fuel depth after with
              | .error fault => .error fault
              | .ok (value, tail) =>
                readFields fuel depth false
                  (setField (String.ofList key.reverse) value found) tail
            | _ :: _ => .error .malformed
        | _ :: _ => .error .malformed

end

/-- The value of a text with nothing but blanks around it. -/
def read (text : String) : Except SyntaxFault Json :=
  let chars := text.toList
  match readValue (2 * chars.length + 4) 0 chars with
  | .error fault => .error fault
  | .ok (value, rest) =>
    if (skipBlanks rest).isEmpty then .ok value else .error .malformed

end TokenRelay.Json
