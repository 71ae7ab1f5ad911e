import TokenRelay.Pattern.Expression
import TokenRelay.Text.Digits
import TokenRelay.Text.Numeral

/-!
# Reading what a backslash begins

In extended text blanks carry no meaning and a number sign begins a comment up to the end
of the line; both may then stand almost everywhere, also among the digits of an escape.
Readers take the rest of a text and return what they found with what remains.
-/

namespace TokenRelay.Pattern

/-- The rest of a text after blanks and comments. -/
def skipBlanks (inComment : Bool) : List Char → List Char
  | [] => []
  | char :: rest =>
    if inComment then skipBlanks (char ≠ '\n') rest
    else if CharacterClass.isSpace char then skipBlanks false rest
    else if char = '#' then skipBlanks true rest
    else char :: rest

/-- The rest of a text after what carries no meaning. -/
def skip (extended : Bool) (chars : List Char) : List Char :=
  if extended then skipBlanks false chars else chars

/-- The characters up to a closing brace, without what carries no meaning. -/
def readBraced (extended inComment : Bool) : List Char → Option (List Char × List Char)
  | [] => none
  | char :: rest =>
    if inComment then readBraced extended (char ≠ '\n') rest
    else if extended ∧ CharacterClass.isSpace char then readBraced extended false rest
    else if extended ∧ char = '#' then readBraced extended true rest
    else if char = '\x7d' then some ([], rest)
    else
      (readBraced extended false rest).map fun found => (char :: found.1, found.2)

/-- The decimal digits at the start of a text, without what carries no meaning. -/
def readDigits (extended inComment : Bool) : List Char → List Char × List Char
  | [] => ([], [])
  | char :: rest =>
    if inComment then readDigits extended (char ≠ '\n') rest
    else if char.isDigit then
      let found := readDigits extended false rest
      (char :: found.1, found.2)
    else if extended ∧ CharacterClass.isSpace char then readDigits extended false rest
    else if extended ∧ char = '#' then readDigits extended true rest
    else ([], char :: rest)

/-- The character of a code point, refused for a surrogate or beyond the last one. -/
def charOfCode? (code : Nat) : Option Char :=
  if code < 0xD800 ∨ (0xE000 ≤ code ∧ code < 0x110000) then
    some (Char.ofNat code)
  else
    none

/-- Read a number of digits in base sixteen. -/
def readCode (extended : Bool) : Nat → Nat → List Char → Option (Nat × List Char)
  | 0, value, chars => some (value, chars)
  | _ + 1, _, [] => none
  | count + 1, value, char :: rest =>
    match Hex.digit? char with
    | some digit => readCode extended count (value * 16 + digit) (skip extended rest)
    | none => none

/-- The value of digits in base sixteen. -/
def hexValue? : Nat → List Char → Option Nat
  | value, [] => some value
  | value, char :: rest =>
    match Hex.digit? char with
    | some digit => hexValue? (value * 16 + digit) rest
    | none => none

/-- Read a character by its code point, of a fixed number of digits or between braces. -/
def readCoded (extended : Bool) (width : Nat) (chars : List Char) :
    Option (Written × List Char) :=
  match skip extended chars with
  | '\x7b' :: rest =>
    match readBraced extended false rest with
    | none => none
    | some (digits, remainder) =>
      if digits.isEmpty then none
      else
        ((hexValue? 0 digits).bind charOfCode?).map fun char => (⟨char, false⟩, remainder)
  | digits =>
    match readCode extended width 0 digits with
    | none => none
    | some (code, remainder) =>
      (charOfCode? code).map fun char => (⟨char, width = 2⟩, remainder)

/-- Cut a text at the first place where a pair or a single character stands. -/
def cutAt (first : Char) (second : Option Char) : List Char → Option (List Char × List Char)
  | [] => none
  | char :: rest =>
    if char = first ∧ (second.isNone ∨ second = rest.head?) then
      some ([], if second.isSome then rest.drop 1 else rest)
    else
      (cutAt first second rest).map fun found => (char :: found.1, found.2)

/-- The set that is named between braces, and whether its complement is meant. -/
def queryOf (name : List Char) : Unicode.Query × Bool :=
  match cutAt '!' (some '=') name, cutAt ':' none name, cutAt '=' none name with
  | some (property, value), _, _ => (⟨.ofList property, some (.ofList value)⟩, true)
  | none, some (property, value), _ => (⟨.ofList property, some (.ofList value)⟩, false)
  | none, none, some (property, value) =>
    (⟨.ofList property, some (.ofList value)⟩, false)
  | none, none, none => (⟨.ofList name, none⟩, false)

/-- Read the name of a set of code points: one letter, or a name between braces. -/
def readQuery (extended negated : Bool) (chars : List Char) :
    Option (SetExpression × List Char) :=
  match skip extended chars with
  | [] => none
  | '\\' :: _ => none
  | '\x7b' :: rest =>
    (readBraced extended false rest).map fun found =>
      let named := queryOf found.1
      (.property named.1 (negated != named.2), found.2)
  | char :: rest => some (.property ⟨.ofList [char], none⟩ negated, rest)

/-- What an escape stands for. -/
inductive Escape where
  | char (member : Written)
  | mark (test : Mark)
  | set (members : SetExpression)

/-- The class of a letter, and whether its complement is meant. -/
def letterClass? (letter : Char) : Option (LetterClass × Bool) :=
  match letter with
  | 'd' => some (.digit, false)
  | 'D' => some (.digit, true)
  | 's' => some (.space, false)
  | 'S' => some (.space, true)
  | 'w' => some (.word, false)
  | 'W' => some (.word, true)
  | _ => none

/-- The control character that an escape of one letter stands for. -/
def control? (letter : Char) : Option Char :=
  match letter with
  | 'a' => some (Char.ofNat 7)
  | 'f' => some (Char.ofNat 12)
  | 'n' => some '\n'
  | 'r' => some '\r'
  | 't' => some '\t'
  | 'v' => some (Char.ofNat 11)
  | _ => none

/-- The test that a letter or sign stands for. -/
def markByLetter? (letter : Char) : Option Mark :=
  match letter with
  | 'A' => some .textStart
  | 'z' => some .textEnd
  | 'B' => some (.word .inside)
  | '<' => some (.word .start)
  | '>' => some (.word .finish)
  | _ => none

/-- A test by words that is written by name. -/
def wordTest? (name : String) : Option WordTest :=
  match name with
  | "start" => some .start
  | "end" => some .finish
  | "start-half" => some .noneBefore
  | "end-half" => some .noneAfter
  | _ => none

/--
Read the test that `b` stands for, whose name may stand in braces.  Braces that do not
begin with a letter or a hyphen are left for a repetition.
-/
def readBoundary (extended : Bool) : List Char → Option (Escape × List Char)
  | '\x7b' :: rest =>
    match skip extended rest with
    | [] => none
    | char :: others =>
      if char.isAlpha ∨ char = '-' then
        match readBraced extended false (char :: others) with
        | none => none
        | some (name, remainder) =>
          (wordTest? (.ofList name)).map fun test => (.mark (.word test), remainder)
      else
        some (.mark (.word .boundary), '\x7b' :: rest)
  | chars => some (.mark (.word .boundary), chars)

/-- How many digits a code point has after a letter. -/
def codeWidth? (letter : Char) : Option Nat :=
  match letter with
  | 'x' => some 2
  | 'u' => some 4
  | 'U' => some 8
  | _ => none

/-- Whether a character without a meaning of its own may follow a backslash. -/
def isEscapable (char : Char) : Bool :=
  char.toNat < 128 && !char.isAlphanum

/-- Read an escape after its backslash. -/
def readEscape (extended : Bool) : List Char → Option (Escape × List Char)
  | [] => none
  | 'b' :: rest => readBoundary extended rest
  | 'p' :: rest =>
    (readQuery extended false rest).map fun found => (.set found.1, found.2)
  | 'P' :: rest =>
    (readQuery extended true rest).map fun found => (.set found.1, found.2)
  | char :: rest =>
    match codeWidth? char, letterClass? char, markByLetter? char, control? char with
    | some width, _, _, _ =>
      (readCoded extended width rest).map fun found => (.char found.1, found.2)
    | none, some (kind, negated), _, _ => some (.set (.letter kind negated), rest)
    | none, none, some mark, _ => some (.mark mark, rest)
    | none, none, none, some control => some (.char ⟨control, false⟩, rest)
    | none, none, none, none =>
      if isEscapable char then some (.char ⟨char, false⟩, rest) else none

end TokenRelay.Pattern
