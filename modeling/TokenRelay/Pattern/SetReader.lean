import TokenRelay.Pattern.Escape

/-!
# Reading sets in brackets

A set lists characters, ranges, classes and further sets between brackets; a circumflex
at its start means its complement.  `&&`, `--` and `~~` combine what stands before them
with what stands after them.  The open brackets are kept in a list, the innermost first.
-/

namespace TokenRelay.Pattern

/-- The ASCII characters of a class written by name within brackets. -/
def asciiClass? (name : String) : Option CodePoints :=
  match name with
  | "alnum" => some (.ofText "30-39 41-5A 61-7A")
  | "alpha" => some (.ofText "41-5A 61-7A")
  | "ascii" => some (.between 0 0x7F)
  | "blank" => some (.ofText "9 20")
  | "cntrl" => some (.ofText "0-1F 7F")
  | "digit" => some CharacterClass.asciiDigit
  | "graph" => some (.between 0x21 0x7E)
  | "lower" => some (.between 0x61 0x7A)
  | "print" => some (.between 0x20 0x7E)
  | "punct" => some (.ofText "21-2F 3A-40 5B-60 7B-7E")
  | "space" => some CharacterClass.asciiSpace
  | "upper" => some (.between 0x41 0x5A)
  | "word" => some CharacterClass.asciiWord
  | "xdigit" => some (.ofText "30-39 41-46 61-66")
  | _ => none

/-- Read a class by name after its bracket; what is no such class is read otherwise. -/
def readNamedClass? : List Char → Option (SetExpression × List Char)
  | ':' :: rest =>
    let start := if rest.head? = some '^' then rest.drop 1 else rest
    let name := start.takeWhile (· ≠ ':')
    match start.drop name.length with
    | ':' :: ']' :: remainder =>
      (asciiClass? (.ofList name)).map fun members =>
        (.named members (rest.head? = some '^'), remainder)
    | _ => none
  | _ => none

/-- Read a member of a set: one character or an escape. -/
def readMember (extended : Bool) : List Char → Option (Escape × List Char)
  | [] => none
  | '\\' :: rest => readEscape extended rest
  | char :: rest => some (.char ⟨char, false⟩, rest)

/-- A member as an item of a set; a test on positions is none. -/
def Escape.item? : Escape → Option SetExpression
  | .char member => some (.char member)
  | .set members => some members
  | .mark _ => none

/-- The first character that is neither blank nor the sign of a comment. -/
def firstMeaningful (pastSign : Bool) : List Char → Option Char
  | [] => none
  | char :: rest =>
    if CharacterClass.isSpace char then firstMeaningful pastSign rest
    else if char = '#' ∧ !pastSign then firstMeaningful true rest
    else some char

/-- Whether a hyphen is no sign of a range, by what follows it. -/
def standsAlone (extended : Bool) (chars : List Char) : Bool :=
  let next :=
    if extended then (firstMeaningful false chars).or chars.head? else chars.head?
  next = some ']' || next = some '-'

/-- Read an item of a set: a member, or a range from one character to another. -/
def readItem (extended : Bool) (chars : List Char) :
    Option (SetExpression × List Char) :=
  match readMember extended chars with
  | none => none
  | some (member, rest) =>
    match skip extended rest with
    | [] => none
    | '-' :: others =>
      if standsAlone extended others then
        member.item?.map fun item => (item, '-' :: others)
      else
        match member, readMember extended (skip extended others) with
        | .char first, some (.char last, remainder) =>
          if first.char ≤ last.char then some (.range first last, remainder) else none
        | _, _ => none
    | others => member.item?.map fun item => (item, others)

/-- A bracket that has not been closed. -/
structure OpenSet where
  negated : Bool
  /-- Whether only hyphens have been read, which are members of the set. -/
  atStart : Bool
  /-- What stands to the left of an operator, with the operator. -/
  before : Option (SetExpression × SetOperator)
  /-- The items since, the last first. -/
  items : List SetExpression

namespace OpenSet

/-- One more item of the set. -/
def add (current : OpenSet) (item : SetExpression) : OpenSet :=
  { current with atStart := false, items := item :: current.items }

/-- What the bracket says so far. -/
def body (current : OpenSet) : SetExpression :=
  let items := SetExpression.ofItems current.items.reverse
  match current.before with
  | none => items
  | some (left, operator) => .operation operator left items

/-- Go on after an operator. -/
def operate (current : OpenSet) (operator : SetOperator) : OpenSet :=
  { current with atStart := false, before := some (current.body, operator), items := [] }

/-- The set as an item of the one around it. -/
def close (current : OpenSet) : SetExpression :=
  .bracket current.body current.negated

end OpenSet

/-- A set that begins, and what follows the sign of its negation. -/
def openSet (extended : Bool) (chars : List Char) : OpenSet × List Char :=
  match skip extended chars with
  | '^' :: rest => (⟨true, true, none, []⟩, rest)
  | rest => (⟨false, true, none, []⟩, rest)

/-- A character that stands for itself. -/
def plainItem (char : Char) : SetExpression :=
  .char ⟨char, false⟩

/-- Read on within brackets; each step takes a character. -/
def readSetItems (extended : Bool) : Nat → OpenSet → List OpenSet → List Char →
    Option (SetExpression × List Char)
  | 0, _, _, _ => none
  | fuel + 1, current, outer, chars =>
    match current.atStart, skip extended chars with
    | _, [] => none
    | true, '-' :: rest =>
      readSetItems extended fuel
        { current with items := plainItem '-' :: current.items } outer rest
    | true, ']' :: rest =>
      if current.items.isEmpty then
        readSetItems extended fuel (current.add (plainItem ']')) outer rest
      else
        readSetItems extended fuel { current with atStart := false } outer (']' :: rest)
    | _, '[' :: rest =>
      match readNamedClass? rest with
      | some (item, remainder) =>
        readSetItems extended fuel (current.add item) outer remainder
      | none =>
        let inner := openSet extended rest
        readSetItems extended fuel inner.1
          ({ current with atStart := false } :: outer) inner.2
    | _, ']' :: rest =>
      match outer with
      | [] => some (current.close, rest)
      | parent :: others =>
        readSetItems extended fuel (parent.add current.close) others rest
    | _, '&' :: '&' :: rest =>
      readSetItems extended fuel (current.operate .inter) outer rest
    | _, '-' :: '-' :: rest =>
      readSetItems extended fuel (current.operate .without) outer rest
    | _, '~' :: '~' :: rest =>
      readSetItems extended fuel (current.operate .difference) outer rest
    | _, others =>
      match readItem extended others with
      | none => none
      | some (item, remainder) =>
        readSetItems extended fuel (current.add item) outer remainder

/-- Read a set after its opening bracket. -/
def readSet (extended : Bool) (chars : List Char) : Option (SetExpression × List Char) :=
  let start := openSet extended chars
  readSetItems extended (2 * chars.length + 2) start.1 [] start.2

end TokenRelay.Pattern
