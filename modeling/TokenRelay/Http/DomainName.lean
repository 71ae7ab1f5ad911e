import TokenRelay.Http.NameChar
import TokenRelay.Http.Punycode
import TokenRelay.Text.Utf8
import TokenRelay.Unicode.Direction
import TokenRelay.Unicode.Joining

/-!
# Names of hosts

A name is made of labels between dots.  Labels may hold letters of all scripts, written
as they are or in ASCII after `xn--`.  A label does not begin with a mark, joiners stand
only where they have an effect, and where a letter is written from right to left every
label has an order that can be shown without doubt.
-/

namespace TokenRelay.Separated

/-- The parts of a text between separators: one more than there are separators, and some may be
empty. -/
def parts (separator : Char) : List Char → List (List Char)
  | [] => [[]]
  | char :: rest =>
    match parts separator rest with
    | [] => [[char]]
    | part :: others =>
      if char = separator then [] :: part :: others else (char :: part) :: others

end TokenRelay.Separated

namespace TokenRelay.DomainName

/-- Whether a character stands in no name. -/
def isForbidden (char : Char) : Bool :=
  char.toNat ≤ 0x20 || char.toNat = 0x7F || char = Utf8.replacement ||
    ['#', '%', '/', ':', '<', '>', '?', '@', '[', '\\', ']', '^', '|'].contains char

/-- The start of a label that is written in ASCII. -/
def encodedStart : List Char := ['x', 'n', '-', '-']

/-- Whether a label with this character has to be encoded. -/
def isBeyondAscii (char : Char) : Bool :=
  128 ≤ char.toNat

/--
The characters of a label.  One that is written in ASCII has to tell a character beyond
ASCII, and all of its characters stand for themselves.
-/
def readLabel? (label : List Char) : Option (List Char) :=
  if encodedStart.isPrefixOf label then
    match Punycode.decode? (label.drop 4) with
    | none => none
    | some found =>
      if found.any isBeyondAscii ∧ found.all NameChar.isSettled ∧
          !encodedStart.isPrefixOf found then
        some found
      else
        none
  else
    some label

/-! ## Labels by themselves -/

/-- Whether a character counts as a mark at the start of a label. -/
def isMark (char : Char) : Bool :=
  let code := char.toNat
  (code ≠ 0x345 && (Unicode.Category.membersOf Unicode.Category.marks).contains code) ||
    (CodePoints.ofText "E33 EB3 FF9E-FF9F").contains code

/-- Whether letters join across a place; `before` comes with the last first. -/
def joinsAcross (before after : List Char) : Bool :=
  let nearest (chars : List Char) : Option Char :=
    chars.find? fun char => !Unicode.Joining.transparent.contains char.toNat
  match nearest before, nearest after with
  | some left, some right =>
    Unicode.Joining.withNext.contains left.toNat &&
      Unicode.Joining.withPrevious.contains right.toNat
  | _, _ => false

/-- Whether the joiners of a label have an effect; `before` comes with the last first. -/
def joinersFit (before : List Char) : List Char → Bool
  | [] => true
  | char :: rest =>
    let afterLink := before.head?.any fun previous =>
      Unicode.Listed.graphemeLink.members.contains previous.toNat
    let fits :=
      if char.toNat = 0x200C then afterLink || joinsAcross before rest
      else if char.toNat = 0x200D then afterLink
      else true
    fits && joinersFit (char :: before) rest

/-- Whether a label begins and joins its characters as it may. -/
def isWellFormed (label : List Char) : Bool :=
  !label.head?.any isMark && joinersFit [] label

/-! ## Directions -/

/-- Whether a direction makes a name one that is written in both directions. -/
def goesLeft (direction : Unicode.Direction) : Bool :=
  direction = .rightToLeft || direction = .arabicNumber

/-- Whether the directions within a label leave no doubt about its order. -/
def isOrdered (label : List Unicode.Direction) : Bool :=
  let last := (label.reverse.find? (· ≠ .nonspacing)).getD .nonspacing
  match label.head? with
  | none => true
  | some .rightToLeft =>
    !label.contains .leftToRight &&
      (last = .rightToLeft || last = .europeanNumber || last = .arabicNumber) &&
      !(label.contains .europeanNumber && label.contains .arabicNumber)
  | some .leftToRight =>
    !label.any goesLeft && (last = .leftToRight || last = .europeanNumber)
  | some _ => false

/-- Whether labels leave no doubt about their order, which only some writings raise. -/
def areOrdered (labels : List (List Char)) : Bool :=
  let directions := labels.map fun label => label.map Unicode.Direction.ofChar
  !directions.any (fun label => label.any goesLeft) || directions.all isOrdered

/-! ## Names -/

/-- The characters that a text stands for as a name; none if it is no name. -/
def read? (text : List Char) : Option (List Char) :=
  match text.mapM NameChar.meaning? with
  | none => none
  | some meanings =>
    let name := meanings.flatten
    if name.isEmpty || name.any isForbidden then none
    else
      match (Separated.parts '.' name).mapM readLabel? with
      | none => none
      | some labels =>
        if labels.all isWellFormed && areOrdered labels then some name else none

end TokenRelay.DomainName
