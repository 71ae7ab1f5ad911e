import TokenRelay.Text.CharacterClass

/-!
# Text patterns

A pattern is a regular expression over characters with tests on positions.  Its meaning
is given by `advance`: from which positions of a text it leads to which others.  The
question asked of a pattern is only whether some stretch of a text matches, so greed and
captures play no part.

Sets of positions are ascending lists.  Repetition is computed by adding positions until
none is new; a text has one position more than it has characters, and more rounds than
positions lead nowhere else.
-/

namespace TokenRelay

/-- A test on what stands around a position, by words. -/
inductive WordTest where
  | boundary
  | inside
  | start
  | finish
  | noneBefore
  | noneAfter
  deriving DecidableEq, Repr

/-- A test on a position. -/
inductive Place where
  | textStart
  | textEnd
  /-- The start of a line; where returns count they end lines too. -/
  | lineStart (returns : Bool)
  | lineEnd (returns : Bool)
  /-- A test by words, which may be those of ASCII only. -/
  | word (test : WordTest) (ascii : Bool)
  deriving DecidableEq, Repr

/-- A pattern over characters, with what its flags meant already worked in. -/
inductive Pattern where
  | empty
  | one (set : CodePoints)
  | place (test : Place)
  | sequence (first second : Pattern)
  | either (left right : Pattern)
  | repeated (body : Pattern) (least : Nat) (most : Option Nat)
  | captured (body : Pattern)
  deriving Repr

namespace Pattern

/-! ## Building patterns -/

/-- Whether a pattern matches only the empty stretch. -/
def neverAdvances : Pattern → Bool
  | .empty => true
  | .one _ => false
  | .place _ => true
  | .sequence first second => first.neverAdvances && second.neverAdvances
  | .either left right => left.neverAdvances && right.neverAdvances
  | .repeated body _ _ => body.neverAdvances
  | .captured body => body.neverAdvances

/-- Repeat a pattern; more than one round of one that never advances is not needed. -/
def repeating (body : Pattern) (least : Nat) (most : Option Nat) : Pattern :=
  let least := if body.neverAdvances then min least 1 else least
  let most := if body.neverAdvances then some (min (most.getD 1) 1) else most
  if most = some 0 then
    .empty
  else if least = 1 ∧ most = some 1 then
    body
  else
    .repeated body least most

/-- Whether the pattern is the empty one as it stands. -/
def isEmpty : Pattern → Bool
  | .empty => true
  | _ => false

/-- One part after the other. -/
def joined : List Pattern → Pattern
  | [] => .empty
  | part :: rest =>
    let others := joined rest
    if part.isEmpty then others
    else if others.isEmpty then part
    else .sequence part others

/-- The set of a pattern for a single character. -/
def set? : Pattern → Option CodePoints
  | .one set => some set
  | _ => none

/-- One part or another; parts that are single characters, or all sets, make one set. -/
def alternatives (first : Pattern) (others : List Pattern) : Pattern :=
  let sets := (first :: others).filterMap set?
  let singles := sets.filter fun set => set.only?.isSome
  if sets.length = others.length + 1 ∧ (singles.isEmpty ∨ singles.length = sets.length) then
    .one (.unionAll sets)
  else
    choose first others
where
  /-- One part or another, as they are. -/
  choose (first : Pattern) : List Pattern → Pattern
    | [] => first
    | next :: rest => .either first (choose next rest)

/-! ## Positions -/

/-- Whether the character at a position belongs to words. -/
def isWordAt (ascii : Bool) (text : Array Char) (position : Nat) : Bool :=
  match text[position]? with
  | some char =>
    (if ascii then CharacterClass.asciiWord else CharacterClass.word).contains char.toNat
  | none => false

/-- Whether the character before a position belongs to words. -/
def isWordBefore (ascii : Bool) (text : Array Char) (position : Nat) : Bool :=
  0 < position && isWordAt ascii text (position - 1)

/-- Whether what stands around a position passes a test. -/
def passes (before after : Bool) : WordTest → Bool
  | .boundary => before != after
  | .inside => before == after
  | .start => !before && after
  | .finish => before && !after
  | .noneBefore => !before
  | .noneAfter => !after

/-- Whether a character stands right before a position. -/
def follows (text : Array Char) (position : Nat) (char : Char) : Bool :=
  0 < position && text[position - 1]? = some char

/-- Whether a position passes a test; a return and the line feed after it end one line. -/
def holdsAt (text : Array Char) (position : Nat) : Place → Bool
  | .textStart => position = 0
  | .textEnd => position = text.size
  | .lineStart returns =>
    position = 0 || follows text position '\n' ||
      (returns && follows text position '\r' && text[position]? ≠ some '\n')
  | .lineEnd returns =>
    position = text.size ||
      (text[position]? = some '\n' && !(returns && follows text position '\r')) ||
      (returns && text[position]? = some '\r')
  | .word test ascii =>
    passes (isWordBefore ascii text position) (isWordAt ascii text position) test

/-- Put a position among ascending ones; `later` places what follows. -/
def placeAmong (position : Nat) (later : List Nat → List Nat) : List Nat → List Nat
  | [] => position :: later []
  | other :: rest =>
    if position < other then position :: later (other :: rest)
    else if position = other then position :: later rest
    else other :: placeAmong position later rest

/-- The positions of either of two ascending lists. -/
def merge : List Nat → List Nat → List Nat
  | [], others => others
  | position :: rest, others => placeAmong position (merge rest) others

/-- Apply a step a number of times. -/
def iterate (step : List Nat → List Nat) : Nat → List Nat → List Nat
  | 0, positions => positions
  | count + 1, positions =>
    if positions.isEmpty then [] else iterate step count (step positions)

/-- Gather all positions that at most `rounds` steps reach. -/
def gather (step : List Nat → List Nat) : Nat → List Nat → List Nat → List Nat
  | 0, known, _ => known
  | rounds + 1, known, fresh =>
    let next := (step fresh).filter fun position => !known.contains position
    if next.isEmpty then known else gather step rounds (merge known next) next

/-- Whether two rounds of a pattern lead nowhere that one round does not lead. -/
def absorbsItself : Pattern → Bool
  | .repeated _ 0 none => true
  | .repeated _ 1 none => true
  | .repeated body 0 (some 1) => body.absorbsItself
  | .captured body => body.absorbsItself
  | _ => false

/-- How many rounds after the least number can lead to new positions. -/
def roundsLeft (body : Pattern) (least : Nat) (most : Option Nat) (size : Nat) : Nat :=
  let bound := if body.absorbsItself then (if least = 0 then 1 else 0) else size + 1
  match most with
  | some count => min (count - least) bound
  | none => bound

/-- The positions that a pattern leads to from some positions. -/
def advance (text : Array Char) : Pattern → List Nat → List Nat
  | .empty, positions => positions
  | .one set, positions =>
    positions.filterMap fun position =>
      match text[position]? with
      | some char => if set.contains char.toNat then some (position + 1) else none
      | none => none
  | .place test, positions => positions.filter fun position => holdsAt text position test
  | .sequence first second, positions => second.advance text (first.advance text positions)
  | .either left right, positions =>
    merge (left.advance text positions) (right.advance text positions)
  | .repeated body least most, positions =>
    let start := iterate (body.advance text) (min least (text.size + 1)) positions
    gather (body.advance text) (roundsLeft body least most text.size) start start
  | .captured body, positions => body.advance text positions

/-- Whether the pattern matches some part of a text. -/
def matchesIn (pattern : Pattern) (text : String) : Bool :=
  let chars := text.toList.toArray
  !(pattern.advance chars (List.range (chars.size + 1))).isEmpty

end Pattern

end TokenRelay
