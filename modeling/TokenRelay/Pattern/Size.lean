import TokenRelay.Pattern.Meaning
import TokenRelay.Pattern.Reader
import TokenRelay.Text.OctetRange
import TokenRelay.Text.Utf8

/-!
# The sizes of patterns

A pattern is matched by a machine that reads octets, in either direction.  `Pattern.size`
counts the octets that the states of such a machine take: each state takes the same, and
more for each of several ways on.  Counted repetition copies its body, so short patterns
may ask for large machines; a pattern is refused if one of its machines is too large.

A text is a pattern if it can be read, if its parts mean something under their flags, and if
it is not refused so.
-/

namespace TokenRelay.Pattern

/-- The direction in which a machine reads. -/
inductive Direction where
  | forward
  | backward
  deriving DecidableEq

/-- What a state takes, in octets. -/
def stateSize : Nat := 32

/-- What a way on takes that has no test. -/
def wayCost : Nat := 4

/-- What a way on takes that tests an octet. -/
def testCost : Nat := 8

/-! ## Sets of characters -/

/-- The sequences at each state of a machine for some sequences; equal ones share a state. -/
def sharedStates : Nat → List OctetSequence → List (List OctetSequence)
  | 0, _ => []
  | fuel + 1, sequences =>
    if sequences.all List.isEmpty then []
    else
      sequences ::
        ((OctetSequence.byFirst sequences).flatMap fun group =>
          sharedStates fuel group.2).eraseDups

/-- The sum of sizes. -/
def total (sizes : List Nat) : Nat :=
  sizes.foldl (· + ·) 0

/-- How many different beginnings sequences of octets have. -/
def beginnings : Nat → List OctetSequence → Nat
  | 0, _ => 0
  | fuel + 1, sequences =>
    total ((OctetSequence.byFirst sequences).map fun group =>
      beginnings fuel group.2 + 1)

/-- The size of a machine for one character of a set. -/
def setSize (direction : Direction) (set : CodePoints) : Nat :=
  match set.only? with
  | some code => (Utf8.encodeCode code).length * stateSize
  | none =>
    if set.isBelow 128 then
      2 * stateSize + testCost * set.ranges.length
    else
      let sequences := set.encodings
      match direction with
      | .forward =>
        let states := (sharedStates 4 sequences).map fun state =>
          stateSize + testCost * (OctetSequence.byFirst state).length
        stateSize + total states
      | .backward =>
        2 * stateSize + wayCost * sequences.length + stateSize * beginnings 4 sequences

/-! ## Alternatives that are texts -/

/-- The octets of a pattern that matches just one text. -/
def octets? : Pattern → Option (List Nat)
  | .one set => set.only?.map Utf8.encodeCode
  | .sequence first second =>
    match first.octets?, second.octets? with
    | some before, some after => some (before ++ after)
    | _, _ => none
  | _ => none

/-- The texts of alternatives, if all of them are texts. -/
def texts? : Pattern → Option (List (List Nat))
  | .either left right =>
    match left.texts?, right.texts? with
    | some before, some after => some (before ++ after)
    | _, _ => none
  | .one set => set.only?.map fun code => [Utf8.encodeCode code]
  | .sequence first second => (sequence first second).octets?.map ([·])
  | _ => none

/-- Texts in runs, which end where a text has no octet left. -/
def runsOf : List (List Nat) → List (List (List Nat))
  | [] => [[]]
  | [] :: rest => [] :: runsOf rest
  | text :: rest =>
    match runsOf rest with
    | run :: others => (text :: run) :: others
    | [] => [[text]]

/-- Texts of which several that are at their end come first as one. -/
def withoutRepeatedEnd : List (List Nat) → List (List Nat)
  | [] :: rest => [] :: rest.dropWhile List.isEmpty
  | texts => texts

/-- The size of a state for some texts and of those after it; equal beginnings are shared. -/
def textsSize : Nat → List (List Nat) → Nat
  | 0, _ => 0
  | fuel + 1, texts =>
    if texts.all List.isEmpty then 0
    else
      let runs := runsOf (withoutRepeatedEnd texts)
      let inhabited := runs.filter fun run => !run.isEmpty
      stateSize + wayCost * (inhabited.length + (runs.length - 1)) +
        total (inhabited.map fun run =>
          let octets := (run.filterMap List.head?).eraseDups
          stateSize + (if octets.length = 1 then 0 else testCost * octets.length) +
            total (octets.map fun octet =>
              textsSize fuel ((run.filter fun text => text.head? = some octet).map
                List.tail)))

/-- The size of a machine for alternatives that are texts. -/
def sharedSize (direction : Direction) (texts : List (List Nat)) : Nat :=
  let ordered := if direction = .forward then texts else texts.map List.reverse
  stateSize + textsSize ((texts.map List.length).foldl max 0 + 1) ordered

/-! ## Patterns -/

/-- Whether a pattern matches only stretches with a character. -/
def alwaysAdvances : Pattern → Bool
  | .empty => false
  | .one set => !set.isEmpty
  | .place _ => false
  | .sequence first second => first.alwaysAdvances || second.alwaysAdvances
  | .either left right => left.alwaysAdvances && right.alwaysAdvances
  | .repeated body least _ => 0 < least && body.alwaysAdvances
  | .captured body => body.alwaysAdvances

/-- What a state with two ways on takes. -/
def forkSize : Nat := stateSize + 2 * wayCost

/-- What a repetition takes when its body takes a given size. -/
def repeatedSize (advances : Bool) (body least : Nat) : Option Nat → Nat
  | none =>
    if least = 0 then
      if advances then forkSize + body else 2 * forkSize + stateSize + body
    else
      least * body + forkSize
  | some most =>
    if least = 0 ∧ most = 1 then
      forkSize + stateSize + body
    else
      (if least = 0 then stateSize else least * body) +
        (if least < most then stateSize + (most - least) * (forkSize + body) else 0)

/-- The size of a machine for a part of a pattern, with the way on to it if the part is one of
some alternatives; alternatives of one of them count as its own. -/
def partSize (direction : Direction) : Pattern → (isBranch : Bool) → Nat
  | .empty, isBranch => withWay isBranch stateSize
  | .one set, isBranch => withWay isBranch (setSize direction set)
  | .place _, isBranch => withWay isBranch stateSize
  | .sequence first second, isBranch =>
    withWay isBranch (first.partSize direction false + second.partSize direction false)
  | .either left right, isBranch =>
    let branches := left.partSize direction true + right.partSize direction true
    if isBranch then branches
    else
      match (either left right).texts? with
      | some texts => sharedSize direction texts
      | none => 2 * stateSize + branches
  | .repeated body least most, isBranch =>
    withWay isBranch
      (repeatedSize body.alwaysAdvances (body.partSize direction false) least most)
  | .captured body, isBranch =>
    let size := body.partSize direction false
    withWay isBranch (if direction = .forward then size + 2 * stateSize else size)
where
  /-- A size with that of the way on to it, if there is one. -/
  withWay (isBranch : Bool) (size : Nat) : Nat :=
    if isBranch then size + wayCost else size

/-- Whether a pattern matches only at the start of a text. -/
def isAtStart : Pattern → Bool
  | .place .textStart => true
  | .sequence first second => first.isAtStart || (first.neverAdvances && second.isAtStart)
  | .either left right => left.isAtStart && right.isAtStart
  | .repeated body least _ => 0 < least && body.isAtStart
  | .captured body => body.isAtStart
  | _ => false

/-- Whether a pattern matches only at the end of a text. -/
def isAtEnd : Pattern → Bool
  | .place .textEnd => true
  | .sequence first second => second.isAtEnd || (second.neverAdvances && first.isAtEnd)
  | .either left right => left.isAtEnd && right.isAtEnd
  | .repeated body least _ => 0 < least && body.isAtEnd
  | .captured body => body.isAtEnd
  | _ => false

/-- The size of what skips the octets before a match. -/
def skipSize (anchored : Bool) : Nat :=
  if anchored then stateSize else forkSize + 2 * stateSize + testCost

/-- What the machine of a pattern takes in a direction. -/
def size (pattern : Pattern) : Direction → Nat
  | .forward =>
    skipSize pattern.isAtStart + 2 * stateSize + pattern.partSize .forward false +
      stateSize
  | .backward =>
    skipSize pattern.isAtEnd + pattern.partSize .backward false + stateSize

/-- The largest size of a machine. -/
def sizeBound : Nat := 10 * Nat.pow 2 20

/-- Whether the machines of a pattern are small enough. -/
def isSmall (pattern : Pattern) : Bool :=
  pattern.size .forward ≤ sizeBound && pattern.size .backward ≤ sizeBound

/-- The pattern of a text; none if the text is no pattern. -/
def ofText? (text : String) : Option Pattern :=
  match (Expression.ofText? text).bind (Expression.meaning? .initial) with
  | none => none
  | some (pattern, _) => if pattern.isSmall then some pattern else none

end TokenRelay.Pattern
