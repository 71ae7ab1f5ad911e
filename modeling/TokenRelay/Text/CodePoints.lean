import TokenRelay.Text.Digits

/-!
# Sets of code points

A set is a list of closed ranges in ascending order, no two of which touch; `union` and
`complement` keep that form.  `ofText` reads sets as tables are written: ascending ranges
in base sixteen between blanks or ends of lines, as in `30-39 5F`.
-/

namespace TokenRelay

/-- A set of code points as ascending closed ranges. -/
structure CodePoints where
  ranges : List (Nat × Nat)
  deriving DecidableEq, Repr

namespace CodePoints

/-- The last code point. -/
def last : Nat := 0x10FFFF

/-- The empty set. -/
def none : CodePoints :=
  ⟨[]⟩

/-- The set of all code points. -/
def all : CodePoints :=
  ⟨[(0, last)]⟩

/-- The code points from one to another, both of them included. -/
def between (first final : Nat) : CodePoints :=
  ⟨[(first, final)]⟩

/-- The set of one code. -/
def single (code : Nat) : CodePoints :=
  between code code

/-- Whether a code point belongs to some ranges in ascending order. -/
def within (code : Nat) : List (Nat × Nat) → Bool
  | [] => false
  | (first, final) :: rest =>
    if code < first then false else code ≤ final || within code rest

/-- Whether a code point is in a set. -/
def contains (set : CodePoints) (code : Nat) : Bool :=
  within code set.ranges

/-- Whether the set has no code. -/
def isEmpty (set : CodePoints) : Bool :=
  set.ranges.isEmpty

/-- Whether all code points of a set are less than a bound. -/
def isBelow (bound : Nat) (set : CodePoints) : Bool :=
  set.ranges.all fun range => range.2 < bound

/-- Whether a set has a member from one code point to another. -/
def meets (set : CodePoints) (first final : Nat) : Bool :=
  set.ranges.any fun range => range.1 ≤ final && first ≤ range.2

/-- The code point of a set that has just one. -/
def only? (set : CodePoints) : Option Nat :=
  match set.ranges with
  | [(first, final)] => if first = final then some first else Option.none
  | _ => Option.none

/-- Join ranges that touch; they come in the order of their first members. -/
def joinTouching (first final : Nat) : List (Nat × Nat) → List (Nat × Nat)
  | [] => [(first, final)]
  | (start, stop) :: rest =>
    if start ≤ final + 1 then
      joinTouching first (max final stop) rest
    else
      (first, final) :: joinTouching start stop rest

/-- The set of ranges in the order of their first members. -/
def ofAscending : List (Nat × Nat) → CodePoints
  | [] => none
  | (first, final) :: rest => ⟨joinTouching first final rest⟩

/-- Put a range before the first one that begins after it; `later` places what follows. -/
def placeAmong (range : Nat × Nat) (later : List (Nat × Nat) → List (Nat × Nat)) :
    List (Nat × Nat) → List (Nat × Nat)
  | [] => range :: later []
  | other :: rest =>
    if range.1 ≤ other.1 then
      range :: later (other :: rest)
    else
      other :: placeAmong range later rest

/-- The ranges of two ascending lists in the order of their first members. -/
def interleave : List (Nat × Nat) → List (Nat × Nat) → List (Nat × Nat)
  | [], others => others
  | range :: rest, others => placeAmong range (interleave rest) others

/-- What belongs to either set. -/
def union (left right : CodePoints) : CodePoints :=
  ofAscending (interleave left.ranges right.ranges)

/-- The set with one more code. -/
def insert (set : CodePoints) (code : Nat) : CodePoints :=
  set.union (single code)

/-- The code points that are in one of several sets. -/
def unionAll (sets : List CodePoints) : CodePoints :=
  sets.foldl union none

/-- The ranges from a code point on between those that are given. -/
def gaps (start : Nat) : List (Nat × Nat) → List (Nat × Nat)
  | [] => if start ≤ last then [(start, last)] else []
  | (first, final) :: rest =>
    if start < first then
      (start, first - 1) :: gaps (final + 1) rest
    else
      gaps (final + 1) rest

/-- The code points that are not in a set. -/
def complement (set : CodePoints) : CodePoints :=
  ⟨gaps 0 set.ranges⟩

/-- What belongs to both sets. -/
def inter (left right : CodePoints) : CodePoints :=
  (left.complement.union right.complement).complement

/-- What belongs to the first set only. -/
def without (left right : CodePoints) : CodePoints :=
  left.inter right.complement

/-- What belongs to just one of two sets. -/
def difference (left right : CodePoints) : CodePoints :=
  (left.without right).union (right.without left)

/-- The range that has been read, from a first member that may be missing. -/
def finished (first code : Option Nat) : List (Nat × Nat) :=
  match code with
  | some final => [(first.getD final, final)]
  | Option.none => []

/-- Read ranges; `first` is the first member of a range that has been begun. -/
def readRanges (first code : Option Nat) : List Char → List (Nat × Nat)
  | [] => finished first code
  | char :: rest =>
    match Hex.digit? char with
    | some digit => readRanges first (some (code.getD 0 * 16 + digit)) rest
    | Option.none =>
      if char = '-' then
        readRanges code Option.none rest
      else
        finished first code ++ readRanges Option.none Option.none rest

/-- The set that a table writes. -/
def ofText (text : String) : CodePoints :=
  ofAscending (readRanges Option.none Option.none text.toList)

end CodePoints

end TokenRelay
