import TokenRelay.Text.CodePoints

/-!
# Code points by the octets that encode them

The encodings of a range of code points are told by sequences of ranges of octets: an
encoding is one octet of each range in turn.  `CodePoints.encodings` lists the sequences
of a set in ascending order, as few as there can be.
-/

namespace TokenRelay

/-- A range of octets for each octet of an encoding. -/
abbrev OctetSequence := List (Nat × Nat)

namespace OctetSequence

/-- The mark of an octet that goes on. -/
def continuation : Nat := 0x80

/-- Any octets that may follow a leading one, a number of them. -/
def anyOf (count : Nat) : OctetSequence :=
  List.replicate count (continuation, continuation + 63)

/-- Put one octet before sequences. -/
def startingWith (octet : Nat) (sequences : List OctetSequence) : List OctetSequence :=
  sequences.map fun rest => (octet, octet) :: rest

/-- The sequences of the numbers from one to another, after a mark on the first octet. -/
def between : Nat → Nat → Nat → Nat → List OctetSequence
  | 0, mark, low, high => [[(mark + low, mark + high)]]
  | count + 1, mark, low, high =>
    let block := Nat.pow 64 (count + 1)
    let first := low / block
    let last := high / block
    if first = last then
      startingWith (mark + first) (between count continuation (low % block) (high % block))
    else
      let cutsFirst := low % block ≠ 0
      let cutsLast := high % block ≠ block - 1
      let start := if cutsFirst then first + 1 else first
      let stop := if cutsLast then last else last + 1
      (if cutsFirst then
        startingWith (mark + first) (between count continuation (low % block) (block - 1))
      else
        []) ++
      (if start < stop then
        [(mark + start, mark + stop - 1) :: anyOf (count + 1)]
      else
        []) ++
      (if cutsLast then
        startingWith (mark + last) (between count continuation 0 (high % block))
      else
        [])

/-- The code points of each length of encoding: octets that go on, first mark, range. -/
def lengths : List (Nat × Nat × Nat × Nat) :=
  [(0, 0, 0, 0x7F), (1, 0xC0, 0x80, 0x7FF), (2, 0xE0, 0x800, 0xD7FF),
    (2, 0xE0, 0xE000, 0xFFFF), (3, 0xF0, 0x10000, 0x10FFFF)]

/-- Gather sequences by their first range, which they come in the order of. -/
def byFirst : List OctetSequence → List ((Nat × Nat) × List OctetSequence)
  | [] => []
  | [] :: rest => byFirst rest
  | (range :: tail) :: rest =>
    match byFirst rest with
    | (other, tails) :: groups =>
      if range = other then (range, tail :: tails) :: groups
      else (range, [tail]) :: (other, tails) :: groups
    | [] => [(range, [tail])]

end OctetSequence

/-- The sequences of octets that stand for the code points of a set. -/
def CodePoints.encodings (set : CodePoints) : List OctetSequence :=
  set.ranges.flatMap fun range =>
    OctetSequence.lengths.flatMap fun (count, mark, first, final) =>
      let low := max range.1 first
      let high := min range.2 final
      if low ≤ high then OctetSequence.between count mark low high else []

end TokenRelay
