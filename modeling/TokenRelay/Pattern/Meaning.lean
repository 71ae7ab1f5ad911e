import TokenRelay.Pattern.Expression
import TokenRelay.Unicode.CaseFold

/-!
# What patterns mean

Flags decide what an expression means: `Flags` are those in force at a place.  Without the
`unicode` flag classes hold ASCII characters only, letters fold within ASCII, and what
would match an octet beyond ASCII alone is refused.
-/

namespace TokenRelay.Pattern

/-- The flags in force at a place of a pattern. -/
structure Flags where
  ignoreCase : Bool
  multiLine : Bool
  dotAll : Bool
  returns : Bool
  unicode : Bool

namespace Flags

/-- The flags at the beginning of a pattern. -/
def initial : Flags :=
  ⟨false, false, false, false, true⟩

/-- The flags after a change. -/
def changed (flags : Flags) (change : FlagChange) : Flags where
  ignoreCase := change.apply .ignoreCase flags.ignoreCase
  multiLine := change.apply .multiLine flags.multiLine
  dotAll := change.apply .dotAll flags.dotAll
  returns := change.apply .returns flags.returns
  unicode := change.apply .unicode flags.unicode

/-- A set of ASCII characters with its letters in both cases. -/
def foldAscii (set : CodePoints) : CodePoints :=
  ((List.range 26).foldl (fun found letter =>
    if set.contains (65 + letter) ∨ set.contains (97 + letter) then
      (found.insert (65 + letter)).insert (97 + letter)
    else
      found) set)

/-- A set as the flags want it as to case. -/
def cased (flags : Flags) (set : CodePoints) : CodePoints :=
  if flags.ignoreCase then
    if flags.unicode then Unicode.foldCase set else foldAscii set
  else
    set

/-- A set if it may stand: without the `unicode` flag it holds ASCII characters only. -/
def permitted (flags : Flags) (set : CodePoints) : Option CodePoints :=
  if flags.unicode ∨ set.isBelow 128 then some set else none

/-- A set that is folded, then complemented if its complement is meant. -/
def foldedThen (flags : Flags) (negated : Bool) (set : CodePoints) : Option CodePoints :=
  let folded := flags.cased set
  flags.permitted (if negated then folded.complement else folded)

/-- The code point of a written character; an octet beyond ASCII is none by itself. -/
def code? (flags : Flags) (written : Written) : Option Nat :=
  if !flags.unicode ∧ written.isOctet ∧ 128 ≤ written.char.toNat then none
  else some written.char.toNat

/-- The code point of a member of a set. -/
def memberCode? (flags : Flags) (written : Written) : Option Nat :=
  if !flags.unicode ∧ 128 ≤ written.char.toNat then none
  else some written.char.toNat

/-- The characters of a class that is written as one letter. -/
def letterClass (flags : Flags) : LetterClass → CodePoints
  | .digit => if flags.unicode then CharacterClass.digit else CharacterClass.asciiDigit
  | .space => if flags.unicode then CharacterClass.space else CharacterClass.asciiSpace
  | .word => if flags.unicode then CharacterClass.word else CharacterClass.asciiWord

end Flags

/-- What an operator makes of two sets. -/
def SetOperator.apply : SetOperator → CodePoints → CodePoints → CodePoints
  | .inter, left, right => left.inter right
  | .without, left, right => left.without right
  | .difference, left, right => left.difference right

mutual

/-- The characters of a set, unless one that is written cannot be meant under the flags. -/
def SetExpression.members? (flags : Flags) : SetExpression → Option CodePoints
  | .empty => some .none
  | .char member => (flags.memberCode? member).map CodePoints.single
  | .range first last =>
    match flags.memberCode? first, flags.memberCode? last with
    | some low, some high => some (.between low high)
    | _, _ => none
  | .named members negated => flags.foldedThen negated members
  | .letter kind negated =>
    let members := flags.letterClass kind
    flags.permitted (if negated then members.complement else members)
  | .property query negated =>
    if flags.unicode then query.members?.bind (flags.foldedThen negated) else none
  | .bracket body negated => (body.members? flags).bind (flags.foldedThen negated)
  | .union items => SetExpression.unionOf? flags items
  | .operation operator left right =>
    match left.members? flags, right.members? flags with
    | some before, some after =>
      some (operator.apply (flags.cased before) (flags.cased after))
    | _, _ => none

/-- The members of some sets. -/
def SetExpression.unionOf? (flags : Flags) : List SetExpression → Option CodePoints
  | [] => some .none
  | item :: rest =>
    match item.members? flags, SetExpression.unionOf? flags rest with
    | some members, some others => some (members.union others)
    | _, _ => none

end

/-- What a point matches: all but the ends of lines, or everything. -/
def Flags.dot? (flags : Flags) : Option CodePoints :=
  if !flags.unicode then none
  else if flags.dotAll then some .all
  else if flags.returns then some (CodePoints.ofText "A D").complement
  else some (CodePoints.single 10).complement

/-- The place that a mark stands for under the flags. -/
def Flags.place (flags : Flags) : Mark → Place
  | .textStart => .textStart
  | .textEnd => .textEnd
  | .lineStart => if flags.multiLine then .lineStart flags.returns else .textStart
  | .lineEnd => if flags.multiLine then .lineEnd flags.returns else .textEnd
  | .word test => .word test (!flags.unicode)

/-- What a character matches; without the `unicode` flag only ASCII letters fold. -/
def Flags.charSet? (flags : Flags) (written : Written) : Option CodePoints :=
  (flags.code? written).map fun code => flags.cased (.single code)

mutual

/-- The pattern of an expression, and the flags that are in force after it. -/
def Expression.meaning? (flags : Flags) : Expression → Option (Pattern × Flags)
  | .empty => some (.empty, flags)
  | .flags change => some (.empty, flags.changed change)
  | .char member => (flags.charSet? member).map fun set => (.one set, flags)
  | .dot => flags.dot?.map fun set => (.one set, flags)
  | .mark test => some (.place (flags.place test), flags)
  | .set members => (members.members? flags).map fun set => (.one set, flags)
  | .repeated body least most =>
    (body.meaning? flags).map fun found => (found.1.repeating least most, found.2)
  | .captured body => (body.meaning? flags).map fun found => (.captured found.1, flags)
  | .grouped change body =>
    (body.meaning? (flags.changed change)).map fun found => (found.1, flags)
  | .sequence parts =>
    (Expression.meanings? flags parts).map fun found => (Pattern.joined found.1, found.2)
  | .alternatives branches =>
    match Expression.meanings? flags branches with
    | some (first :: others, after) => some (Pattern.alternatives first others, after)
    | _ => none

/-- The patterns of some expressions, each under the flags that the ones before it leave. -/
def Expression.meanings? (flags : Flags) :
    List Expression → Option (List Pattern × Flags)
  | [] => some ([], flags)
  | part :: rest =>
    match part.meaning? flags with
    | none => none
    | some (pattern, next) =>
      (Expression.meanings? next rest).map fun found => (pattern :: found.1, found.2)

end

end TokenRelay.Pattern
