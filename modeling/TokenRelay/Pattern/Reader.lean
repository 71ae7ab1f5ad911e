import TokenRelay.Pattern.SetReader

/-!
# Reading patterns

The written form is that of regular expressions: alternatives, repetition with `*`, `+`,
`?` and counts in braces, groups that may be named or carry flags, sets in brackets and
by name, and tests on positions.  There are no references to groups and no tests on what
surrounds a match, and a text that uses them is refused, as is one that nests too deeply.
The open groups are kept in a list, the innermost first.
-/

namespace TokenRelay.Pattern

/-! ## Counts -/

/-- Read a count, with blanks around it. -/
def readCount (extended : Bool) (chars : List Char) : Option (Nat × List Char) :=
  let found := readDigits extended false (chars.dropWhile CharacterClass.isSpace)
  if found.1.isEmpty then none
  else
    match Numeral.readDigits (Nat.pow 2 32) 0 found.1 with
    | .error _ => none
    | .ok value => some (value, found.2.dropWhile CharacterClass.isSpace)

/-- Read the counts of a repetition after its opening brace. -/
def readCounts (extended : Bool) (chars : List Char) :
    Option (Nat × Option Nat × List Char) :=
  match readCount extended (skip extended chars) with
  | none => none
  | some (least, '\x7d' :: rest) => some (least, some least, rest)
  | some (least, ',' :: rest) =>
    match skip extended rest with
    | '\x7d' :: remainder => some (least, none, remainder)
    | others =>
      match readCount extended others with
      | some (most, '\x7d' :: remainder) =>
        if most < least then none else some (least, some most, remainder)
      | _ => none
  | _ => none

/-- The rest after a mark that makes a repetition reluctant. -/
def skipReluctance (chars : List Char) : List Char :=
  if chars.head? = some '?' then chars.drop 1 else chars

/-! ## Heads of groups -/

/-- The flag of a letter. -/
def flag? (letter : Char) : Option Flag :=
  match letter with
  | 'i' => some .ignoreCase
  | 'm' => some .multiLine
  | 's' => some .dotAll
  | 'U' => some .swapGreed
  | 'u' => some .unicode
  | 'R' => some .returns
  | 'x' => some .extended
  | _ => none

/-- What stands between an opening parenthesis and what a group holds. -/
inductive GroupHead where
  | captured
  | named (name : String)
  | grouped (change : FlagChange)
  /-- Flags for what follows, with a parenthesis that is closed at once. -/
  | flags (change : FlagChange)

/--
Read flags up to the end of a group's head.  Those after a hyphen are switched off; there
is one hyphen at most, a flag follows it, and no flag stands twice.
-/
def readFlags (change : FlagChange) (value afterHyphen : Bool) :
    List Char → Option (GroupHead × List Char)
  | [] => none
  | ')' :: rest =>
    if afterHyphen ∨ change.isEmpty then none else some (.flags change, rest)
  | ':' :: rest => if afterHyphen then none else some (.grouped change, rest)
  | '-' :: rest => if value then readFlags change false true rest else none
  | char :: rest =>
    match flag? char with
    | none => none
    | some flag =>
      if (change.lookup flag).isSome then none
      else readFlags (change ++ [(flag, value)]) value false rest

/-- Whether a character may begin a group's name. -/
def isNameStart (char : Char) : Bool :=
  char = '_' || Unicode.alphabetic.contains char.toNat

/-- Whether a character may go on in a group's name. -/
def isNamePart (char : Char) : Bool :=
  isNameStart char || char = '.' || char = '[' || char = ']' ||
    (Unicode.Category.membersOf Unicode.Category.numbers).contains char.toNat

/-- Read a group's name up to its closing bracket. -/
def readName (chars : List Char) : Option (GroupHead × List Char) :=
  let name := chars.takeWhile (· ≠ '>')
  match chars.drop name.length, name with
  | _ :: rest, first :: others =>
    if isNameStart first ∧ others.all isNamePart then
      some (.named (.ofList name), rest)
    else
      none
  | _, _ => none

/-- Read the head of a group after its opening parenthesis. -/
def readHead : List Char → Option (GroupHead × List Char)
  | '?' :: 'P' :: '<' :: rest => readName rest
  | '?' :: '<' :: rest => readName rest
  | '?' :: rest => readFlags [] true false rest
  | rest => some (.captured, rest)

/-! ## Groups -/

/-- A group that is being read. -/
structure OpenGroup where
  /-- The flags of the group; none if it captures what it matches. -/
  change : Option FlagChange
  /-- Whether blanks carry no meaning. -/
  extended : Bool
  /-- The complete alternatives, the last first. -/
  branches : List Expression
  /-- The parts of the open alternative, the last first. -/
  parts : List Expression

namespace OpenGroup

/-- A group of which nothing has been read. -/
def start (change : Option FlagChange) (extended : Bool) : OpenGroup :=
  ⟨change, extended, [], []⟩

/-- One more part of the open alternative. -/
def add (group : OpenGroup) (part : Expression) : OpenGroup :=
  { group with parts := part :: group.parts }

/-- Begin another alternative. -/
def branch (group : OpenGroup) : OpenGroup :=
  { group with
    branches := Expression.ofParts group.parts.reverse :: group.branches, parts := [] }

/-- Repeat the part read last, unless there is none or it takes no count. -/
def repeatLast? (group : OpenGroup) (least : Nat) (most : Option Nat) : Option OpenGroup :=
  match group.parts with
  | [] => none
  | body :: others =>
    if body.isRepeatable then
      some { group with parts := .repeated body least most :: others }
    else
      none

/-- What the group holds: its alternatives, or the only one. -/
def body (group : OpenGroup) : Expression :=
  let last := Expression.ofParts group.parts.reverse
  if group.branches.isEmpty then last
  else .alternatives (group.branches.reverse ++ [last])

/-- The group as a part of the one around it. -/
def close (group : OpenGroup) : Expression :=
  match group.change with
  | none => .captured group.body
  | some change => .grouped change group.body

end OpenGroup

/-- What an escape stands for outside of a set. -/
def Escape.expression : Escape → Expression
  | .char member => .char member
  | .mark test => .mark test
  | .set members => .set members

/-- Read a part that is no group and no repetition. -/
def readPart (extended : Bool) : List Char → Option (Expression × List Char)
  | [] => none
  | '[' :: rest =>
    (readSet extended rest).map fun found => (.set found.1, found.2)
  | '\\' :: rest =>
    (readEscape extended rest).map fun found => (found.1.expression, found.2)
  | '.' :: rest => some (.dot, rest)
  | '^' :: rest => some (.mark .lineStart, rest)
  | '$' :: rest => some (.mark .lineEnd, rest)
  | char :: rest => some (.char ⟨char, false⟩, rest)

/-- Read how often the last part is repeated, at the sign of a repetition. -/
def readRepetition? (extended : Bool) :
    List Char → Option (Option (Nat × Option Nat × List Char))
  | '*' :: rest => some (some (0, none, skipReluctance rest))
  | '+' :: rest => some (some (1, none, skipReluctance rest))
  | '?' :: rest => some (some (0, some 1, skipReluctance rest))
  | '\x7b' :: rest =>
    some
      ((readCounts extended rest).map fun found =>
        (found.1, found.2.1, skipReluctance (skip extended found.2.2)))
  | _ => none

/-- Read on within groups; each step takes a character. -/
def readGroups : Nat → List String → OpenGroup → List OpenGroup → List Char →
    Option Expression
  | 0, _, _, _, _ => none
  | fuel + 1, names, group, outer, chars =>
    match skip group.extended chars with
    | [] => if outer.isEmpty then some group.body else none
    | '(' :: rest =>
      match readHead (skip group.extended rest) with
      | none => none
      | some (.captured, remainder) =>
        readGroups fuel names (.start none group.extended) (group :: outer) remainder
      | some (.named name, remainder) =>
        if names.contains name then none
        else
          readGroups fuel (name :: names) (.start none group.extended) (group :: outer)
            remainder
      | some (.grouped change, remainder) =>
        readGroups fuel names
          (.start (some change) (change.apply .extended group.extended))
          (group :: outer) remainder
      | some (.flags change, remainder) =>
        readGroups fuel names
          { group.add (.flags change) with
            extended := change.apply .extended group.extended } outer remainder
    | ')' :: rest =>
      match outer with
      | [] => none
      | parent :: others => readGroups fuel names (parent.add group.close) others rest
    | '|' :: rest => readGroups fuel names group.branch outer rest
    | others =>
      match readRepetition? group.extended others with
      | some none => none
      | some (some (least, most, remainder)) =>
        match group.repeatLast? least most with
        | none => none
        | some repeating => readGroups fuel names repeating outer remainder
      | none =>
        match readPart group.extended others with
        | none => none
        | some (part, remainder) => readGroups fuel names (group.add part) outer remainder

/-- How deeply a pattern may be nested. -/
def depthBound : Nat := 250

/-- The expression of a text, unless the text is malformed or nested too deep. -/
def Expression.ofText? (text : String) : Option Expression :=
  let chars := text.toList
  match readGroups (chars.length + 1) [] (.start none false) [] chars with
  | none => none
  | some expression => if expression.depth ≤ depthBound then some expression else none

end TokenRelay.Pattern
