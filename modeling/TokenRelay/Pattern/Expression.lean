import TokenRelay.Pattern.Basic
import TokenRelay.Unicode.Query

/-!
# Patterns as they are written

An expression holds what the text of a pattern says, before flags give it a meaning.
`Expression.depth` is how deeply its parts are nested.
-/

namespace TokenRelay.Pattern

/-- A character of a pattern, with how it is written. -/
structure Written where
  char : Char
  /-- Whether it is written as an octet of two digits. -/
  isOctet : Bool
  deriving DecidableEq, Repr

/-- The classes of characters that a letter stands for. -/
inductive LetterClass where
  | digit
  | space
  | word
  deriving DecidableEq, Repr

/-- The operators between sets. -/
inductive SetOperator where
  | inter
  | without
  | difference
  deriving DecidableEq, Repr

/-- A set of characters as it is written. -/
inductive SetExpression where
  | empty
  | char (member : Written)
  | range (first last : Written)
  /-- A class of ASCII characters by its name. -/
  | named (members : CodePoints) (negated : Bool)
  | letter (kind : LetterClass) (negated : Bool)
  | property (query : Unicode.Query) (negated : Bool)
  | bracket (body : SetExpression) (negated : Bool)
  | union (items : List SetExpression)
  | operation (operator : SetOperator) (left right : SetExpression)
  deriving Repr

/-- A flag that changes how what follows it is understood. -/
inductive Flag where
  | ignoreCase
  | multiLine
  | dotAll
  | swapGreed
  | unicode
  | returns
  | extended
  deriving DecidableEq, Repr

/-- Flags that are switched on or off. -/
abbrev FlagChange := List (Flag × Bool)

/-- The value of a flag after a change, which may leave it as it was. -/
def FlagChange.apply (change : FlagChange) (flag : Flag) (value : Bool) : Bool :=
  (change.lookup flag).getD value

/-- A test on a position as it is written. -/
inductive Mark where
  | textStart
  | textEnd
  | lineStart
  | lineEnd
  | word (test : WordTest)
  deriving DecidableEq, Repr

/-- A pattern as it is written, before its flags are worked in. -/
inductive Expression where
  | empty
  | flags (change : FlagChange)
  | char (member : Written)
  | dot
  | mark (test : Mark)
  | set (members : SetExpression)
  | repeated (body : Expression) (least : Nat) (most : Option Nat)
  | captured (body : Expression)
  /-- A group within which flags differ. -/
  | grouped (change : FlagChange) (body : Expression)
  | sequence (parts : List Expression)
  | alternatives (branches : List Expression)
  deriving Repr

/-- The items of a set as one expression. -/
def SetExpression.ofItems : List SetExpression → SetExpression
  | [] => .empty
  | [item] => item
  | items => .union items

/-- The parts of an alternative as one expression. -/
def Expression.ofParts : List Expression → Expression
  | [] => .empty
  | [part] => part
  | parts => .sequence parts

/-- Whether a count may stand behind an expression. -/
def Expression.isRepeatable : Expression → Bool
  | .empty => false
  | .flags _ => false
  | _ => true

mutual

/-- How deeply a set is nested. -/
def SetExpression.depth : SetExpression → Nat
  | .bracket body _ => body.depth + 1
  | .union items => SetExpression.greatestDepth items + 1
  | .operation _ left right => max left.depth right.depth + 1
  | _ => 0

/-- How deep the deepest of several sets is. -/
def SetExpression.greatestDepth : List SetExpression → Nat
  | [] => 0
  | item :: rest => max item.depth (SetExpression.greatestDepth rest)

end

mutual

/-- How deeply an expression is nested. -/
def Expression.depth : Expression → Nat
  | .set members => members.depth
  | .repeated body _ _ => body.depth + 1
  | .captured body => body.depth + 1
  | .grouped _ body => body.depth + 1
  | .sequence parts => Expression.greatestDepth parts + 1
  | .alternatives branches => Expression.greatestDepth branches + 1
  | _ => 0

/-- How deep the deepest of several expressions is. -/
def Expression.greatestDepth : List Expression → Nat
  | [] => 0
  | part :: rest => max part.depth (Expression.greatestDepth rest)

end

end TokenRelay.Pattern
