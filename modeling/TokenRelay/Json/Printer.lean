import TokenRelay.Decimal.Real
import TokenRelay.Json.Basic
import TokenRelay.Text.Digits

/-!
# JSON text

The compact layout has no blanks; the pretty one puts each entry on a line of its own
under an indentation of two blanks.  Quotes, backslashes and control characters are
escaped and all else is written as it is.
-/

namespace TokenRelay.Json

/-- The written form of one character of a text. -/
def escape (char : Char) : List Char :=
  match char with
  | '"' => ['\\', '"']
  | '\\' => ['\\', '\\']
  | '\n' => ['\\', 'n']
  | '\r' => ['\\', 'r']
  | '\t' => ['\\', 't']
  | other =>
    if other.toNat = 8 then ['\\', 'b']
    else if other.toNat = 12 then ['\\', 'f']
    else if other.toNat < 32 then '\\' :: 'u' :: Hex.fixed 4 other.toNat
    else [other]

/-- A text between quotes. -/
def quoted (value : String) : String :=
  String.ofList ('"' :: (value.toList.flatMap escape ++ ['"']))

/-- A real number; null where JSON has no form for it. -/
def realText (value : Float) : String :=
  if Real.isFinite value then Real.pointed value else "null"

mutual

/-- The compact text of a value. -/
def compact : Json → String
  | .null => "null"
  | .boolean true => "true"
  | .boolean false => "false"
  | .integer value => Numeral.signedText value
  | .real value => realText value
  | .text value => quoted value
  | .array items => "[" ++ compactItems items ++ "]"
  | .object fields => "\x7b" ++ compactFields fields ++ "\x7d"

/-- Values with commas between them. -/
def compactItems : List Json → String
  | [] => ""
  | [item] => compact item
  | item :: rest => compact item ++ "," ++ compactItems rest

/-- Fields with commas between them. -/
def compactFields : List (String × Json) → String
  | [] => ""
  | [(key, value)] => quoted key ++ ":" ++ compact value
  | (key, value) :: rest =>
    quoted key ++ ":" ++ compact value ++ "," ++ compactFields rest

end

/-- A line break and the blanks of an indentation depth. -/
def newLine (depth : Nat) : String :=
  String.ofList ('\n' :: List.replicate (2 * depth) ' ')

mutual

/-- The pretty text of a value at an indentation depth. -/
def prettyAt (depth : Nat) : Json → String
  | .null => "null"
  | .boolean true => "true"
  | .boolean false => "false"
  | .integer value => Numeral.signedText value
  | .real value => realText value
  | .text value => quoted value
  | .array [] => "[]"
  | .array (first :: rest) =>
    "[" ++ prettyItems (depth + 1) (first :: rest) ++ newLine depth ++ "]"
  | .object [] => "\x7b\x7d"
  | .object (first :: rest) =>
    "\x7b" ++ prettyFields (depth + 1) (first :: rest) ++ newLine depth ++ "\x7d"

/-- Values on lines of their own. -/
def prettyItems (depth : Nat) : List Json → String
  | [] => ""
  | [item] => newLine depth ++ prettyAt depth item
  | item :: rest =>
    newLine depth ++ prettyAt depth item ++ "," ++ prettyItems depth rest

/-- Fields on lines of their own. -/
def prettyFields (depth : Nat) : List (String × Json) → String
  | [] => ""
  | [(key, value)] => newLine depth ++ quoted key ++ ": " ++ prettyAt depth value
  | (key, value) :: rest =>
    newLine depth ++ quoted key ++ ": " ++ prettyAt depth value ++ "," ++
      prettyFields depth rest

end

/-- The text of a value over several lines, two blanks for each level. -/
def pretty (value : Json) : String :=
  prettyAt 0 value

end TokenRelay.Json
