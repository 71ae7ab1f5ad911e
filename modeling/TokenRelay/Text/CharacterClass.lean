import TokenRelay.Unicode.Property

/-!
# Classes of characters

Words, decimal digits and white space, in all scripts or among the ASCII characters.
-/

namespace TokenRelay.CharacterClass

/-- The characters of words: letters, marks, digits, connectors and joiners. -/
def word : CodePoints :=
  .unionAll
    [Unicode.alphabetic,
      Unicode.Category.membersOf
        [.nonspacingMark, .spacingMark, .enclosingMark, .decimalNumber,
          .connectorPunctuation],
      Unicode.Listed.joinControl.members]

/-- The decimal digits of all scripts. -/
def digit : CodePoints :=
  Unicode.Category.decimalNumber.members

/-- White space of all scripts. -/
def space : CodePoints :=
  Unicode.Listed.whiteSpace.members

/-- The characters of words within ASCII. -/
def asciiWord : CodePoints :=
  .ofText "30-39 41-5A 5F 61-7A"

/-- The decimal digits within ASCII. -/
def asciiDigit : CodePoints :=
  .between 48 57

/-- White space among the ASCII characters: blanks, tabs and ends of lines. -/
def asciiSpace : CodePoints :=
  .ofText "9-D 20"

/-- Whether a character is white space in some script. -/
def isSpace (char : Char) : Bool :=
  space.contains char.toNat

/-- Take white space off both ends of a text. -/
def trim (text : String) : String :=
  String.ofList ((text.toList.dropWhile isSpace).reverse.dropWhile isSpace).reverse

end TokenRelay.CharacterClass
