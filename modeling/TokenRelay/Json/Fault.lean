import TokenRelay.Decimal.Real
import TokenRelay.Json.Basic
import TokenRelay.Text.Printable

/-!
# Values of the wrong shape

A JSON value that is no value of the wanted type is reported by what was found and
what was wanted.
-/

namespace TokenRelay

/-- What was found where something else was wanted. -/
inductive Found where
  | null
  | boolean (value : Bool)
  | integer (value : Int)
  | real (value : Float)
  | text (value : String)
  | sequence
  | map

/-- What a value shows of itself in a report. -/
def Json.found : Json → Found
  | .null => .null
  | .boolean value => .boolean value
  | .integer value => .integer value
  | .real value => .real value
  | .text value => .text value
  | .array _ => .sequence
  | .object _ => .map

/-- How a report shows what was found. -/
def Found.message : Found → String
  | .null => "null"
  | .boolean true => "boolean \x60true\x60"
  | .boolean false => "boolean \x60false\x60"
  | .integer value => "integer \x60" ++ Numeral.signedText value ++ "\x60"
  | .real value => "floating point \x60" ++ Real.pointed value ++ "\x60"
  | .text value => "string " ++ Printable.quoted value
  | .sequence => "sequence"
  | .map => "map"

/-- What was wanted where something else was found. -/
inductive Wanted where
  | text
  | boolean
  | word32
  | word64
  | real
  | sequence
  | unit
  | record (name : String)
  | textOrMap
  | variantName
  | singleKey
  | tagged (name : String)
  deriving DecidableEq

/-- How a report names what was wanted. -/
def Wanted.message : Wanted → String
  | .text => "a string"
  | .boolean => "a boolean"
  | .word32 => "u32"
  | .word64 => "u64"
  | .real => "f64"
  | .sequence => "a sequence"
  | .unit => "unit"
  | .record name => "struct " ++ name
  | .textOrMap => "string or map"
  | .variantName => "variant identifier"
  | .singleKey => "map with a single key"
  | .tagged name => "adjacently tagged enum " ++ name

/-- Why a JSON value is no value of the wanted type. -/
inductive DataFault where
  | missingField (key : String)
  /-- An array that ends before a column of a record that has to be there. -/
  | shortRecord (position : Nat) (name : String) (columns : Nat)
  /-- An array with more items than its record has columns. -/
  | longArray (length : Nat)
  /-- The same in a value that was held back until its tag was known. -/
  | longSequence (length columns : Nat)
  | shortTagged (length : Nat) (name : String)
  | invalidType (found : Found) (wanted : Wanted)
  | invalidValue (found : Found) (wanted : Wanted)
  | unknownVariant (tag : String) (known : List String)
  | stated (words : String)

/-- A count of elements, in words. -/
def elementCount (count : Nat) : String :=
  Numeral.text count ++ (if count = 1 then " element" else " elements")

/-- A name between backquotes. -/
def backquoted (name : String) : String :=
  "\x60" ++ name ++ "\x60"

/-- The words for the variants that would have been known. -/
def knownVariants : List String → String
  | [] => "there are no variants"
  | [only] => "expected " ++ backquoted only
  | [first, second] => "expected " ++ backquoted first ++ " or " ++ backquoted second
  | many => "expected one of " ++ ", ".intercalate (many.map backquoted)

/-- The words in which a fault is reported. -/
def DataFault.message : DataFault → String
  | .missingField key => "missing field " ++ backquoted key
  | .shortRecord position name columns =>
    "invalid length " ++ Numeral.text position ++ ", expected struct " ++ name ++
      " with " ++ elementCount columns
  | .longArray length =>
    "invalid length " ++ Numeral.text length ++ ", expected fewer elements in array"
  | .longSequence length columns =>
    "invalid length " ++ Numeral.text length ++ ", expected " ++ elementCount columns ++
      " in sequence"
  | .shortTagged length name =>
    "invalid length " ++ Numeral.text length ++ ", expected " ++
      (Wanted.tagged name).message
  | .invalidType found wanted =>
    "invalid type: " ++ found.message ++ ", expected " ++ wanted.message
  | .invalidValue found wanted =>
    "invalid value: " ++ found.message ++ ", expected " ++ wanted.message
  | .unknownVariant tag known =>
    "unknown variant " ++ backquoted tag ++ ", " ++ knownVariants known
  | .stated words => words

end TokenRelay
