/-!
# JSON values

Numbers are integers of at most 64 bits or double-precision reals; the two are told
apart by how they were written.  The fields of an object that is read or put together
stand in ascending order of their keys, and a key that is set again replaces its value.
-/

namespace TokenRelay

/-- A value as texts of JSON denote it; an object keeps the order of its fields. -/
inductive Json where
  | null
  | boolean (value : Bool)
  | integer (value : Int)
  | real (value : Float)
  | text (value : String)
  | array (items : List Json)
  | object (fields : List (String × Json))
  deriving Inhabited

namespace Json

/-- Set a key in fields that are in order. -/
def setField (key : String) (value : Json) :
    List (String × Json) → List (String × Json)
  | [] => [(key, value)]
  | (other, old) :: rest =>
    if key = other then
      (key, value) :: rest
    else if key < other then
      (key, value) :: (other, old) :: rest
    else
      (other, old) :: setField key value rest

/-- The object of some fields; of two with one key the later counts. -/
def ofFields (fields : List (String × Json)) : Json :=
  .object (fields.foldl (fun found field => setField field.1 field.2 found) [])

/-- The value of a key among fields. -/
def lookup (key : String) : List (String × Json) → Option Json
  | [] => none
  | (other, value) :: rest => if key = other then some value else lookup key rest

/-- The value of a key of an object. -/
def field? (key : String) : Json → Option Json
  | .object fields => lookup key fields
  | _ => none

/-- The content of a text value. -/
def text? : Json → Option String
  | .text value => some value
  | _ => none

/-- A natural number as a value. -/
def ofNat (value : Nat) : Json :=
  .integer value

/-- An optional text, null when absent. -/
def ofText? : Option String → Json
  | some value => .text value
  | none => .null

end Json

end TokenRelay
