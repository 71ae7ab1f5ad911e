import TokenRelay.Json.Fault

/-!
# Typed values as JSON

A `Codec` reads and writes one type.  A record is described column by column: each
`Column` says under which key it stands, how its value is read and written, and what
stands for it when it is missing.  A record is read from an object or from an array of
its columns in order, and always written as an object whose fields are in the order of the
columns.

From an object the present columns are checked in the order of their keys, and only
then is a missing column reported; from an array the columns are read in their own
order.  A value that was held back until its tag was known differs only in how an
overlong array is reported and in that an empty object stands for null.
-/

namespace TokenRelay

/-- Whether a value is read at once or was held back until its tag was known. -/
inductive Hold where
  | direct
  | held
  deriving DecidableEq

/-- A reader of typed values. -/
abbrev Decoder (α : Type) :=
  Hold → Json → Except DataFault α

/-- A reader and a writer of one type. -/
structure Codec (α : Type) where
  decode : Decoder α
  encode : α → Json

namespace Codec

/-- Any value, as it is. -/
def json : Codec Json where
  decode := fun _ value => .ok value
  encode := id

/-- A text. -/
def text : Codec String where
  decode := fun _ value =>
    match value with
    | .text found => .ok found
    | other => .error (.invalidType other.found .text)
  encode := .text

/-- A truth value. -/
def boolean : Codec Bool where
  decode := fun _ value =>
    match value with
    | .boolean found => .ok found
    | other => .error (.invalidType other.found .boolean)
  encode := .boolean

/-- A natural number below a bound. -/
def natural (bound : Nat) (wanted : Wanted) : Codec Nat where
  decode := fun _ value =>
    match value with
    | .integer found =>
      if 0 ≤ found ∧ found < bound then
        .ok found.toNat
      else
        .error (.invalidValue (.integer found) wanted)
    | other => .error (.invalidType other.found wanted)
  encode := Json.ofNat

/-- A natural number of 32 bits. -/
def word32 : Codec Nat :=
  natural (Nat.pow 2 32) .word32

/-- A natural number of 64 bits. -/
def word64 : Codec Nat :=
  natural (Nat.pow 2 64) .word64

/-- A real number; an integer is read as one, and what is not finite is written as null. -/
def real : Codec Float where
  decode := fun _ value =>
    match value with
    | .real found => .ok found
    | .integer found => .ok (Float.ofInt found)
    | other => .error (.invalidType other.found .real)
  encode := fun value => if Real.isFinite value then .real value else .null

/-- Read items one after another, up to the first fault. -/
def decodeItems {α : Type} (item : Decoder α) (hold : Hold) :
    List Json → Except DataFault (List α)
  | [] => .ok []
  | value :: rest =>
    match item hold value with
    | .error fault => .error fault
    | .ok found =>
      match decodeItems item hold rest with
      | .error fault => .error fault
      | .ok others => .ok (found :: others)

/-- An array of items of one kind. -/
def list {α : Type} (item : Codec α) : Codec (List α) where
  decode := fun hold value =>
    match value with
    | .array items => decodeItems item.decode hold items
    | other => .error (.invalidType other.found .sequence)
  encode := fun values => .array (values.map item.encode)

/-- The value of a tag among known ones. -/
def findTag {α : Type} (tag : String) : List (String × α) → Option α
  | [] => none
  | (name, value) :: rest => if name = tag then some value else findTag tag rest

/-- The value of a tag among known ones, or a report of them. -/
def chooseTag {α : Type} (known : List (String × α)) (tag : String) : Except DataFault α :=
  match findTag tag known with
  | some found => .ok found
  | none => .error (.unknownVariant tag (known.map Prod.fst))

/-- Read a tag that has to be a text. -/
def decodeTagText {α : Type} (known : List (String × α)) : Json → Except DataFault α
  | .text tag => chooseTag known tag
  | other => .error (.invalidType other.found .variantName)

/-- Read a tag: a text, or an object whose only key is the tag of nothing. -/
def decodeTag {α : Type} (known : List (String × α)) : Decoder α := fun hold value =>
  match value with
  | .text tag => chooseTag known tag
  | .object [(tag, content)] =>
    match chooseTag known tag with
    | .error fault => .error fault
    | .ok found =>
      match content, hold with
      | .null, _ => .ok found
      | .object [], .held => .ok found
      | other, _ => .error (.invalidType other.found .unit)
  | .object _ => .error (.invalidValue .map .singleKey)
  | other => .error (.invalidType other.found .textOrMap)

/-- One of several names. -/
def choice {α : Type} (known : List (String × α)) (name : α → String) : Codec α where
  decode := decodeTag known
  encode := fun value => .text (name value)

end Codec

/-- A field of a record of type `α`, with what stands for it where it is left out. -/
structure Column (α : Type) where
  key : String
  decode : Decoder α
  /-- The written value; a column without one is left out. -/
  encode : α → Option Json
  /-- What stands for the column in an object without it. -/
  absent : Option α
  /-- What stands for the column in an array that ends before it. -/
  short : Option α

namespace Column

/-- A field that has to be there. -/
def required {α : Type} (key : String) (codec : Codec α) : Column α where
  key := key
  decode := codec.decode
  encode := fun value => some (codec.encode value)
  absent := none
  short := none

/-- A column with a value of its own when it is missing. -/
def defaulted {α : Type} (key : String) (value : α) (codec : Codec α) : Column α where
  key := key
  decode := codec.decode
  encode := fun found => some (codec.encode found)
  absent := some value
  short := some value

/-- Read null as absence. -/
def decodeOption {α : Type} (decode : Decoder α) : Decoder (Option α) :=
  fun hold value =>
    match value with
    | .null => .ok none
    | other => (decode hold other).map some

/-- A column that may be missing or null, and is left out when absent. -/
def optional {α : Type} (key : String) (codec : Codec α) : Column (Option α) where
  key := key
  decode := decodeOption codec.decode
  encode := fun found => found.map codec.encode
  absent := some none
  short := some none

/-- A column that may be null and is always written; an array has to reach it. -/
def nullable {α : Type} (key : String) (codec : Codec α) : Column (Option α) where
  key := key
  decode := decodeOption codec.decode
  encode := fun found => some (found.elim .null codec.encode)
  absent := some none
  short := none

end Column

/-- Where the columns of a record stand. -/
inductive Row where
  | fields (found : List (String × Json))
  | items (found : List Json)

/-- What a record's columns are read with. -/
structure RecordContext where
  name : String
  columns : Nat
  hold : Hold

/-- Take the column at a position out of a row. -/
def Column.take {α : Type} (column : Column α) (context : RecordContext)
    (position : Nat) : Row → Except DataFault α
  | .fields found =>
    match Json.lookup column.key found with
    | some value => column.decode context.hold value
    | none =>
      match column.absent with
      | some value => .ok value
      | none => .error (.missingField column.key)
  | .items found =>
    match found[position]? with
    | some value => column.decode context.hold value
    | none =>
      match column.short with
      | some value => .ok value
      | none => .error (.shortRecord position context.name context.columns)

/-- The columns of a record read so far, towards a value built from all of them. -/
structure Columns (σ α : Type) where
  /-- The keys in order, each with the check of a present value. -/
  checks : List (String × Decoder Unit)
  read : RecordContext → Row → Except DataFault α
  write : σ → List (String × Json)

namespace Columns

/-- A record without fields: nothing is read and the value is given. -/
def build {σ α : Type} (value : α) : Columns σ α where
  checks := []
  read := fun _ _ => .ok value
  write := fun _ => []

/-- One more field, whose value the record so far is waiting for. -/
def column {σ α β : Type} (columns : Columns σ (α → β)) (next : Column α)
    (get : σ → α) : Columns σ β where
  checks :=
    columns.checks ++
      [(next.key, fun hold value => (next.decode hold value).map fun _ => ())]
  read := fun context row =>
    match columns.read context row with
    | .error fault => .error fault
    | .ok make =>
      match next.take context columns.checks.length row with
      | .error fault => .error fault
      | .ok value => .ok (make value)
  write := fun whole =>
    columns.write whole ++
      match next.encode (get whole) with
      | some value => [(next.key, value)]
      | none => []

/-- The first fault among the present columns, in the order of their keys. -/
def checkFields (checks : List (String × Decoder Unit)) (hold : Hold) :
    List (String × Json) → Except DataFault Unit
  | [] => .ok ()
  | (key, value) :: rest =>
    match Codec.findTag key checks with
    | none => checkFields checks hold rest
    | some check =>
      match check hold value with
      | .error fault => .error fault
      | .ok () => checkFields checks hold rest

/-- The fault of an array with too many items. -/
def overlong (hold : Hold) (length columns : Nat) : DataFault :=
  match hold with
  | .direct => .longArray length
  | .held => .longSequence length columns

/-- Read a record. -/
def decode {σ α : Type} (columns : Columns σ α) (name : String) : Decoder α :=
  fun hold value =>
    let context : RecordContext := ⟨name, columns.checks.length, hold⟩
    match value with
    | .object found =>
      match checkFields columns.checks hold found with
      | .error fault => .error fault
      | .ok () => columns.read context (.fields found)
    | .array found =>
      match columns.read context (.items found) with
      | .error fault => .error fault
      | .ok whole =>
        if found.length ≤ columns.checks.length then
          .ok whole
        else
          .error (overlong hold found.length columns.checks.length)
    | other => .error (.invalidType other.found (.record name))

/-- The record with these fields, under the name that faults report. -/
def codec {σ : Type} (columns : Columns σ σ) (name : String) : Codec σ where
  decode := columns.decode name
  encode := fun whole => .object (columns.write whole)

end Columns

/-- Read a value that was not held back. -/
def Codec.read {α : Type} (codec : Codec α) (value : Json) : Except DataFault α :=
  codec.decode .direct value

end TokenRelay
