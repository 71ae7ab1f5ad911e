import TokenRelay.Unicode.Age
import TokenRelay.Unicode.CaseFold
import TokenRelay.Unicode.Segmentation

/-!
# Sets of code points by name

A query names a property that code points have or have not, a general category or a
script, or it names a property and one of its values.  In names neither case nor blanks,
underscores and hyphens count, and a leading `is` is dropped.
-/

namespace TokenRelay.Unicode

/-- A set of code points as it is named. -/
structure Query where
  name : String
  /-- The value of the property, if the name is that of a property with values. -/
  value : Option String
  deriving DecidableEq, Repr

namespace Query

/-- A name without what does not count in it. -/
def plainChars (name : List Char) : List Char :=
  (name.filter fun char =>
    char.toNat < 128 && char ≠ ' ' && char ≠ '_' && char ≠ '-').map Char.toLower

/-- The form of a name in which it is looked up. -/
def plainName (name : String) : String :=
  match name.toList with
  | first :: second :: rest =>
    if first.toLower = 'i' ∧ second.toLower = 's' then
      let plain := plainChars rest
      if plain = ['c'] then "isc" else String.ofList plain
    else
      String.ofList (plainChars (first :: second :: rest))
  | chars => String.ofList (plainChars chars)

/-- The properties that are composed of others. -/
def composed? (name : String) : Option CodePoints :=
  match name with
  | "alphabetic" | "alpha" => some alphabetic
  | "lowercase" | "lower" => some lowercase
  | "uppercase" | "upper" => some uppercase
  | "cased" => some cased
  | "caseignorable" | "ci" => some caseIgnorable
  | "math" => some math
  | "graphemeextend" | "grext" => some graphemeExtend
  | "graphemebase" | "grbase" => some graphemeBase
  | "idstart" | "ids" => some idStart
  | "idcontinue" | "idc" => some idContinue
  | "xidstart" | "xids" => some idStartClosed
  | "xidcontinue" | "xidc" => some idContinueClosed
  | "changeswhenlowercased" | "cwl" => some changesInLowercase
  | "changeswhenuppercased" | "cwu" => some changesInUppercase
  | "changeswhentitlecased" | "cwt" => some changesInTitlecase
  | "changeswhencasefolded" | "cwcf" => some changesWhenFolded
  | "changeswhencasemapped" | "cwcm" => some changesInSomeCase
  | _ => none

/-- The characters of a property by its name, listed or composed. -/
def property? (name : String) : Option CodePoints :=
  match Listed.names.lookup name with
  | some listed => some listed.members
  | none => composed? name

/-- The set of a name: a property, else a general category, else a script. -/
def named? (name : String) : Option CodePoints :=
  ((property? name).or (Category.named? name)).or (Script.members? name)

/-- The set of a property's value. -/
def valued? (name value : String) : Option CodePoints :=
  match name with
  | "gc" | "generalcategory" => Category.named? value
  | "sc" | "script" => Script.members? value
  | "scx" | "scriptextensions" => Script.extensions? value
  | "age" => Age.members? value
  | "gcb" | "graphemeclusterbreak" => Segmentation.character? value
  | "wb" | "wordbreak" => Segmentation.word? value
  | "sb" | "sentencebreak" => Segmentation.sentence? value
  | _ => none

/-- The code points of a query; none if a name in it is not known. -/
def members? (query : Query) : Option CodePoints :=
  match query.value with
  | none => named? (plainName query.name)
  | some value => valued? (plainName query.name) (plainName value)

end Query

end TokenRelay.Unicode
