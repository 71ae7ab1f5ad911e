import TokenRelay.Text.CharacterClass

/-!
# Log filters

A filter is a level for everything and levels for single components, written as
directives with commas between them.
-/

namespace TokenRelay

/-- Which log entries are wanted. -/
structure LogFilter where
  level : String
  /-- The levels of components, in ascending order of their names. -/
  components : List (String × String)
  /-- Whether each entry is one JSON object. -/
  json : Bool
  deriving DecidableEq

namespace LogFilter

/-- Set the level of a component among components in order. -/
def setLevel (name level : String) : List (String × String) → List (String × String)
  | [] => [(name, level)]
  | (other, old) :: rest =>
    if name = other then
      (name, level) :: rest
    else if name < other then
      (name, level) :: (other, old) :: rest
    else
      (other, old) :: setLevel name level rest

/-- Components in order; of two with one name the later counts. -/
def ordered (components : List (String × String)) : List (String × String) :=
  components.foldl (fun found entry => setLevel entry.1 entry.2 found) []

/-- A component's name with underscores for hyphens. -/
def target (name : String) : String :=
  String.ofList (name.toList.map fun char => if char = '-' then '_' else char)

/-- The filter as text: the general level and then that of each component. -/
def directives (filter : LogFilter) : String :=
  filter.components.foldl
    (fun found entry => found ++ "," ++ target entry.1 ++ "=" ++ entry.2) filter.level

/-- Cut a text at its first equals sign. -/
def cutEquals : List Char → Option (List Char × List Char)
  | [] => none
  | '=' :: rest => some ([], rest)
  | char :: rest =>
    (cutEquals rest).map fun (name, level) => (char :: name, level)

/-- Read the level of one component: a name, an equals sign and a level. -/
def readComponent? (text : String) : Option (String × String) :=
  match cutEquals text.toList with
  | some (name, level) =>
    if name.isEmpty ∨ level.isEmpty then
      none
    else
      some (CharacterClass.trim (String.ofList name),
        CharacterClass.trim (String.ofList level))
  | none => none

end LogFilter

end TokenRelay
