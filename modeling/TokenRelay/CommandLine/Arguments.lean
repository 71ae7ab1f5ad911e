import TokenRelay.CommandLine.LogFilter
import TokenRelay.Config

/-!
# Reading a command line

Settings are options with one value each, given as `--name value` or `--name=value`
before the command; one that is not given is taken from the environment, and else has
a standard value.  The command comes after the settings; only `receipt` has an argument.

Arguments are read from left to right.  The value of an option is looked at when the
next argument begins something new, so a fault of that argument comes first.  The
environment is looked at after the whole line, and the missing address last.
-/

namespace TokenRelay.CommandLine

/-- Why a command line gives no invocation; asking for help or the version is one way. -/
inductive UsageFault where
  | displayHelp
  | displayVersion
  | missingRequiredArgument
  | unknownArgument
  | invalidSubcommand
  | argumentConflict
  | invalidValue
  | valueValidation
  | tooManyValues
  deriving DecidableEq, Repr

/-- The name of a fault's kind. -/
def UsageFault.name : UsageFault → String
  | .displayHelp => "DisplayHelp"
  | .displayVersion => "DisplayVersion"
  | .missingRequiredArgument => "MissingRequiredArgument"
  | .unknownArgument => "UnknownArgument"
  | .invalidSubcommand => "InvalidSubcommand"
  | .argumentConflict => "ArgumentConflict"
  | .invalidValue => "InvalidValue"
  | .valueValidation => "ValueValidation"
  | .tooManyValues => "TooManyValues"

/-- What can be set by an option or by a variable of the environment. -/
inductive Setting where
  | url
  | instancePath
  | topic
  | queryStem
  | username
  | password
  | autoInit
  | initialDelay
  | factor
  | longestDelay
  | attempts
  | condition
  | logLevel
  | logJson
  | logComponent
  deriving DecidableEq, Repr

namespace Setting

/-- All settings, in the order in which the environment is read. -/
def all : List Setting :=
  [.url, .instancePath, .topic, .queryStem, .username, .password, .autoInit,
    .initialDelay, .factor, .longestDelay, .attempts, .condition, .logLevel, .logJson,
    .logComponent]

/-- The option of a setting, without its hyphens. -/
def option : Setting → String
  | .url => "url"
  | .instancePath => "instance"
  | .topic => "topic"
  | .queryStem => "prefix"
  | .username => "username"
  | .password => "password"
  | .autoInit => "auto-init"
  | .initialDelay => "retry-initial-delay-ms"
  | .factor => "retry-factor"
  | .longestDelay => "retry-max-delay-ms"
  | .attempts => "retry-max-attempts"
  | .condition => "retry-condition"
  | .logLevel => "log-level"
  | .logJson => "log-json"
  | .logComponent => "log-component"

/-- The variable that gives a setting where no option does. -/
def environmentName : Setting → String
  | .url => "ETHCONNECT_URL"
  | .instancePath => "ETHCONNECT_INSTANCE"
  | .topic => "ETHCONNECT_TOPIC"
  | .queryStem => "ETHCONNECT_PREFIX"
  | .username => "ETHCONNECT_USERNAME"
  | .password => "ETHCONNECT_PASSWORD"
  | .autoInit => "AUTO_INIT"
  | .initialDelay => "RETRY_INITIAL_DELAY_MS"
  | .factor => "RETRY_FACTOR"
  | .longestDelay => "RETRY_MAX_DELAY_MS"
  | .attempts => "RETRY_MAX_ATTEMPTS"
  | .condition => "RETRY_CONDITION"
  | .logLevel => "LOG_LEVEL"
  | .logJson => "LOG_JSON"
  | .logComponent => "LOG_COMPONENTS"

/-- The setting of an option, whose name stands after two hyphens. -/
def ofOption? (name : String) : Option Setting :=
  all.find? fun setting => setting.option = name

/-- Whether a setting may be given more than once. -/
def isRepeatable : Setting → Bool
  | .logComponent => true
  | _ => false

end Setting

/-- Read a truth value. -/
def readBool? (text : String) : Option Bool :=
  if text = "true" then some true
  else if text = "false" then some false
  else none

/-- Read an unsigned number of 64 bits. -/
def readWord64? (text : String) : Option Nat :=
  match Numeral.readUnsigned (Nat.pow 2 64) text.toList with
  | .ok value => some value
  | .error _ => none

/-- Read a number of 32 bits that may be written as a signed one. -/
def readWord32? (text : String) : Option Nat :=
  match text.toList with
  | '-' :: digits =>
    match digits, Numeral.readDigits (Nat.pow 2 63) 0 digits with
    | _ :: _, .ok 0 => some 0
    | _, _ => none
  | chars =>
    match Numeral.readUnsigned (Nat.pow 2 32) chars with
    | .ok value => some value
    | .error _ => none

/-- Whether a setting takes a value; a value it does not take is a fault of one of two kinds. -/
def checkValue (setting : Setting) (value : String) : Except UsageFault Unit :=
  let demand (found : Bool) (fault : UsageFault) : Except UsageFault Unit :=
    if found then .ok () else .error fault
  match setting with
  | .autoInit => demand (readBool? value).isSome .invalidValue
  | .logJson => demand (readBool? value).isSome .invalidValue
  | .initialDelay => demand (readWord64? value).isSome .valueValidation
  | .longestDelay => demand (readWord64? value).isSome .valueValidation
  | .attempts => demand (readWord32? value).isSome .valueValidation
  | .factor => demand (Real.ofText? value).isSome .valueValidation
  | .logComponent => demand (LogFilter.readComponent? value).isSome .valueValidation
  | _ => .ok ()

/-- Cut a text at its commas. -/
def splitCommas : List Char → List (List Char)
  | [] => [[]]
  | ',' :: rest => [] :: splitCommas rest
  | char :: rest =>
    match splitCommas rest with
    | [] => [[char]]
    | first :: others => (char :: first) :: others

/-- The values in one argument; only the components of the log take several. -/
def valuesOf (setting : Setting) (text : String) : List String :=
  match setting with
  | .logComponent => (splitCommas text.toList).map String.ofList
  | _ => [text]

/-- The values given so far, in order. -/
abbrev Given := List (Setting × String)

/-- Whether a setting was given. -/
def Given.has (given : Given) (setting : Setting) : Bool :=
  given.any fun entry => entry.1 = setting

/-- Check values one after another. -/
def checkValues (setting : Setting) : List String → Except UsageFault Unit
  | [] => .ok ()
  | value :: rest =>
    match checkValue setting value with
    | .error fault => .error fault
    | .ok () => checkValues setting rest

/-- Take the values of a setting from an argument, unless one of them is at fault. -/
def Given.accept (given : Given) (setting : Setting) (text : String) :
    Except UsageFault Given :=
  match checkValues setting (valuesOf setting text) with
  | .error fault => .error fault
  | .ok () => .ok (given ++ (valuesOf setting text).map fun value => (setting, value))

/-- An option whose value has not been looked at yet; none while it is still missing. -/
structure Pending where
  setting : Setting
  value : Option String

/-- Look at the value of the pending option. -/
def Given.resolve (given : Given) : Option Pending → Except UsageFault Given
  | none => .ok given
  | some ⟨_, none⟩ => .error .invalidValue
  | some ⟨setting, some value⟩ =>
    if given.has setting && !setting.isRepeatable then
      .error .argumentConflict
    else
      given.accept setting value

/-- What the program is asked to do. -/
inductive Command where
  | run
  | init
  | reconcile
  | receipt (id : String)
  deriving DecidableEq, Repr

/-- What an argument looks like. -/
inductive Shape where
  /-- Two hyphens alone. -/
  | escape
  | long (name : String) (value : Option String)
  | short (letters : List Char)
  | plain

/-- An argument by its hyphens; a single hyphen alone is a plain one. -/
def shapeOf (argument : String) : Shape :=
  match argument.toList with
  | ['-', '-'] => .escape
  | '-' :: '-' :: rest =>
    match LogFilter.cutEquals rest with
    | some (name, value) => .long (String.ofList name) (some (String.ofList value))
    | none => .long (String.ofList rest) none
  | '-' :: letter :: letters => .short (letter :: letters)
  | _ => .plain

/-- The fault of an argument with one hyphen; only help and the version have letters. -/
def shortFault (withVersion : Bool) : List Char → UsageFault
  | 'h' :: _ => .displayHelp
  | 'V' :: _ => if withVersion then .displayVersion else .unknownArgument
  | _ => .unknownArgument

/-- The fault of an option that is no setting. -/
def longFault (withVersion : Bool) (name : String) (value : Option String) : UsageFault :=
  if name = "help" then
    if value.isSome then .tooManyValues else .displayHelp
  else if withVersion ∧ name = "version" then
    if value.isSome then .tooManyValues else .displayVersion
  else
    .unknownArgument

/-- The names of commands, with the one that asks for help. -/
def commandNames : List String :=
  ["run", "init", "reconcile", "receipt", "help"]

/-- Read the arguments of a command that has at most `slots` arguments of its own. -/
def readOwn (slots : Nat) : Bool → List String → List String →
    Except UsageFault (List String)
  | _, found, [] => .ok found
  | trailing, found, argument :: rest =>
    let take : Except UsageFault (List String) :=
      if found.length < slots then
        readOwn slots trailing (found ++ [argument]) rest
      else
        .error .unknownArgument
    if trailing then
      take
    else
      match shapeOf argument with
      | .escape => readOwn slots true found rest
      | .long name value => .error (longFault false name value)
      | .short letters => .error (shortFault false letters)
      | .plain => take

/-- Ask for help on a command; no command has commands of its own. -/
def helpOn : List String → UsageFault
  | [] => .displayHelp
  | [name] => if commandNames.contains name then .displayHelp else .invalidSubcommand
  | _ => .invalidSubcommand

/-- A command with its own arguments; only a receipt has one. -/
def readCommand (name : String) (rest : List String) : Except UsageFault Command :=
  if name = "help" then
    .error (helpOn rest)
  else if name = "receipt" then
    match readOwn 1 false [] rest with
    | .error fault => .error fault
    | .ok [id] => .ok (.receipt id)
    | .ok _ => .error .missingRequiredArgument
  else
    match readOwn 0 false [] rest with
    | .error fault => .error fault
    | .ok _ =>
      if name = "init" then .ok .init
      else if name = "reconcile" then .ok .reconcile
      else .ok .run

/-- What a line gave: values, the option still pending, and the command. -/
structure LineResult where
  given : Given
  pending : Option Pending
  command : Option Command

/-- Read a line from left to right. -/
def readLine (trailing : Bool) (given : Given) (pending : Option Pending) :
    List String → Except UsageFault LineResult
  | [] => .ok ⟨given, pending, none⟩
  | argument :: rest =>
    if trailing then
      if commandNames.contains argument then .error .unknownArgument
      else .error .invalidSubcommand
    else
      match pending with
      | some ⟨setting, none⟩ =>
        match shapeOf argument with
        | .escape => readLine true given pending rest
        | .plain => readLine false given (some ⟨setting, some argument⟩) rest
        | .short letters => faultAfter given pending (shortFault true letters)
        | .long name value => readOption given pending name value rest
      | _ =>
        if commandNames.contains argument then
          match readCommand argument rest with
          | .error fault => .error fault
          | .ok command => .ok ⟨given, pending, some command⟩
        else
          match shapeOf argument with
          | .escape => readLine true given pending rest
          | .plain => .error .invalidSubcommand
          | .short letters => faultAfter given pending (shortFault true letters)
          | .long name value => readOption given pending name value rest
where
  /-- A fault that comes after the pending option, unless it is an unknown argument. -/
  faultAfter (given : Given) (pending : Option Pending) (fault : UsageFault) :
      Except UsageFault LineResult :=
    if fault = .unknownArgument then
      .error fault
    else
      match given.resolve pending with
      | .error earlier => .error earlier
      | .ok _ => .error fault
  readOption (given : Given) (pending : Option Pending) (name : String)
      (value : Option String) (rest : List String) : Except UsageFault LineResult :=
    match Setting.ofOption? name with
    | none => faultAfter given pending (longFault true name value)
    | some setting =>
      match given.resolve pending with
      | .error fault => .error fault
      | .ok resolved =>
        match value with
        | none => readLine false resolved (some ⟨setting, none⟩) rest
        | some text =>
          match resolved.resolve (some ⟨setting, some text⟩) with
          | .error fault => .error fault
          | .ok next => readLine false next none rest

/-- Take settings that were not given from the environment. -/
def readEnvironment (environment : List (String × String)) :
    List Setting → Given → Except UsageFault Given
  | [], given => .ok given
  | setting :: rest, given =>
    match environment.find? (fun entry => entry.1 = setting.environmentName) with
    | some (_, text) =>
      if given.has setting then
        readEnvironment environment rest given
      else
        match given.accept setting text with
        | .error fault => .error fault
        | .ok next => readEnvironment environment rest next
    | none => readEnvironment environment rest given

/-- The value of a setting, or a standard one. -/
def Given.text (given : Given) (setting : Setting) (standard : String) : String :=
  match given.find? fun entry => entry.1 = setting with
  | some (_, value) => value
  | none => standard

/-- The value of a setting through a reader, or a standard one. -/
def Given.value {α : Type} (given : Given) (setting : Setting)
    (read : String → Option α) (standard : α) : α :=
  match given.find? fun entry => entry.1 = setting with
  | some (_, value) => (read value).getD standard
  | none => standard

/-- What a whole command line says. -/
structure Invocation where
  /-- None stands for `run`. -/
  command : Option Command
  config : Config
  log : LogFilter

/-- The configuration, with standard values for what was not given. -/
def Given.config (given : Given) : Config :=
  { connectorUrl := given.text .url ""
    username := given.text .username ""
    password := given.text .password ""
    topic := given.text .topic "token"
    queryStem := given.text .queryStem "fly"
    instancePath := given.text .instancePath ""
    autoInit := given.value .autoInit readBool? true
    retry :=
      { initialDelay := given.value .initialDelay readWord64? 100
        factor := given.value .factor Real.ofText? 2.0
        longestDelay := given.value .longestDelay readWord64? 10000
        attempts := given.value .attempts readWord32? 15
        condition := given.text .condition RetryCondition.standardText }
    feed := .standard }

/-- The filter of the log, with standard values for what was not given. -/
def Given.logFilter (given : Given) : LogFilter :=
  { level := given.text .logLevel "info"
    components := LogFilter.ordered
      (given.filterMap fun entry =>
        if entry.1 = .logComponent then LogFilter.readComponent? entry.2 else none)
    json := given.value .logJson readBool? false }

/-- Read a command line, and the environment for what it leaves open. -/
def parse (arguments : List String) (environment : List (String × String)) :
    Except UsageFault Invocation :=
  match readLine false [] none arguments with
  | .error fault => .error fault
  | .ok line =>
    match line.given.resolve line.pending with
    | .error fault => .error fault
    | .ok given =>
      match readEnvironment environment Setting.all given with
      | .error fault => .error fault
      | .ok complete =>
        if complete.has .url then
          .ok ⟨line.command, complete.config, complete.logFilter⟩
        else
          .error .missingRequiredArgument

end TokenRelay.CommandLine
