import TokenRelay.CommandLine.Arguments
import TokenRelay.Connector.Client
import TokenRelay.Token.Service

/-!
# The program behind the command line

A command is refused before anything is sent where the configuration is not valid, where
it needs a contract and none is given, or where the retry condition is no pattern.  All
commands but `run` perform one task and print its result; `run` starts up and then prints
the notifications of the feed, one on a line.

A failure is reported with what lies behind it, the nearest cause first.
-/

namespace TokenRelay.CommandLine

/-- Why a program ends early, and what lies behind it. -/
structure Failure where
  message : String
  causes : List String
  deriving DecidableEq, Repr

namespace Failure

/-- A bridge error with its causes. -/
def ofError (error : BridgeError) : Failure :=
  ⟨error.message, error.causes⟩

/-- A failure as what lies behind another one. -/
def within (context : String) (failure : Failure) : Failure :=
  ⟨context, failure.message :: failure.causes⟩

/-- A text whose lines after the first are indented. -/
def hang (indentation : Nat) (text : String) : String :=
  String.ofList (text.toList.flatMap fun char =>
    if char = '\n' then '\n' :: List.replicate indentation ' ' else [char])

/-- Causes on lines of their own, numbered. -/
def numbered : Nat → List String → String
  | _, [] => ""
  | number, cause :: rest =>
    let digits := Numeral.decimal number
    String.ofList ('\n' :: List.replicate (5 - digits.length) ' ' ++ digits) ++ ": " ++
      hang 7 cause ++ numbered (number + 1) rest

/-- What is printed of a failure: its message, and its causes below each other. -/
def report (failure : Failure) : String :=
  let behind := match failure.causes with
    | [] => ""
    | [cause] => "\n\nCaused by:\n    " ++ hang 4 cause
    | causes => "\n\nCaused by:" ++ numbered 0 causes
  "Error: " ++ failure.message ++ behind

end Failure

namespace UsageFault

/-- Whether a line asks for information. -/
def isQuestion : UsageFault → Bool
  | .displayHelp => true
  | .displayVersion => true
  | _ => false

/-- The exit code of a program that was not run. -/
def exitCode (fault : UsageFault) : Nat :=
  if fault.isQuestion then 0 else 2

end UsageFault

/-- The code with which the program ends after a failure. -/
def failureCode : Nat := 1

/-- Whether a command works with a contract. -/
def Command.needsInstance : Command → Bool
  | .receipt _ => false
  | _ => true

namespace Invocation

/-- The command, where none is given `run`. -/
def chosen (invocation : Invocation) : Command :=
  invocation.command.getD .run

/-- Refuse an invocation that cannot be carried out, or give the client for it. -/
def prepare (invocation : Invocation) : Except Failure Client :=
  match invocation.config.validate with
  | .error fault =>
    .error ((Failure.ofError (.config fault)).within "invalid configuration")
  | .ok () =>
    if invocation.chosen.needsInstance && invocation.config.instancePath.isEmpty then
      .error ⟨"--instance (ETHCONNECT_INSTANCE) is required for this command", []⟩
    else
      match Client.ofSettings invocation.config.retry with
      | .error fault => .error (.ofError (.config fault))
      | .ok client => .ok client

end Invocation

variable {σ : Type}

/-- What a command prints when it is done; none for the one that goes on. -/
def Command.printed? (config : Config) : Command → Option (Task σ String)
  | .run => none
  | .init => some do
    let service ← Service.init config
    return (EventStream.codec.encode service.stream).pretty
  | .reconcile => some do
    let result ← Reconcile.run config.topic config.instancePath
    return result.name
  | .receipt id => some do
    let _ ← Service.attach config
    let reply ← Service.getReceipt id
    return (Reply.codec.encode reply).pretty

/-- Start the service; what the reconciliation did is not shown. -/
def startUp (config : Config) : Task σ Service := do
  return (← Service.start config).1

/-- A failure before any notification is printed. -/
def startUpFailure (error : BridgeError) : Failure :=
  (Failure.ofError error).within "startup failed"

/-- What is printed of a notification: one line without blanks. -/
def notificationLine (notification : Notification) : String :=
  notification.encode.compact

end TokenRelay.CommandLine
