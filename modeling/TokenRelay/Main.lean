import TokenRelay.CommandLine.Program
import TokenRelay.Feed.Endpoint

/-!
# The program

This is the outer layer: it reads the command line and the environment, waits, and prints.
It has no sockets of its own, so every connection is refused and a command ends as it does
where the connector cannot be reached.
-/

open TokenRelay

namespace TokenRelay.Main

/-- How the program is called. -/
def usage : String :=
  "Usage: token-relay [OPTIONS] --url <URL> [COMMAND]\n\n" ++
    "Commands:\n  run\n  init\n  reconcile\n  receipt <ID>\n  help\n\n" ++
    "Options:\n" ++
    String.join (CommandLine.Setting.all.map fun setting =>
      "  --" ++ setting.option ++ " [env: " ++ setting.environmentName ++ "]\n")

/-- The environment variables of the settings. -/
def environment : IO (List (String × String)) := do
  let mut found : List (String × String) := []
  for setting in CommandLine.Setting.all do
    match ← IO.getEnv setting.environmentName with
    | some value => found := found ++ [(setting.environmentName, value)]
    | none => pure ()
  return found

/-- A network on which every connection is refused. -/
def offline (_ : Http.Message) : Http.Delivery :=
  .refused

/-- Carry out a procedure against an endpoint; nothing is shared, so there is no memory. -/
def runProcedure {α : Type} (endpoint : Http.Endpoint) : Procedure Outcome Unit α → IO α
  | .done value => return value
  | .call request next => runProcedure endpoint (next (endpoint.send offline request))
  | .pause duration rest => do
    IO.sleep duration.toUInt32
    runProcedure endpoint rest
  | .recall next => runProcedure endpoint (next ())
  | .remember _ rest => runProcedure endpoint rest

/-- Keep a feed going whose connections are all refused. -/
partial def keepFeed (settings : SocketSettings) (phase : Socket.Phase)
    (input : Socket.Input) : IO Unit := do
  let now ← IO.monoMsNow
  match Socket.step settings now phase input with
  | none => return
  | some (phase, actions) =>
    if actions.any fun | .connect => true | _ => false then
      keepFeed settings phase .connectFailed
    else
      match phase.due? with
      | none => return
      | some due =>
        IO.sleep (due - now).toUInt32
        keepFeed settings phase .delayOver

/-- Report a failure and give the exit code. -/
def fail (failure : CommandLine.Failure) : IO UInt32 := do
  IO.eprintln failure.report
  return CommandLine.failureCode.toUInt32

/-- Carry out an invocation: its command against the connector, and the code to end with. -/
def carryOut (invocation : CommandLine.Invocation) : IO UInt32 := do
  let config := invocation.config
  match invocation.prepare with
  | .error failure => fail failure
  | .ok client =>
    let endpoint :=
      Http.Endpoint.ofUrl config.connectorUrl ⟨config.username, config.password⟩
    match invocation.chosen.printed? config with
    | some task =>
      match ← runProcedure endpoint (client.perform task.run) with
      | .error error => fail (.ofError error)
      | .ok text =>
        IO.println text
        return 0
    | none =>
      match ← runProcedure endpoint (client.perform (CommandLine.startUp config).run) with
      | .error error => fail (CommandLine.startUpFailure error)
      | .ok _ =>
        keepFeed ⟨config.topic, config.feed⟩ .unstarted .start
        return 0

end TokenRelay.Main

/-- Read the command line and carry it out. -/
def main (arguments : List String) : IO UInt32 := do
  match CommandLine.parse arguments (← Main.environment) with
  | .error fault =>
    if fault.isQuestion then
      IO.println Main.usage
    else
      IO.eprintln Main.usage
    return fault.exitCode.toUInt32
  | .ok invocation => Main.carryOut invocation
