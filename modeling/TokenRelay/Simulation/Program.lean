import TokenRelay.CommandLine.Program
import TokenRelay.Http.Exchange
import TokenRelay.Simulation.Session

/-!
# The program in a world

An invocation is carried out against a connector in memory under the virtual clock.  The
feed of `run` is a peer that answers pings and sends some texts once the socket listens;
after a while the program is interrupted.
-/

namespace TokenRelay.Simulation

/-- What a program showed: its exit code, its lines, its failure, and what it did. -/
structure Showing where
  exitCode : Nat
  lines : List String
  failure : String
  session : Option Session

namespace Showing

/-- A program that ended well. -/
def finished (lines : List String) (session : Session) : Showing :=
  ⟨0, lines, "", some session⟩

/-- The program ends with a failure. -/
def failed (failure : CommandLine.Failure) (session : Option Session) : Showing :=
  ⟨CommandLine.failureCode, [], failure.report, session⟩

/-- The command line is refused, or it only asked for help. -/
def refused (fault : CommandLine.UsageFault) : Showing :=
  ⟨fault.exitCode, if fault.isQuestion then ["help"] else [], "", none⟩

end Showing

namespace Program

/-- The time that is left to one command. -/
def patience : Nat := 1000000000

/-- How long the feed is listened to. -/
def attention : Nat := 60000

/-- A connector to which no connection can be made. -/
def unreachable (connector : Connector) : Connector :=
  { connector with
    script := List.replicate 1000 (some ⟨0, some Http.Delivery.refused.outcome⟩) }

/-- The lines of a text. -/
def linesOf (text : String) : List String :=
  (Separated.parts '\n' text.toList).map String.ofList

/-- Listen to the feed while the peer sends some texts. -/
def listen (texts : List String) (session : Session) : List String × Session :=
  let (_, session) := session.subscribe "output"
  let session := (session.connect (.ofScript true [] []) true).settle
  let session := texts.foldl
    (fun session text => (session.push (.frame (.text text))).2.settle) session
  let (_, session) := session.sleep attention attention
  let lines := session.report.received.flatMap fun (_, notifications) =>
    notifications.map CommandLine.notificationLine
  (lines, session)

/-- Carry out the command, as long as patience lasts. -/
def carryOut (invocation : CommandLine.Invocation) (texts : List String)
    (session : Session) : Showing :=
  match invocation.chosen.printed? invocation.config with
  | some task =>
    match session.perform task patience with
    | (some (.ok text), session) => .finished (linesOf text) session
    | (some (.error error), session) => .failed (.ofError error) (some session)
    | (none, session) => .finished [] session
  | none =>
    match session.perform (CommandLine.startUp invocation.config) patience with
    | (some (.ok _), session) =>
      let (lines, session) := listen texts session
      .finished lines session
    | (some (.error error), session) =>
      .failed (CommandLine.startUpFailure error) (some session)
    | (none, session) => .finished [] session

/-- Carry out an invocation against a connector. -/
def run (invocation : CommandLine.Invocation) (connector : Connector)
    (texts : List String) : Showing :=
  match invocation.prepare with
  | .error failure => .failed failure none
  | .ok client =>
    let config := invocation.config
    let route := Session.listenerRoute ⟨config.topic, config.instancePath⟩
    carryOut invocation texts
      (.start config client [route] GatewayRun.standardRetryDelay connector)

/-- The target of a request as the connector reads it. -/
def sentPath (request : Request) : String :=
  match Url.read? (Http.join "http://connector" request.path) with
  | some url => { url with query := none : Url }.target
  | none => request.path

end Program

end TokenRelay.Simulation
