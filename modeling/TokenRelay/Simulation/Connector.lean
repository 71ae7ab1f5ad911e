import TokenRelay.Connector.Message

/-!
# A connector in memory

The connector keeps streams and subscriptions, gives each new one a fresh id, and answers
every other submission with an operation's id.  Ahead of its own answers come reactions
that were scripted: a delay, a failure, or a fixed response.  A reaction is taken from the
script first, and when that is used up from the first fault with the request's method and
path that has one left.  Requests are logged as they begin.
-/

namespace TokenRelay.Simulation

/-- What the connector does in place of answering, or before it answers by itself. -/
structure Reaction where
  delay : Nat
  /-- Absent where the connector answers by itself. -/
  outcome : Option Outcome

/-- Reactions to requests of one method and path; an absent one leaves the answer as it is. -/
structure Fault where
  method : String
  path : String
  reactions : List (Option Reaction)

/-- A request that began at an instant. -/
structure LoggedRequest where
  request : Request
  instant : Nat

/-- A connector that keeps streams and subscriptions and may be told to misbehave. -/
structure Connector where
  script : List (Option Reaction)
  faults : List Fault
  streams : List Json
  subscriptions : List Json
  /-- Replies by the id of their operation. -/
  receipts : List (String × Json)
  /-- URI templates by the path that they are asked at. -/
  templates : List (String × Json)
  /-- What every account holds. -/
  balance : Json
  /-- How many things were created. -/
  created : Nat
  /-- The requests, the latest first. -/
  log : List LoggedRequest

namespace Connector

/-- A connector that holds nothing. -/
def empty : Connector :=
  ⟨[], [], [], [], [], [], .text "42", 0, []⟩

/-- Take the reaction to a request off the faults. -/
def takeFault (request : Request) : List Fault → Option (Option Reaction × List Fault)
  | [] => none
  | fault :: rest =>
    match fault.reactions with
    | reaction :: others =>
      if fault.method = request.method.name ∧ fault.path = request.path then
        some (reaction, { fault with reactions := others } :: rest)
      else
        (takeFault request rest).map fun (found, rest) => (found, fault :: rest)
    | [] => (takeFault request rest).map fun (found, rest) => (found, fault :: rest)

/-- Log a request and take the reaction to it. -/
def receive (now : Nat) (request : Request) (connector : Connector) :
    Option Reaction × Connector :=
  let connector := { connector with log := ⟨request, now⟩ :: connector.log }
  match connector.script with
  | reaction :: script => (reaction, { connector with script := script })
  | [] =>
    match takeFault request connector.faults with
    | some (reaction, faults) => (reaction, { connector with faults := faults })
    | none => (none, connector)

/-- A value with an id; what is no object becomes one. -/
def withId (id : String) : Json → Json
  | .object fields => .object (Json.setField "id" (.text id) fields)
  | _ => Json.ofFields [("id", .text id)]

/-- The text in a field of an object. -/
def textField? (key : String) (value : Json) : Option String :=
  (value.field? key).bind Json.text?

/-- What follows the beginning of a path. -/
def after? (start path : String) : Option String :=
  (go start.toList path.toList).map String.ofList
where
  /-- What follows some first characters. -/
  go : List Char → List Char → Option (List Char)
    | [], text => some text
    | _ :: _, [] => none
    | expected :: start, char :: text =>
      if expected = char then go start text else none

/-- What follows the last slash of a path. -/
def lastSegment (path : String) : String :=
  String.ofList (path.toList.reverse.takeWhile (· ≠ '/')).reverse

/-- An answer with a status and a body. -/
def respond (status : Nat) (body : Json) : Outcome :=
  .ok ⟨status, body⟩

/-- What was asked for, or that it is not there. -/
def found (body : Option Json) : Outcome :=
  match body with
  | some body => respond 200 body
  | none => respond 404 .null

/-- What a contract's query gives. -/
def output (value : Json) : Json :=
  Json.ofFields [("output", value)]

/-- Answer a reading request. -/
def answerGet (connector : Connector) (path : String) : Outcome :=
  if path = "/eventstreams" then
    respond 200 (.array connector.streams)
  else if path = "/subscriptions" then
    respond 200 (.array connector.subscriptions)
  else
    match after? "/subscriptions/" path, after? "/reply/" path with
    | some id, _ => found (connector.subscriptions.find? (textField? "id" · = some id))
    | _, some id => found (connector.receipts.lookup id)
    | none, none =>
      if path.endsWith "/uri" then
        found ((connector.templates.lookup path).map output)
      else if path.endsWith "/balanceOf" then
        respond 200 (output connector.balance)
      else
        respond 405 .null

/-- The events of a contract that can be subscribed to. -/
def subscribableEvents : List String :=
  ["TokenCreate", "TransferSingle", "TransferBatch"]

/-- Answer a creating request. -/
def answerPost (connector : Connector) (path : String) (body : Json) :
    Outcome × Connector :=
  let count := connector.created + 1
  let connector := { connector with created := count }
  let named (kind : String) : String := kind ++ "-" ++ Numeral.text count
  if path = "/eventstreams" then
    let stream := withId (named "es") body
    (respond 200 stream,
      { connector with streams := connector.streams ++ [stream] })
  else if subscribableEvents.contains (lastSegment path) then
    let subscription := withId (named "sb") body
    (respond 200 subscription,
      { connector with subscriptions := connector.subscriptions ++ [subscription] })
  else
    (respond 202 (Json.ofFields [("sent", .boolean true), ("id", .text (named "op"))]),
      connector)

/-- Remove a stream together with its subscriptions. -/
def removeStream (connector : Connector) (id : String) : Connector :=
  { connector with
    streams := connector.streams.filter (textField? "id" · ≠ some id)
    subscriptions := connector.subscriptions.filter (textField? "stream" · ≠ some id) }

/-- The answer to a request, and the connector afterwards. -/
def answer (request : Request) (connector : Connector) : Outcome × Connector :=
  match request.method with
  | .get => (connector.answerGet request.path, connector)
  | .post => connector.answerPost request.path (request.body.getD .null)
  | .patch =>
    match after? "/eventstreams/" request.path with
    | some id => (respond 200 (withId id (request.body.getD .null)), connector)
    | none => (respond 405 .null, connector)
  | .delete =>
    match after? "/eventstreams/" request.path with
    | some id => (respond 204 .null, connector.removeStream id)
    | none => (respond 405 .null, connector)

end Connector

end TokenRelay.Simulation
