import TokenRelay.Json.Codec
import TokenRelay.Json.Printer
import TokenRelay.Error

/-!
# Requests and responses

A request is one call of the connector's REST interface, relative to its address.  A
response is a status and a JSON body, null when there was none.  The outcome of a round
trip is a response or the failure to get one.
-/

namespace TokenRelay

/-- The verbs of the connector's interface. -/
inductive Method where
  | get
  | post
  | patch
  | delete
  deriving DecidableEq, Repr

/-- The name of a method in a request line. -/
def Method.name : Method → String
  | .get => "GET"
  | .post => "POST"
  | .patch => "PATCH"
  | .delete => "DELETE"

/-- A request to the connector, relative to its address. -/
structure Request where
  method : Method
  path : String
  query : List (String × String)
  body : Option Json

namespace Request

/-- A reading call. -/
def get (path : String) (query : List (String × String)) : Request :=
  ⟨.get, path, query, none⟩

/-- A creating call. -/
def post (path : String) (query : List (String × String)) (body : Json) : Request :=
  ⟨.post, path, query, some body⟩

/-- A changing call. -/
def patch (path : String) (body : Json) : Request :=
  ⟨.patch, path, [], some body⟩

/-- A request to delete what stands at a path. -/
def delete (path : String) : Request :=
  ⟨.delete, path, [], none⟩

end Request

/-- The answer of a connector to a request that reached it. -/
structure Response where
  status : Nat
  body : Json

namespace Response

/-- Whether the status tells of success. -/
def isSuccess (response : Response) : Bool :=
  200 ≤ response.status && response.status < 300

/-- The body as a text: nothing for null, a text as it is, all else as compact JSON. -/
def bodyText (response : Response) : String :=
  match response.body with
  | .null => ""
  | .text value => value
  | other => other.compact

end Response

/-- What came of one round trip. -/
abbrev Outcome := Except TransportError Response

/-- What came of a call with all its attempts. -/
abbrev Answer := Except BridgeError Response

/-- An outcome with statuses other than success made failures. -/
def Outcome.judged (outcome : Outcome) : Outcome :=
  match outcome with
  | .error failure => .error failure
  | .ok response =>
    if response.isSuccess then .ok response
    else .error (.status response.status response.bodyText)

/-- The connector's acknowledgement of a transaction. -/
structure Submission where
  sent : Bool
  id : String
  deriving DecidableEq

/-- The wire form of an acknowledgement. -/
def Submission.codec : Codec Submission :=
  ((Columns.build Submission.mk
    |>.column (.defaulted "sent" false .boolean) (·.sent))
    |>.column (.required "id" .text) (·.id)).codec "ConnectorAsyncResponse"

/-- The result of a query of the contract. -/
structure QueryResult where
  output : String
  deriving DecidableEq

/-- The wire form of a query result. -/
def QueryResult.codec : Codec QueryResult :=
  (Columns.build QueryResult.mk
    |>.column (.required "output" .text) (·.output)).codec "ConnectorReturn"

end TokenRelay
