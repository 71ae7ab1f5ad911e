import TokenRelay.Config
import TokenRelay.Connector.Message
import TokenRelay.Http.Url
import TokenRelay.Json.Reader
import TokenRelay.Text.Digits
import TokenRelay.Text.CharacterClass

/-!
# Round trips over HTTP

An endpoint is the connector's address with the credentials for it.  A request becomes a
message to the address that its path names under the endpoint's; what is then delivered,
an answer or none, becomes the outcome of the round trip.
-/

namespace TokenRelay

/-- A user's name and password; they count only if neither is empty. -/
structure Credentials where
  username : String
  password : String
  deriving DecidableEq

namespace Credentials

/-- No credentials, where nothing is to be said of who asks. -/
def none : Credentials :=
  ⟨"", ""⟩

/-- The header that authorizes a request. -/
def authorization? (credentials : Credentials) : Option String :=
  if credentials.username.isEmpty || credentials.password.isEmpty then
    .none
  else
    let text := credentials.username ++ ":" ++ credentials.password
    some ("Basic " ++ String.ofList (Base64.encode (Utf8.encode text.toList)))

end Credentials

namespace Http

/-- Where requests go. -/
structure Endpoint where
  /-- The address, without slashes at its end. -/
  base : String
  credentials : Credentials
  deriving DecidableEq

/-- The endpoint at an address, whose last slashes do not count. -/
def Endpoint.ofUrl (url : String) (credentials : Credentials) : Endpoint :=
  ⟨String.ofList (Config.trimSlashes url), credentials⟩

/-- A request as it is sent. -/
structure Message where
  method : Method
  url : Url
  authorization : Option String
  /-- The text of a JSON body. -/
  body : Option String

/-- Whether a path is an address by itself. -/
def isAbsolute (path : List Char) : Bool :=
  match path with
  | 'h' :: 't' :: 't' :: 'p' :: ':' :: '/' :: '/' :: _ => true
  | 'h' :: 't' :: 't' :: 'p' :: 's' :: ':' :: '/' :: '/' :: _ => true
  | _ => false

/-- The address that a path names under a base. -/
def join (base path : String) : String :=
  if isAbsolute path.toList then path
  else if path.toList.head? = some '/' then base ++ path
  else base ++ "/" ++ path

/-- The address of a request, if it is one of the web that a request can be sent to. -/
def Endpoint.url? (endpoint : Endpoint) (request : Request) : Option Url :=
  match Url.read? (join endpoint.base request.path) with
  | none => none
  | some found =>
    let url := found.withPairs request.query
    if url.isSendable then some url else none

/-- The message of a request, if it has an address. -/
def Endpoint.message? (endpoint : Endpoint) (request : Request) : Option Message :=
  (endpoint.url? request).map fun url =>
    { method := request.method
      url := url
      authorization := endpoint.credentials.authorization?
      body := request.body.map Json.compact }

/-- What comes back for a message. -/
inductive Delivery where
  | answered (status : Nat) (body : List Nat)
  /-- No connection was made. -/
  | refused
  /-- The connection ended without an answer. -/
  | dropped
  /-- There was no answer in time. -/
  | late

/-- The body of an answer: nothing where it is blank, and a text where it is no JSON. -/
def readBody (octets : List Nat) : Json :=
  let text := String.ofList (Utf8.decodeLossy octets)
  if text.toList.all CharacterClass.isSpace then
    .null
  else
    match Json.read text with
    | .ok value => value
    | .error _ => .text text

/-- What the caller sees of a delivery. -/
def Delivery.outcome : Delivery → Outcome
  | .answered status body => .ok ⟨status, readBody body⟩
  | .refused => .error (.http "connection error")
  | .dropped => .error (.http "request error")
  | .late => .error (.http "request timed out")

/-- The outcome of a request where a network delivers its message. -/
def Endpoint.send (endpoint : Endpoint) (network : Message → Delivery)
    (request : Request) : Outcome :=
  match endpoint.message? request with
  | some message => (network message).outcome
  | none => .error (.http "request error")

end Http

end TokenRelay
