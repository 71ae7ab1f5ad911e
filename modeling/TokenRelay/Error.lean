import TokenRelay.Json.Fault
import TokenRelay.Token.Id

/-!
# Failures

A `TransportError` is the failure of one round trip to the connector; a status other
than success counts as one.  A `BridgeError` is what callers see.  Both say what
happened, and their words are made in one place each.
-/

namespace TokenRelay

/-- The failure of one round trip. -/
inductive TransportError where
  /-- No answer over HTTP. -/
  | http (text : String)
  /-- An answer with a status other than success. -/
  | status (code : Nat) (body : String)
  | webSocket (text : String)
  | deserialization (text : String)
  | other (text : String)
  deriving DecidableEq

namespace TransportError

/-- The words in which a failure is reported, and which a retry condition is held against. -/
def message : TransportError → String
  | .http text => "HTTP error: " ++ text
  | .status code body => "HTTP " ++ Numeral.text code ++ ": " ++ body
  | .webSocket text => "WebSocket error: " ++ text
  | .deserialization text => "Deserialization error: " ++ text
  | .other text => text

/-- The status, where the connector answered at all. -/
def statusCode? : TransportError → Option Nat
  | .status code _ => some code
  | _ => none

/-- Whether the connector answered that there is no such thing. -/
def isNotFound (error : TransportError) : Bool :=
  error.statusCode? = some 404

end TransportError

/-- Why a configuration is refused. -/
inductive ConfigFault where
  | noConnectorUrl
  | emptyTopic
  | pingTimeout (timeout interval : Nat)
  | shrinkingRetry
  | retryCondition
  | stated (words : String)
  deriving DecidableEq

/-- The words in which a fault is reported. -/
def ConfigFault.message : ConfigFault → String
  | .noConnectorUrl => "connector_url is required"
  | .emptyTopic => "topic must not be empty"
  | .pingTimeout timeout interval =>
    "ping timeout (" ++ Numeral.text timeout ++
      "ms) must be longer than ping interval (" ++ Numeral.text interval ++ "ms)"
  | .shrinkingRetry => "retry factor must be >= 1.0"
  | .retryCondition => "invalid retry condition"
  | .stated words => words

/-- Why a request cannot be made into a call of the connector. -/
inductive RequestFault where
  | mintAmount (amount : String)
  | mintCount (count limit : Nat)
  | stated (words : String)
  deriving DecidableEq

/-- The words in which a fault is reported. -/
def RequestFault.message : RequestFault → String
  | .mintAmount amount =>
    "non-fungible mint amount must be a whole number, got '" ++ amount ++ "'"
  | .mintCount count limit =>
    "non-fungible mint amount " ++ Numeral.text count ++ " exceeds " ++
      Numeral.text limit
  | .stated words => words

/-- A failure that callers see. -/
inductive BridgeError where
  /-- Every attempt failed in a way that was worth another one. -/
  | unavailable (attempts : Nat) (last : TransportError)
  /-- An attempt failed in a way that is not. -/
  | rejected (cause : TransportError)
  | notFound (resource : String)
  | id (error : IdError)
  | invalidRequest (fault : RequestFault)
  | deserialization (fault : DataFault)
  | config (fault : ConfigFault)

namespace BridgeError

/-- The words in which a failure is reported. -/
def message : BridgeError → String
  | .unavailable attempts last =>
    "Connector unavailable after " ++ Numeral.text attempts ++ " attempts: " ++
      last.message
  | .rejected cause => "Connector rejected request: " ++ cause.message
  | .notFound resource => "Not found: " ++ resource
  | .id (.pool value) => "Invalid pool id '" ++ value ++ "'"
  | .id (.token value fault) =>
    "Invalid token id '" ++ value ++ "': " ++ fault.message
  | .invalidRequest fault => "Invalid request: " ++ fault.message
  | .deserialization fault => "Deserialization error: " ++ fault.message
  | .config fault => "Configuration error: " ++ fault.message

/-- What lies behind a failure, the nearest cause first. -/
def causes : BridgeError → List String
  | .rejected (.deserialization text) =>
    [(TransportError.deserialization text).message, text]
  | .rejected cause => [cause.message]
  | .deserialization fault => [fault.message]
  | _ => []

/-- Whether the connector could not be reached. -/
def isUnavailable : BridgeError → Bool
  | .unavailable _ _ => true
  | _ => false

/-- Whether the connector refused the call, so that trying again will not help. -/
def isRejected : BridgeError → Bool
  | .rejected _ => true
  | _ => false

/-- Whether what was asked for does not exist. -/
def isNotFound : BridgeError → Bool
  | .notFound _ => true
  | _ => false

end BridgeError

end TokenRelay
