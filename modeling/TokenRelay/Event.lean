import TokenRelay.Json.Codec

/-!
# What the feed carries

A chain event is one log entry of a contract, decoded by the connector: its `data`
depends on the event's signature.  A reply is the result of an operation that was
submitted before.
-/

namespace TokenRelay

/-- Where on the chain an event happened. -/
structure Locator where
  blockNumber : String
  transactionIndex : String
  transactionHash : String
  logIndex : String
  deriving DecidableEq

/-- The wire form of a locator. -/
def Locator.codec : Codec Locator :=
  ((((Columns.build Locator.mk
    |>.column (.required "blockNumber" .text) (·.blockNumber))
    |>.column (.required "transactionIndex" .text) (·.transactionIndex))
    |>.column (.required "transactionHash" .text) (·.transactionHash))
    |>.column (.defaulted "logIndex" "" .text) (·.logIndex)).codec
    "TransactionLocator"

/-- One log entry of a contract. -/
structure ChainEvent where
  /-- The subscription that matched the entry. -/
  subscription : String
  signature : String
  address : String
  blockNumber : String
  /-- In base ten, or in base sixteen behind `0x`. -/
  transactionIndex : String
  transactionHash : String
  logIndex : String
  timestamp : Option String
  data : Json
  inputMethod : Option String
  inputArguments : Option Json

namespace ChainEvent

/-- The wire form of a chain event. -/
def codec : Codec ChainEvent :=
  (((((((((((Columns.build ChainEvent.mk
    |>.column (.required "subId" .text) (·.subscription))
    |>.column (.required "signature" .text) (·.signature))
    |>.column (.defaulted "address" "" .text) (·.address))
    |>.column (.required "blockNumber" .text) (·.blockNumber))
    |>.column (.required "transactionIndex" .text) (·.transactionIndex))
    |>.column (.required "transactionHash" .text) (·.transactionHash))
    |>.column (.defaulted "logIndex" "" .text) (·.logIndex))
    |>.column (.optional "timestamp" .text) (·.timestamp))
    |>.column (.defaulted "data" .null .json) (·.data))
    |>.column (.optional "inputMethod" .text) (·.inputMethod))
    |>.column (.optional "inputArgs" .json) (·.inputArguments)).codec "RawChainEvent"

/-- Where on the chain the event happened. -/
def locator (event : ChainEvent) : Locator :=
  ⟨event.blockNumber, event.transactionIndex, event.transactionHash, event.logIndex⟩

/-- The `data` argument of the transaction behind the event. -/
def inputData (event : ChainEvent) : Option String :=
  ((event.inputArguments.bind (·.field? "data")).bind Json.text?)

end ChainEvent

/-- What a reply says of itself. -/
structure ReplyHeaders where
  kind : String
  /-- The id that was returned when the operation was submitted. -/
  requestId : String
  deriving DecidableEq

/-- The wire form of reply headers. -/
def ReplyHeaders.codec : Codec ReplyHeaders :=
  ((Columns.build ReplyHeaders.mk
    |>.column (.required "type" .text) (·.kind))
    |>.column (.defaulted "requestId" "" .text) (·.requestId)).codec "ReplyHeaders"

/-- The result of a submitted operation. -/
structure Reply where
  headers : ReplyHeaders
  transactionHash : Option String
  errorMessage : Option String
  deriving DecidableEq

namespace Reply

/-- The wire form of a reply. -/
def codec : Codec Reply :=
  (((Columns.build Reply.mk
    |>.column (.required "headers" ReplyHeaders.codec) (·.headers))
    |>.column (.optional "transactionHash" .text) (·.transactionHash))
    |>.column (.optional "errorMessage" .text) (·.errorMessage)).codec
    "EventStreamReply"

/-- The kind of the reply to an operation that succeeded. -/
def successKind : String := "TransactionSuccess"

/-- Whether the operation succeeded. -/
def isSuccess (reply : Reply) : Bool :=
  reply.headers.kind = successKind

end Reply

/-- Events that are acknowledged as a unit. -/
abbrev Batch := List ChainEvent

end TokenRelay
