import TokenRelay.Json.Codec

/-!
# Event streams and subscriptions

A stream is a named channel at the connector; a subscription binds one event of a
contract to a stream.
-/

namespace TokenRelay

/-- A channel on which the connector delivers events. -/
structure EventStream where
  id : String
  name : String
  batchSize : Option Nat
  batchTimeout : Option Nat
  deriving DecidableEq

/-- The wire form of a stream. -/
def EventStream.codec : Codec EventStream :=
  ((((Columns.build EventStream.mk
    |>.column (.required "id" .text) (·.id))
    |>.column (.required "name" .text) (·.name))
    |>.column (.optional "batchSize" .word32) (·.batchSize))
    |>.column (.optional "batchTimeoutMS" .word64) (·.batchTimeout)).codec "EventStream"

/-- One event of a contract, bound to a stream. -/
structure Subscription where
  id : String
  name : String
  stream : String
  fromBlock : Option String
  deriving DecidableEq

/-- The wire form of a subscription. -/
def Subscription.codec : Codec Subscription :=
  ((((Columns.build Subscription.mk
    |>.column (.required "id" .text) (·.id))
    |>.column (.required "name" .text) (·.name))
    |>.column (.required "stream" .text) (·.stream))
    |>.column (.optional "fromBlock" .text) (·.fromBlock)).codec
    "EventStreamSubscription"

end TokenRelay
