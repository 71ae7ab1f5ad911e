import TokenRelay.Connector.Procedure
import TokenRelay.Stream.Basic

/-!
# Managing streams and subscriptions

Streams and subscriptions are looked up in the connector's whole list.  Before anything
is created the list is read: a stream of the wanted name is patched in place of a new
one, and a subscription of the wanted name on the stream is taken as it is.
-/

namespace TokenRelay.Stream

variable {σ : Type}

/-- All streams of the connector. -/
def getStreams : Task σ (List EventStream) :=
  Task.sendFor (.list EventStream.codec) (.get "/eventstreams" [])

/-- The first stream of a name. -/
def findStream (name : String) : Task σ (Option EventStream) := do
  return (← getStreams).find? fun stream => stream.name = name

/-- What a stream for a topic is created or patched with. -/
def details (topic : String) : Json :=
  Json.ofFields
    [("name", .text topic), ("errorHandling", .text "block"),
      ("batchSize", .integer 50), ("batchTimeoutMS", .integer 500),
      ("type", .text "websocket"),
      ("websocket", Json.ofFields [("topic", .text topic)]),
      ("blockedReryDelaySec", .integer 30), ("inputs", .boolean true),
      ("timestamps", .boolean true)]

/-- Patch the stream of a topic, or create it. -/
def createOrUpdate (topic : String) : Task σ EventStream := do
  match ← findStream topic with
  | some existing =>
    Task.sendFor EventStream.codec
      (.patch ("/eventstreams/" ++ existing.id) (details topic))
  | none => Task.sendFor EventStream.codec (.post "/eventstreams" [] (details topic))

/-- Delete a stream; its subscriptions go with it. -/
def deleteStream (id : String) : Task σ Unit := do
  let _ ← Task.send (.delete ("/eventstreams/" ++ id))
  return ()

/-- All subscriptions of the connector, of whatever stream. -/
def getSubscriptions : Task σ (List Subscription) :=
  Task.sendFor (.list Subscription.codec) (.get "/subscriptions" [])

/-- The subscription of an id, if the connector knows it. -/
def getSubscription (id : String) : Task σ (Option Subscription) :=
  Task.sendForOptional Subscription.codec (.get ("/subscriptions/" ++ id) [])

/-- What a subscription is made of. -/
structure Wish where
  instancePath : String
  stream : String
  event : String
  name : String
  fromBlock : String

/-- The request that creates a subscription. -/
def Wish.request (wish : Wish) : Request :=
  .post (wish.instancePath ++ "/" ++ wish.event) []
    (Json.ofFields
      [("name", .text wish.name), ("stream", .text wish.stream),
        ("fromBlock", .text wish.fromBlock)])

/-- Create the subscription that is wished for. -/
def createSubscription (wish : Wish) : Task σ Subscription :=
  Task.sendFor Subscription.codec wish.request

/-- Whether a subscription has the name and the stream that are wished for. -/
def Wish.isMetBy (wish : Wish) (subscription : Subscription) : Bool :=
  subscription.name = wish.name && subscription.stream = wish.stream

/-- Take the wished subscription if it is there, or create it. -/
def getOrCreateSubscription (wish : Wish) : Task σ Subscription := do
  match (← getSubscriptions).find? wish.isMetBy with
  | some existing => return existing
  | none => createSubscription wish

end TokenRelay.Stream
