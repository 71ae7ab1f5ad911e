import TokenRelay.Connector.Procedure
import TokenRelay.Notification
import TokenRelay.Payload
import TokenRelay.Subscription.Name
import TokenRelay.Token.ChainData

/-!
# From chain events to notifications

A listener belongs to a topic.  It reads the event's data by its signature and drops what
is not meant for the subscription: an event of another pool, a transfer from nobody to
nobody, and whatever cannot be read.  It never fails.

A token's URI comes from the contract's template, which is fetched when it is first
needed and then kept; while it cannot be fetched URIs are empty.
-/

namespace TokenRelay

/-- Who turns the events of a topic into notifications. -/
structure Listener where
  topic : String
  instancePath : String
  deriving DecidableEq

namespace Listener

/-- What a listener keeps: the URI template once it is known. -/
abbrev Memory := Option String

/-- The standard that pools are reported under. -/
def tokenStandard : String := "ERC20"

/-- The number that a text denotes in base ten, or in base sixteen behind `0x`. -/
def readIndex? (text : String) : Option Nat :=
  let found := match text.toList with
    | '0' :: 'x' :: digits => Word.readHex digits
    | '0' :: 'X' :: digits => Word.readHex digits
    | digits => Word.readDecimal digits
  match found with
  | .ok value => some value
  | .error _ => none

/-- The notification of a new pool, if the subscription is one that hears of it. -/
def poolCreated? (name : SubscriptionName) (event : ChainEvent) : Option Notification :=
  match CreateData.codec.read event.data with
  | .error _ => none
  | .ok data =>
    match TokenId.unpack data.typeId with
    | .error _ => none
    | .ok id =>
      let pool := id.pool.text
      if name.isBase || name.pool = some pool then
        some (.poolCreated
          { standard := tokenStandard
            kind := id.pool.kind
            poolId := pool
            operator := data.operator
            data := Payload.decode data.data
            transaction := event.locator })
      else
        none

/-- The id of a transfer: its place on the chain, and within a batch its position. -/
def transferId (event : ChainEvent) (index : Nat) (position : Option Nat) : String :=
  let base :=
    event.blockNumber ++ "." ++ Numeral.text index ++ "." ++ event.logIndex
  match position with
  | some found => base ++ "." ++ Numeral.text found
  | none => base

/-- A transfer that concerns a subscription. -/
structure Accepted where
  id : TokenId
  index : Nat
  deriving DecidableEq

/-- What makes a transfer concern a subscription. -/
def accept? (name : SubscriptionName) (event : ChainEvent) (data : TransferData) :
    Option Accepted :=
  match TokenId.unpack data.id with
  | .error _ => none
  | .ok id =>
    if name.pool ≠ some id.pool.text then
      none
    else if isZeroAddress data.sender && isZeroAddress data.receiver then
      none
    else
      (readIndex? event.transactionIndex).map fun index => ⟨id, index⟩

/-- The notification of an accepted transfer with a given URI. -/
def moved (event : ChainEvent) (data : TransferData) (position : Option Nat)
    (accepted : Accepted) (uri : String) : Notification :=
  let move (sender receiver : Option String) : TokenMove :=
    { id := transferId event accepted.index position
      poolId := accepted.id.pool.text
      tokenIndex := accepted.id.index.map Numeral.text
      uri := uri
      sender := sender
      receiver := receiver
      amount := data.value
      operator := data.operator
      data := Payload.decode (event.inputData.getD "")
      transaction := event.locator }
  if isZeroAddress data.sender then
    .mint (move none (some data.receiver))
  else if isZeroAddress data.receiver then
    .burn (move (some data.sender) none)
  else
    .transfer (move (some data.sender) (some data.receiver))

/-- Put digits in the place of each placeholder `{id}`. -/
def fillChars (digits : List Char) : List Char → List Char
  | '\x7b' :: 'i' :: 'd' :: '\x7d' :: rest => digits ++ fillChars digits rest
  | char :: rest => char :: fillChars digits rest
  | [] => []

/-- The URI of a token id by a template; empty for a text that is no token id. -/
def fill (template id : String) : String :=
  match TokenId.uriDigits id with
  | .ok digits => String.ofList (fillChars digits.toList template.toList)
  | .error _ => ""

/-- The request for the template of uris, which is the same for every token. -/
def templateRequest (listener : Listener) : Request :=
  .get (listener.instancePath ++ "/uri") [("input", "0")]

/-- The URI of a token id; the template is fetched unless it is known. -/
def tokenUri (listener : Listener) (id : String) : Procedure Answer Memory String :=
  .recall fun known =>
    match known with
    | some template => .done (fill template id)
    | none => do
      match ← (Task.sendFor QueryResult.codec listener.templateRequest :
          Task Memory QueryResult).run with
      | .ok result =>
        .remember (fun _ => some result.output) (.done (fill result.output id))
      | .error _ => return ""

/-- The notification of a single move, unless the listener has to drop it. -/
def transformTransfer (listener : Listener) (name : SubscriptionName)
    (event : ChainEvent) (data : TransferData) (position : Option Nat) :
    Procedure Answer Memory (List Notification) :=
  match accept? name event data with
  | none => .done []
  | some accepted => do
    let uri ← listener.tokenUri data.id
    return [moved event data position accepted uri]

/-- Transform the transfers of a batch from a position on. -/
def transformTransfers (listener : Listener) (name : SubscriptionName)
    (event : ChainEvent) :
    Nat → List TransferData → Procedure Answer Memory (List Notification)
  | _, [] => .done []
  | position, data :: rest => do
    let first ← listener.transformTransfer name event data (some position)
    let others ← listener.transformTransfers name event (position + 1) rest
    return first ++ others

/-- Transform an event that arrived under a subscription's name. -/
def transform (listener : Listener) (subscription : String) (event : ChainEvent) :
    Procedure Answer Memory (List Notification) :=
  let name := SubscriptionName.unpack listener.topic subscription
  match PoolEvent.ofSignature? event.signature with
  | none => .done []
  | some .create => .done (poolCreated? name event).toList
  | some .single =>
    match TransferData.codec.read event.data with
    | .error _ => .done []
    | .ok data => listener.transformTransfer name event data none
  | some .batch =>
    match BatchData.codec.read event.data with
    | .error _ => .done []
    | .ok batch => listener.transformTransfers name event 0 batch.split

end Listener

end TokenRelay
