import TokenRelay.Payload
import TokenRelay.Stream.Baseline
import TokenRelay.Token.Operation

/-!
# The token service

A service belongs to a configuration and the stream of its topic; it is made by creating
the baseline or by attaching to a stream that is there.  Each operation first makes its
request, which may be refused without a word to the connector, and then submits it.
-/

namespace TokenRelay

/-- A configuration with the stream of its topic. -/
structure Service where
  config : Config
  stream : EventStream

namespace Service

variable {σ : Type}

/-! ## Making a service -/

/-- Create the baseline. -/
def init (config : Config) : Task σ Service := do
  return ⟨config, ← Stream.init config.topic config.instancePath⟩

/-- Attach to the stream of the topic. -/
def attach (config : Config) : Task σ Service := do
  match ← Stream.findStream config.topic with
  | some stream => return ⟨config, stream⟩
  | none => throw (.notFound ("event stream '" ++ config.topic ++ "'"))

/-- Reconcile, then create the baseline or attach. -/
def start (config : Config) : Task σ (Service × Option Reconcile.Result) := do
  let result ← Reconcile.runAtStartup config.topic config.instancePath
  let service ← if config.autoInit then init config else attach config
  return (service, result)

/-! ## Requests -/

/-- Where the connector takes calls of a method of the contract. -/
def methodPath (config : Config) (method : String) : String :=
  config.instancePath ++ "/" ++ method

/-- A transaction: who sends it, that its result comes later, and under which id. -/
def submission (config : Config) (method : String) (body : Json) (operator : String)
    (requestId : Option String) : Request :=
  let stem := config.queryStem
  let id := match requestId with
    | some id => [(stem ++ "-id", id)]
    | none => []
  .post (methodPath config method)
    ([(stem ++ "-from", operator), (stem ++ "-sync", "false")] ++ id) body

/-- The data of an operation as a payload; without data it is the empty one. -/
def payload (data : Option String) : Json :=
  .text (Payload.encode (data.getD ""))

/-- The request that creates a pool of a kind. -/
def createRequest (config : Config) (pool : CreatePool) : Request :=
  submission config "create"
    (Json.ofFields
      [("is_fungible", .boolean (pool.kind = .fungible)), ("data", payload pool.data)])
    pool.operator pool.requestId

/-- The most tokens that one mint of a non-fungible pool may make. -/
def mintLimit : Nat := 1000

/-- The number of tokens that a mint of a non-fungible pool asks for. -/
def mintCount (amount : String) : Except RequestFault Nat :=
  match Numeral.readUnsigned (Nat.pow 2 64) amount.toList with
  | .error _ => .error (.mintAmount amount)
  | .ok count =>
    if mintLimit < count then .error (.mintCount count mintLimit) else .ok count

/-- The request that mints tokens; a non-fungible pool lists the receiver once a token. -/
def mintRequest (config : Config) (mint : Mint) : Except BridgeError Request :=
  match Pool.ofText? mint.poolId, TokenId.pack mint.poolId none with
  | none, _ => .error (.id (.pool mint.poolId))
  | some _, .error error => .error (.id error)
  | some pool, .ok typeId =>
    match pool.kind with
    | .fungible =>
      .ok (submission config "mintFungible"
        (Json.ofFields
          [("type_id", .text typeId), ("to", .array [.text mint.receiver]),
            ("amounts", .array [.text mint.amount]), ("data", payload mint.data)])
        mint.operator mint.requestId)
    | .nonFungible =>
      match mintCount mint.amount with
      | .error fault => .error (.invalidRequest fault)
      | .ok count =>
        .ok (submission config "mintNonFungible"
          (Json.ofFields
            [("type_id", .text typeId),
              ("to", .array (List.replicate count (.text mint.receiver))),
              ("data", payload mint.data)])
          mint.operator mint.requestId)

/-- The request that burns tokens of a holder; only its id can be at fault. -/
def burnRequest (config : Config) (burn : Burn) : Except BridgeError Request :=
  match TokenId.pack burn.poolId burn.tokenIndex with
  | .error error => .error (.id error)
  | .ok id =>
    .ok (submission config "burn"
      (Json.ofFields
        [("from", .text burn.sender), ("id", .text id), ("amount", .text burn.amount),
          ("data", payload burn.data)])
      burn.operator burn.requestId)

/-- The request that moves tokens to a receiver; only its id can be at fault. -/
def transferRequest (config : Config) (transfer : Transfer) : Except BridgeError Request :=
  match TokenId.pack transfer.poolId transfer.tokenIndex with
  | .error error => .error (.id error)
  | .ok id =>
    .ok (submission config "safeTransferFrom"
      (Json.ofFields
        [("from", .text transfer.sender), ("to", .text transfer.receiver),
          ("id", .text id), ("amount", .text transfer.amount),
          ("data", payload transfer.data)])
      transfer.operator transfer.requestId)

/-- The request for the balance of an account; only its id can be at fault. -/
def balanceRequest (config : Config) (query : BalanceQuery) :
    Except BridgeError Request :=
  match TokenId.pack query.poolId query.tokenIndex with
  | .error error => .error (.id error)
  | .ok id =>
    .ok (.get (methodPath config "balanceOf") [("account", query.account), ("id", id)])

/-! ## Operations -/

/-- Send a request unless it could not be built, and read the id of the submission. -/
def submit (request : Except BridgeError Request) : Task σ Submitted :=
  match request with
  | .error error => throw error
  | .ok request => do
    let accepted ← Task.sendFor Submission.codec request
    return ⟨accepted.id⟩

/-- Submit the creation of a pool. -/
def createPool (service : Service) (pool : CreatePool) : Task σ Submitted :=
  submit (.ok (createRequest service.config pool))

/-- Submit the minting of tokens; an order at fault sends nothing. -/
def mint (service : Service) (mint : Mint) : Task σ Submitted :=
  submit (mintRequest service.config mint)

/-- Submit the burning of tokens; an order at fault sends nothing. -/
def burn (service : Service) (burn : Burn) : Task σ Submitted :=
  submit (burnRequest service.config burn)

/-- Submit the move of tokens; an order at fault sends nothing. -/
def transfer (service : Service) (transfer : Transfer) : Task σ Submitted :=
  submit (transferRequest service.config transfer)

/-- Ask for the balance of an account; a query at fault sends nothing. -/
def balance (service : Service) (query : BalanceQuery) : Task σ Balance :=
  match balanceRequest service.config query with
  | .error error => throw error
  | .ok request => do
    let result ← Task.sendFor QueryResult.codec request
    return ⟨result.output⟩

/-- Fetch the reply to a submitted operation. -/
def getReceipt (id : String) : Task σ Reply :=
  Task.sendFor Reply.codec (.get ("/reply/" ++ id) [])

/-! ## Activation -/

/-- The wish for the subscription of a pool to one event. -/
def poolWish (service : Service) (pool : String) (event : PoolEvent)
    (fromBlock : String) : Stream.Wish :=
  { instancePath := service.config.instancePath
    stream := service.stream.id
    event := event.name
    name := SubscriptionName.pack service.config.topic pool (some event.name)
    fromBlock := fromBlock }

/-- The block from which a pool is listened to. -/
def activationBlock (activation : ActivatePool) : String :=
  match activation.transaction with
  | some transaction => transaction.blockNumber
  | none => "0"

/--
The subscriptions that activate a pool, one for each event.  They are made at the same
time: each is started in order and runs until it has to wait, and the first failure ends
them all.
-/
def activation (service : Service) (activation : ActivatePool) :
    Except BridgeError (List (Task σ Subscription)) :=
  match Pool.ofText? activation.poolId with
  | none => .error (.id (.pool activation.poolId))
  | some _ =>
    .ok (PoolEvent.all.map fun event =>
      Stream.getOrCreateSubscription
        (service.poolWish activation.poolId event (activationBlock activation)))

end Service

end TokenRelay
