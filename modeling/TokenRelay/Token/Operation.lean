import TokenRelay.Notification

/-!
# Token operations

What callers ask for and what they get back.
-/

namespace TokenRelay

/-- The order to create a pool. -/
structure CreatePool where
  kind : PoolKind
  operator : String
  data : Option String
  requestId : Option String
  deriving DecidableEq

/-- The wire form of a pool's creation. -/
def CreatePool.codec : Codec CreatePool :=
  ((((Columns.build CreatePool.mk
    |>.column (.required "type" PoolKind.codec) (·.kind))
    |>.column (.required "operator" .text) (·.operator))
    |>.column (.optional "data" .text) (·.data))
    |>.column (.optional "requestId" .text) (·.requestId)).codec "TokenPool"

/-- Listen to a pool, from the block of a transaction on. -/
structure ActivatePool where
  poolId : String
  transaction : Option Locator
  deriving DecidableEq

/-- The wire form of a pool's activation. -/
def ActivatePool.codec : Codec ActivatePool :=
  ((Columns.build ActivatePool.mk
    |>.column (.required "poolId" .text) (·.poolId))
    |>.column (.optional "transaction" Locator.codec) (·.transaction)).codec
    "TokenPoolActivate"

/-- The order to mint tokens of a pool for a receiver. -/
structure Mint where
  poolId : String
  receiver : String
  amount : String
  operator : String
  data : Option String
  requestId : Option String
  deriving DecidableEq

/-- The wire form of a mint. -/
def Mint.codec : Codec Mint :=
  ((((((Columns.build Mint.mk
    |>.column (.required "poolId" .text) (·.poolId))
    |>.column (.required "to" .text) (·.receiver))
    |>.column (.required "amount" .text) (·.amount))
    |>.column (.required "operator" .text) (·.operator))
    |>.column (.optional "data" .text) (·.data))
    |>.column (.optional "requestId" .text) (·.requestId)).codec "TokenMint"

/-- The order to burn tokens of a sender. -/
structure Burn where
  poolId : String
  tokenIndex : Option String
  sender : String
  amount : String
  operator : String
  data : Option String
  requestId : Option String
  deriving DecidableEq

/-- The wire form of a burn. -/
def Burn.codec : Codec Burn :=
  (((((((Columns.build Burn.mk
    |>.column (.required "poolId" .text) (·.poolId))
    |>.column (.optional "tokenIndex" .text) (·.tokenIndex))
    |>.column (.required "from" .text) (·.sender))
    |>.column (.required "amount" .text) (·.amount))
    |>.column (.required "operator" .text) (·.operator))
    |>.column (.optional "data" .text) (·.data))
    |>.column (.optional "requestId" .text) (·.requestId)).codec "TokenBurn"

/-- Move tokens between accounts. -/
structure Transfer where
  poolId : String
  tokenIndex : Option String
  sender : String
  receiver : String
  amount : String
  operator : String
  data : Option String
  requestId : Option String
  deriving DecidableEq

/-- The wire form of a transfer. -/
def Transfer.codec : Codec Transfer :=
  ((((((((Columns.build Transfer.mk
    |>.column (.required "poolId" .text) (·.poolId))
    |>.column (.optional "tokenIndex" .text) (·.tokenIndex))
    |>.column (.required "from" .text) (·.sender))
    |>.column (.required "to" .text) (·.receiver))
    |>.column (.required "amount" .text) (·.amount))
    |>.column (.required "operator" .text) (·.operator))
    |>.column (.optional "data" .text) (·.data))
    |>.column (.optional "requestId" .text) (·.requestId)).codec "TokenTransfer"

/-- Ask for an account's balance. -/
structure BalanceQuery where
  poolId : String
  tokenIndex : Option String
  account : String
  deriving DecidableEq

/-- The wire form of a balance query. -/
def BalanceQuery.codec : Codec BalanceQuery :=
  (((Columns.build BalanceQuery.mk
    |>.column (.required "poolId" .text) (·.poolId))
    |>.column (.optional "tokenIndex" .text) (·.tokenIndex))
    |>.column (.required "account" .text) (·.account)).codec "TokenBalanceQuery"

/-- An account's balance. -/
structure Balance where
  balance : String
  deriving DecidableEq

/-- The wire form of a balance. -/
def Balance.codec : Codec Balance :=
  (Columns.build Balance.mk
    |>.column (.required "balance" .text) (·.balance)).codec "TokenBalance"

/-- An operation was submitted under an id. -/
structure Submitted where
  id : String
  deriving DecidableEq

/-- The wire form of a submitted operation. -/
def Submitted.codec : Codec Submitted :=
  (Columns.build Submitted.mk
    |>.column (.required "id" .text) (·.id)).codec "AsyncResponse"

end TokenRelay
