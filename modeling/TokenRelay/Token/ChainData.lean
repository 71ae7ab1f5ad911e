import TokenRelay.Json.Codec

/-!
# The data of contract events

Three events concern tokens: the creation of a pool, a single transfer and a batch of
transfers.  Mints and burns are transfers from or to the zero address.
-/

namespace TokenRelay

/-- The events of the contract that a pool subscribes to. -/
inductive PoolEvent where
  | create
  | single
  | batch
  deriving DecidableEq

namespace PoolEvent

/-- The name of an event, used in paths and subscription names. -/
def name : PoolEvent → String
  | .create => "TokenCreate"
  | .single => "TransferSingle"
  | .batch => "TransferBatch"

/-- The signature under which an event arrives. -/
def signature : PoolEvent → String
  | .create => "TokenCreate(address,uint256,bytes)"
  | .single => "TransferSingle(address,address,address,uint256,uint256)"
  | .batch => "TransferBatch(address,address,address,uint256[],uint256[])"

/-- All events of a pool, in the order in which they are subscribed. -/
def all : List PoolEvent :=
  [.create, .single, .batch]

/-- The event of a signature, unless the contract has none of it. -/
def ofSignature? (signature : String) : Option PoolEvent :=
  all.find? fun event => event.signature = signature

end PoolEvent

/-- The sender of minted tokens and the receiver of burnt ones. -/
def zeroAddress : String := "0x0000000000000000000000000000000000000000"

/-- A letter of the base alphabet in lower case. -/
def lowerAscii (char : Char) : Char :=
  if 65 ≤ char.toNat ∧ char.toNat ≤ 90 then Char.ofNat (char.toNat + 32) else char

/-- Whether an address is the zero address, in letters of either case. -/
def isZeroAddress (address : String) : Bool :=
  address.toList.map lowerAscii = zeroAddress.toList

/-- The data of a pool's creation. -/
structure CreateData where
  operator : String
  typeId : String
  data : String
  deriving DecidableEq

/-- The wire form of a creation's data. -/
def CreateData.codec : Codec CreateData :=
  (((Columns.build CreateData.mk
    |>.column (.required "operator" .text) (·.operator))
    |>.column (.required "type_id" .text) (·.typeId))
    |>.column (.defaulted "data" "" .text) (·.data)).codec "TokenCreateData"

/-- The data of an event that moves tokens of one id. -/
structure TransferData where
  sender : String
  receiver : String
  operator : String
  id : String
  value : String
  deriving DecidableEq

/-- The wire form of a transfer's data. -/
def TransferData.codec : Codec TransferData :=
  (((((Columns.build TransferData.mk
    |>.column (.required "from" .text) (·.sender))
    |>.column (.required "to" .text) (·.receiver))
    |>.column (.required "operator" .text) (·.operator))
    |>.column (.required "id" .text) (·.id))
    |>.column (.required "value" .text) (·.value)).codec "TransferSingleData"

/-- The data of an event that moves tokens of several ids, each with its own value. -/
structure BatchData where
  sender : String
  receiver : String
  operator : String
  ids : List String
  values : List String
  deriving DecidableEq

namespace BatchData

/-- The wire form of a batch's data. -/
def codec : Codec BatchData :=
  (((((Columns.build BatchData.mk
    |>.column (.required "from" .text) (·.sender))
    |>.column (.required "to" .text) (·.receiver))
    |>.column (.required "operator" .text) (·.operator))
    |>.column (.required "ids" (.list .text)) (·.ids))
    |>.column (.required "values" (.list .text)) (·.values)).codec "TransferBatchData"

/-- The transfers of a batch; ids without a value and values without an id are dropped. -/
def split (batch : BatchData) : List TransferData :=
  (batch.ids.zip batch.values).map fun (id, value) =>
    ⟨batch.sender, batch.receiver, batch.operator, id, value⟩

end BatchData

end TokenRelay
