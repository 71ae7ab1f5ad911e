import TokenRelay.Event
import TokenRelay.Token.Id

/-!
# Notifications

What subscribers receive: the creation of a pool, the mint, burn or transfer of
tokens, or the receipt of a submitted operation.  A notification is written as a tag
under `event` and its content under `data`; it is read in that form or as the pair of
tag and content.
-/

namespace TokenRelay

/-- The kinds of pools by the names that notifications use. -/
def PoolKind.names : List (String × PoolKind) :=
  [("fungible", .fungible), ("nonfungible", .nonFungible)]

/-- The name of a kind in a notification. -/
def PoolKind.name : PoolKind → String
  | .fungible => "fungible"
  | .nonFungible => "nonfungible"

/-- The wire form of a pool kind. -/
def PoolKind.codec : Codec PoolKind :=
  .choice PoolKind.names PoolKind.name

/-- A pool was created on the chain. -/
structure PoolCreated where
  standard : String
  kind : PoolKind
  poolId : String
  operator : String
  data : String
  transaction : Locator
  deriving DecidableEq

/-- The wire form of a pool creation. -/
def PoolCreated.codec : Codec PoolCreated :=
  ((((((Columns.build PoolCreated.mk
    |>.column (.required "standard" .text) (·.standard))
    |>.column (.required "type" PoolKind.codec) (·.kind))
    |>.column (.required "poolId" .text) (·.poolId))
    |>.column (.required "operator" .text) (·.operator))
    |>.column (.required "data" .text) (·.data))
    |>.column (.required "transaction" Locator.codec) (·.transaction)).codec
    "TokenPoolEvent"

/-- Tokens moved: a mint has only a receiver, a burn only a sender, a transfer both. -/
structure TokenMove where
  /-- Block, transaction index and log index, and the position within a batch. -/
  id : String
  poolId : String
  tokenIndex : Option String
  uri : String
  sender : Option String
  receiver : Option String
  amount : String
  operator : String
  data : String
  transaction : Locator
  deriving DecidableEq

/-- The wire form of a token move. -/
def TokenMove.codec : Codec TokenMove :=
  ((((((((((Columns.build TokenMove.mk
    |>.column (.required "id" .text) (·.id))
    |>.column (.required "poolId" .text) (·.poolId))
    |>.column (.optional "tokenIndex" .text) (·.tokenIndex))
    |>.column (.required "uri" .text) (·.uri))
    |>.column (.optional "from" .text) (·.sender))
    |>.column (.optional "to" .text) (·.receiver))
    |>.column (.required "amount" .text) (·.amount))
    |>.column (.required "operator" .text) (·.operator))
    |>.column (.required "data" .text) (·.data))
    |>.column (.required "transaction" Locator.codec) (·.transaction)).codec
    "TokenTransferEvent"

/-- The outcome of a submitted operation. -/
structure Receipt where
  id : String
  success : Bool
  message : Option String
  deriving DecidableEq

/-- The wire form of a receipt. -/
def Receipt.codec : Codec Receipt :=
  (((Columns.build Receipt.mk
    |>.column (.required "id" .text) (·.id))
    |>.column (.required "success" .boolean) (·.success))
    |>.column (.optional "message" .text) (·.message)).codec "ReceiptEvent"

/-- A message to subscribers. -/
inductive Notification where
  | poolCreated (content : PoolCreated)
  | mint (content : TokenMove)
  | burn (content : TokenMove)
  | transfer (content : TokenMove)
  | receipt (content : Receipt)
  deriving DecidableEq

namespace Notification

/-- What a notification tells of. -/
inductive Kind where
  | poolCreated
  | mint
  | burn
  | transfer
  | receipt
  deriving DecidableEq

/-- What this notification tells of. -/
def kind : Notification → Kind
  | .poolCreated _ => .poolCreated
  | .mint _ => .mint
  | .burn _ => .burn
  | .transfer _ => .transfer
  | .receipt _ => .receipt

/-- The kinds by their tags in the wire form. -/
def tags : List (String × Kind) :=
  [("token-pool", .poolCreated), ("token-mint", .mint), ("token-burn", .burn),
    ("token-transfer", .transfer), ("receipt", .receipt)]

/-- The tag of a kind in the wire form. -/
def Kind.tag : Kind → String
  | .poolCreated => "token-pool"
  | .mint => "token-mint"
  | .burn => "token-burn"
  | .transfer => "token-transfer"
  | .receipt => "receipt"

/-- The tag that a notification is written with. -/
def eventName (notification : Notification) : String :=
  notification.kind.tag

/-- The pool that a notification concerns; a receipt concerns none. -/
def poolId : Notification → Option String
  | .poolCreated content => some content.poolId
  | .mint content => some content.poolId
  | .burn content => some content.poolId
  | .transfer content => some content.poolId
  | .receipt _ => none

/-- The name of the type in reports of faults. -/
def typeName : String := "Notification"

/-- Read the content that belongs to a kind. -/
def decodeContent (kind : Kind) : Decoder Notification := fun hold content =>
  match kind with
  | .poolCreated => (PoolCreated.codec.decode hold content).map .poolCreated
  | .mint => (TokenMove.codec.decode hold content).map .mint
  | .burn => (TokenMove.codec.decode hold content).map .burn
  | .transfer => (TokenMove.codec.decode hold content).map .transfer
  | .receipt => (Receipt.codec.decode hold content).map .receipt

/-- The wire form of what stands beneath the tag. -/
def encodeContent : Notification → Json
  | .poolCreated content => PoolCreated.codec.encode content
  | .mint content => TokenMove.codec.encode content
  | .burn content => TokenMove.codec.encode content
  | .transfer content => TokenMove.codec.encode content
  | .receipt content => Receipt.codec.encode content

/--
Read a notification.  The content of an object is held back until the tag is known; in an
array the tag comes first and is a text.
-/
def decode : Decoder Notification := fun hold value =>
  match value with
  | .object fields =>
    match Json.lookup "event" fields with
    | none => .error (.missingField "event")
    | some tag =>
      match Codec.decodeTag tags hold tag with
      | .error fault => .error fault
      | .ok kind =>
        match Json.lookup "data" fields with
        | none => .error (.missingField "data")
        | some content => decodeContent kind .held content
  | .array [] => .error (.shortTagged 0 typeName)
  | .array (tag :: rest) =>
    match Codec.decodeTagText tags tag with
    | .error fault => .error fault
    | .ok kind =>
      match rest with
      | [] => .error (.shortTagged 1 typeName)
      | content :: others =>
        match decodeContent kind hold content with
        | .error fault => .error fault
        | .ok found =>
          if others.isEmpty then
            .ok found
          else
            .error (Columns.overlong hold (others.length + 2) 2)
  | other => .error (.invalidType other.found (.tagged typeName))

/-- The wire form: the tag and, beside it, the content. -/
def encode (notification : Notification) : Json :=
  .object [("event", .text notification.eventName), ("data", encodeContent notification)]

/-- The wire form of a notification. -/
def codec : Codec Notification where
  decode := decode
  encode := encode

end Notification

end TokenRelay
