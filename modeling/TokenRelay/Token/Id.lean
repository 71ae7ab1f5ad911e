import TokenRelay.Text.Digits
import TokenRelay.Token.Word

/-!
# Token ids

A token id is one 256-bit word:

```text
 255 | 254 ........ 128 | 127 ......... 0
 NF  |   pool number    |   token index
```

The top bit is clear for a fungible pool and set for a non-fungible one.  A pool
is written `F` or `N` and its number; a fungible pool has no token index, and its
low half is zero.

`TokenId.toWord` and `TokenId.ofWord` are the layout over natural numbers.
`pack` and `unpack` join it to the texts that callers and the chain use.
-/

namespace TokenRelay

/-- Whether the tokens of a pool are all alike or told apart by an index. -/
inductive PoolKind where
  | fungible
  | nonFungible
  deriving DecidableEq, Repr

/-- A pool: its kind and its number within the kind. -/
structure Pool where
  kind : PoolKind
  number : Nat
  deriving DecidableEq, Repr

namespace Pool

/-- Pool numbers lie below this bound: they have 127 bits. -/
def numberCount : Nat := Nat.pow 2 127

/-- Whether the tokens of the pool are all alike. -/
def isFungible (pool : Pool) : Bool :=
  pool.kind = .fungible

/-- The letter that a pool of this kind starts with. -/
def letter : PoolKind → Char
  | .fungible => 'F'
  | .nonFungible => 'N'

/-- A pool's written form: its letter and its number. -/
def text (pool : Pool) : String :=
  String.ofList (letter pool.kind :: Numeral.decimal pool.number)

/-- The number that a pool's digits denote: digits only, at least one, in bounds. -/
def readNumber? (digits : List Char) : Option Nat :=
  if digits.isEmpty ∨ !digits.all (fun char => (Numeral.digit? char).isSome) then
    none
  else
    match Numeral.readDigits (Nat.pow 2 128) 0 digits with
    | .ok number => if number < numberCount then some number else none
    | .error _ => none

/-- The pool that characters name, unless the number is too large or they name none. -/
def ofList? : List Char → Option Pool
  | 'F' :: digits => (readNumber? digits).map fun number => ⟨.fungible, number⟩
  | 'N' :: digits => (readNumber? digits).map fun number => ⟨.nonFungible, number⟩
  | _ => none

/-- Read a pool's written form. -/
def ofText? (text : String) : Option Pool :=
  ofList? text.toList

end Pool

/-- A pool and, where its tokens are told apart, the index of one of them. -/
structure TokenId where
  pool : Pool
  index : Option Nat
  deriving DecidableEq, Repr

/-- Why a text is no token id. -/
inductive TokenIdFault where
  /-- The token index is no unsigned integer. -/
  | index (fault : Numeral.Fault)
  /-- A fungible pool was given a token index other than zero. -/
  | indexOfFungible (pool : Pool)
  | word (fault : Word.Fault)
  | stated (reason : String)
  deriving DecidableEq

/-- The words in which a fault is reported. -/
def TokenIdFault.message : TokenIdFault → String
  | .index fault => "token index: " ++ fault.message
  | .indexOfFungible pool => "fungible pool " ++ pool.text ++ " has no token index"
  | .word fault => fault.message
  | .stated reason => reason

/-- A text that names no pool or no token. -/
inductive IdError where
  | pool (value : String)
  | token (value : String) (fault : TokenIdFault)
  deriving DecidableEq

namespace TokenId

/-- The position of the pool number. -/
def poolShift : Nat := 128

/-- The position of the non-fungible flag. -/
def flagBit : Nat := 255

/-- The flag of a pool kind, in its place. -/
def flag : PoolKind → Nat
  | .fungible => 0
  | .nonFungible => Nat.pow 2 flagBit

/-- The id as one word: the flag on top, then the number of the pool and the index. -/
def toWord (id : TokenId) : Nat :=
  (id.pool.number * Nat.pow 2 poolShift ||| flag id.pool.kind) ||| id.index.getD 0

/-- The id in a word; the index of a fungible token is not read. -/
def ofWord (word : Nat) : TokenId :=
  let number := word / Nat.pow 2 poolShift % Pool.numberCount
  if word / Nat.pow 2 flagBit % 2 = 0 then
    ⟨⟨.fungible, number⟩, none⟩
  else
    ⟨⟨.nonFungible, number⟩, some (word % Nat.pow 2 poolShift)⟩

/-- The base-ten text of a token id. -/
def text (id : TokenId) : String :=
  Numeral.text id.toWord

/-- The token index that a caller asks for; absent or empty is zero. -/
def readIndex : Option String → Except IdError Nat
  | none => .ok 0
  | some "" => .ok 0
  | some value =>
    match Numeral.readUnsigned (Nat.pow 2 poolShift) value.toList with
    | .ok index => .ok index
    | .error fault => .error (.token value (.index fault))

/-- The token id of a pool and a token index, refused for an index on a fungible pool. -/
def ofParts (pool : Pool) (index : Nat) : Except IdError TokenId :=
  match pool.kind with
  | .fungible =>
    if index = 0 then
      .ok ⟨pool, none⟩
    else
      .error (.token (Numeral.text index) (.indexOfFungible pool))
  | .nonFungible => .ok ⟨pool, some index⟩

/-- The token id that a pool's text and an optional index text denote. -/
def ofTexts (pool : String) (index : Option String) : Except IdError TokenId :=
  match Pool.ofText? pool with
  | none => .error (.pool pool)
  | some parsed =>
    match readIndex index with
    | .error fault => .error fault
    | .ok number => ofParts parsed number

/-- The on-chain text of a pool and an optional token index. -/
def pack (pool : String) (index : Option String) : Except IdError String :=
  (ofTexts pool index).map text

/-- The word that an on-chain text denotes. -/
def wordOf (value : String) : Except IdError Nat :=
  match Word.readDecimal value.toList with
  | .ok word => .ok word
  | .error fault => .error (.token value (.word fault))

/-- The token that an on-chain text denotes. -/
def unpack (value : String) : Except IdError TokenId :=
  (wordOf value).map ofWord

/-- The form of an on-chain text in token URIs: sixty-four digits in base sixteen. -/
def uriDigits (value : String) : Except IdError String :=
  (wordOf value).map fun word => String.ofList (Hex.fixed 64 word)

end TokenId

end TokenRelay
