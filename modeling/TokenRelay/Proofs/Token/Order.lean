import TokenRelay.Proofs.Connector.Alone
import TokenRelay.Proofs.Token.Overlap
import TokenRelay.Proofs.Token.Submission

/-!
# Orders that are checked before they are placed

An operation on tokens is made of texts: of a pool, perhaps of a token index, and for a mint of
the amount.  They are read before anything is sent.  If one of them cannot be read the operation
is refused, and the connector hears nothing; otherwise it hears one call, whose attempts all make
the same request.  That request names the token by a text which is read back from the chain as
the pool and the index that were asked for.

A mint of a pool whose tokens are told apart lists its receiver once for each token, so its
amount has to be a whole number, and a small one.
-/

namespace TokenRelay

namespace Client

variable {client : Client} {request : Request} {calls : List (Request × Outcome)} {answer : Answer}

theorem Concluded.ne_nil (concluded : client.Concluded request calls answer) : calls ≠ [] := by
  cases concluded with
  | last passed concludes => exact List.concat_ne_nil _ _

theorem Concluded.asks (concluded : client.Concluded request calls answer) :
    ∀ call ∈ calls, call.1 = request := by
  cases concluded with
  | last passed concludes =>
      exact List.forall_mem_append.2
        ⟨fun call member => (passed call member).asks, List.forall_mem_singleton.2 rfl⟩

end Client

namespace Request

/-- The text that a request has in its body under a key. -/
def bodyText? (request : Request) (key : String) : Option String :=
  (request.body.bind (·.field? key)).bind (·.text?)

end Request

namespace Service

variable {σ ε : Type} {service : Service} {config : Config}

/-- The operations on the tokens of a pool. -/
inductive Order where
  | mint (order : Mint)
  | burn (order : Burn)
  | transfer (order : Transfer)
  | balance (query : BalanceQuery)

namespace Order

/-- What an operation gives back. -/
def Result : Order → Type
  | .balance _ => Balance
  | _ => Submitted

/-- The text of the pool. -/
def pool : Order → String
  | .mint order => order.poolId
  | .burn order => order.poolId
  | .transfer order => order.poolId
  | .balance query => query.poolId

/-- The text of the token index; a mint is of a pool and has none. -/
def index : Order → Option String
  | .mint _ => none
  | .burn order => order.tokenIndex
  | .transfer order => order.tokenIndex
  | .balance query => query.tokenIndex

/-- Carry out an order. -/
def task (service : Service) : (order : Order) → Task σ order.Result
  | .mint order => service.mint order
  | .burn order => service.burn order
  | .transfer order => service.transfer order
  | .balance query => service.balance query

/-- The request of an operation, unless it is refused. -/
def asked (config : Config) : Order → Except BridgeError Request
  | .mint order => mintRequest config order
  | .burn order => burnRequest config order
  | .transfer order => transferRequest config order
  | .balance query => balanceRequest config query

/-- The text by which a request for an operation names a token, or the pool of a mint. -/
def named? (request : Request) : Order → Option String
  | .mint _ => request.bodyText? "type_id"
  | .burn _ => request.bodyText? "id"
  | .transfer _ => request.bodyText? "id"
  | .balance _ => request.query.lookup "id"

/-- A mint of a pool whose tokens are told apart asks for a whole number of them, few enough. -/
def Countable (pool : Pool) : Order → Prop
  | .mint order => pool.kind = .nonFungible →
      ∃ count ≤ 1000, Numeral.Unsigned order.amount.toList count
  | _ => True

/-- What the texts of an operation have to spell for it to be requested. -/
structure Valid (order : Order) (parsed : Pool) (number : ℕ) : Prop where
  spelled : TokenId.Spelled order.pool order.index parsed number
  countable : order.Countable parsed

/-- The failures of an operation that was not requested. -/
inductive Refusal : BridgeError → Prop where
  | id (error : IdError) : Refusal (.id error)
  | request (fault : RequestFault) : Refusal (.invalidRequest fault)

/-- That a request names the token of a pool at an index, as it is read from the chain. -/
def Names (order : Order) (request : Request) (parsed : Pool) (number : ℕ) : Prop :=
  ∃ packed, order.named? request = some packed ∧
    TokenId.unpack packed =
      .ok ⟨parsed, if parsed.kind = .fungible then none else some number⟩

/-- How an operation is decided: it is refused, or requested by the token that its texts spell. -/
inductive Decided (config : Config) (order : Order) : Prop where
  | refused {error : BridgeError} (refusal : Refusal error)
      (asked : order.asked config = .error error)
      (invalid : ∀ parsed number, ¬ order.Valid parsed number) : Decided config order
  | requested {request : Request} {parsed : Pool} {number : ℕ}
      (asked : order.asked config = .ok request) (valid : order.Valid parsed number)
      (names : order.Names request parsed number) : Decided config order

end Order

theorem pack_cases (pool : String) (index : Option String) :
    (∃ error, TokenId.pack pool index = .error error ∧
      ∀ parsed number, ¬ TokenId.Spelled pool index parsed number) ∨
    ∃ packed parsed number, TokenId.pack pool index = .ok packed ∧
      TokenId.Spelled pool index parsed number ∧
      TokenId.unpack packed =
        .ok ⟨parsed, if parsed.kind = .fungible then none else some number⟩ := by
  cases packs : TokenId.pack pool index with
  | error error =>
      refine .inl ⟨error, rfl, ?_⟩
      intro parsed number spelled
      rw [spelled.pack] at packs
      cases packs
  | ok packed =>
      obtain ⟨parsed, number, spelled, rfl⟩ := (TokenId.pack_eq_ok_iff _ _ _).1 packs
      exact .inr ⟨_, parsed, number, rfl, spelled, spelled.inForm.unpack_repr⟩

theorem bodyText?_submission (method : String) (fields : List (String × Json)) (operator : String)
    (requestId : Option String) (key : String) :
    (submission config method (Json.ofFields fields) operator requestId).bodyText? key =
      ((fields.reverse.find? (key = ·.1)).map Prod.snd).bind (·.text?) := by
  rw [← Json.field?_ofFields]
  rfl

theorem mintCount_eq_ok_iff (amount : String) (count : ℕ) :
    mintCount amount = .ok count ↔ Numeral.Unsigned amount.toList count ∧ count ≤ 1000 := by
  constructor
  · intro counted
    rw [mintCount] at counted
    split at counted
    · cases counted
    · rename_i found reads
      split_ifs at counted with many
      obtain rfl := Except.ok.inj counted
      exact ⟨((Numeral.readUnsigned_eq_ok_iff _ _ _).1 reads).1, not_lt.1 many⟩
  · rintro ⟨unsigned, few⟩
    have reads := (Numeral.readUnsigned_eq_ok_iff (Nat.pow 2 64) _ _).2
      ⟨unsigned, few.trans_lt (by norm_num)⟩
    rw [mintCount, reads]
    exact if_neg (not_lt.2 few)

namespace Order

/-- An operation whose request is made of the token that its texts pack to, and names it. -/
theorem decided_of_pack {order : Order} {make : String → Request}
    (asked : order.asked config = match TokenId.pack order.pool order.index with
      | .error error => .error (.id error)
      | .ok packed => .ok (make packed))
    (named : ∀ packed, order.named? (make packed) = some packed)
    (countable : ∀ parsed, order.Countable parsed) : order.Decided config := by
  rcases pack_cases order.pool order.index with
    ⟨error, packs, invalid⟩ | ⟨packed, parsed, number, packs, spelled, unpacks⟩
  · rw [packs] at asked
    exact .refused (.id error) asked fun _ _ valid => invalid _ _ valid.spelled
  · rw [packs] at asked
    exact .requested asked ⟨spelled, countable parsed⟩ ⟨packed, named packed, unpacks⟩

theorem decided_burn (config : Config) (order : Burn) : (burn order).Decided config :=
  decided_of_pack rfl (fun _ => bodyText?_submission _ _ _ _ _) fun _ => trivial

theorem decided_transfer (config : Config) (order : Transfer) :
    (transfer order).Decided config :=
  decided_of_pack rfl (fun _ => bodyText?_submission _ _ _ _ _) fun _ => trivial

theorem decided_balance (config : Config) (query : BalanceQuery) :
    (balance query).Decided config :=
  decided_of_pack rfl (fun _ => rfl) fun _ => trivial

/-- A mint of a pool whose tokens are alike. -/
theorem asked_mint_fungible (config : Config) {order : Mint} {packed : String} {parsed : Pool}
    (reads : Pool.ofText? order.poolId = some parsed) (kind : parsed.kind = .fungible)
    (packs : TokenId.pack order.poolId none = .ok packed) :
    ∃ request, (mint order).asked config = .ok request ∧
      request.bodyText? "type_id" = some packed := by
  rw [asked, mintRequest, reads, packs]
  dsimp only
  rw [kind]
  exact ⟨_, rfl, bodyText?_submission _ _ _ _ _⟩

/-- A mint of a pool whose tokens are told apart lists the receiver once for each of them. -/
theorem asked_mint_nonFungible (config : Config) {order : Mint} {packed : String}
    {parsed : Pool} {count : ℕ} (reads : Pool.ofText? order.poolId = some parsed)
    (kind : parsed.kind = .nonFungible)
    (packs : TokenId.pack order.poolId none = .ok packed)
    (counted : mintCount order.amount = .ok count) :
    ∃ request, (mint order).asked config = .ok request ∧
      request.bodyText? "type_id" = some packed ∧
      request.body.bind (·.field? "to") =
        some (.array (List.replicate count (.text order.receiver))) := by
  rw [asked, mintRequest, reads, packs]
  dsimp only
  rw [kind, counted]
  exact ⟨_, rfl, bodyText?_submission _ _ _ _ _, Json.field?_ofFields _ _⟩

theorem decided_mint (config : Config) (order : Mint) : (mint order).Decided config := by
  rcases pack_cases order.poolId none with
    ⟨error, packs, invalid⟩ | ⟨packed, parsed, number, packs, spelled, unpacks⟩
  · have asked : ∃ failure, (mint order).asked config = .error (.id failure) := by
      rw [asked, mintRequest, packs]
      cases Pool.ofText? order.poolId with
      | none => exact ⟨_, rfl⟩
      | some pool => exact ⟨_, rfl⟩
    obtain ⟨failure, asked⟩ := asked
    exact .refused (.id failure) asked fun _ _ valid => invalid _ _ valid.spelled
  · have reads := (Pool.ofText?_eq_some_iff _ _).2 spelled.pool
    cases kind : parsed.kind with
    | fungible =>
        obtain ⟨request, asked, named⟩ := asked_mint_fungible config reads kind packs
        refine .requested asked ⟨spelled, ?_⟩ ⟨packed, named, unpacks⟩
        intro other
        rw [kind] at other
        cases other
    | nonFungible =>
        cases counted : mintCount order.amount with
        | error fault =>
            have asked : (mint order).asked config = .error (.invalidRequest fault) := by
              rw [asked, mintRequest, reads, packs]
              dsimp only
              rw [kind, counted]
            refine .refused (.request fault) asked ?_
            intro other otherNumber valid
            obtain rfl := valid.spelled.pool.unique spelled.pool
            obtain ⟨count, few, unsigned⟩ := valid.countable kind
            rw [(mintCount_eq_ok_iff _ _).2 ⟨unsigned, few⟩] at counted
            cases counted
        | ok count =>
            obtain ⟨request, asked, named, -⟩ :=
              asked_mint_nonFungible config reads kind packs counted
            obtain ⟨unsigned, few⟩ := (mintCount_eq_ok_iff _ _).1 counted
            exact .requested asked ⟨spelled, fun _ => ⟨count, few, unsigned⟩⟩
              ⟨packed, named, unpacks⟩

theorem decided (config : Config) (order : Order) : order.Decided config := by
  cases order with
  | mint order => exact decided_mint config order
  | burn order => exact decided_burn config order
  | transfer order => exact decided_transfer config order
  | balance query => exact decided_balance config query

/-! ## Runs -/

variable {client : Client} {order : Order} {request : Request} {error : BridgeError}

/-- An operation through a client, single attempts included. -/
def through (client : Client) (service : Service) (order : Order) :
    Procedure Outcome σ (Except BridgeError order.Result) :=
  client.perform (order.task service : Task σ order.Result).run

/-- An operation that is requested makes one call, and then only reads its answer. -/
theorem through_of_asked (asks : order.asked service.config = .ok request) :
    ∃ result : Answer → Except BridgeError order.Result,
      (order.through client service : Procedure Outcome σ _) =
        (client.send request).bind fun answer => .done (result answer) := by
  have submits (placed : Except BridgeError Request) (same : placed = .ok request) :
      ∃ result : Answer → Except BridgeError Submitted,
        client.perform (submit placed : Task σ Submitted).run =
          (client.send request).bind fun answer => .done (result answer) := by
    rw [same]
    exact ⟨_, client.perform_sendFor_map Submission.codec request fun accepted =>
      Submitted.mk accepted.id⟩
  cases order with
  | mint order => exact submits _ asks
  | burn order => exact submits _ asks
  | transfer order => exact submits _ asks
  | balance query =>
      replace asks : balanceRequest service.config query = .ok request := asks
      rw [through, task, Service.balance, asks]
      exact ⟨_, client.perform_sendFor_map QueryResult.codec request fun found =>
        Balance.mk found.output⟩

/-- An operation that is refused ends at once. -/
theorem through_of_refused (refuses : order.asked service.config = .error error) :
    (order.through client service : Procedure Outcome σ _) = .done (.error error) := by
  have submits (placed : Except BridgeError Request) (same : placed = .error error) :
      client.perform (submit placed : Task σ Submitted).run = .done (.error error) := by
    rw [same]
    rfl
  cases order with
  | mint order => exact submits _ refuses
  | burn order => exact submits _ refuses
  | transfer order => exact submits _ refuses
  | balance query =>
      replace refuses : balanceRequest service.config query = .error error := refuses
      rw [through, task, Service.balance, refuses]
      rfl

section Runs

variable (answer : Request → ε → Outcome × ε) (memory : σ) (state : ε)

/-- What an operation sends is what the one call of its request sends. -/
theorem calls_of_asked (asks : order.asked service.config = .ok request) :
    (order.through client service).calls answer memory state =
      (client.send request).calls answer memory state := by
  obtain ⟨result, same⟩ := through_of_asked asks
  rw [same, Procedure.calls_bind]
  exact List.append_nil _

theorem exists_concluded_send (client : Client) (request : Request) :
    ∃ reply, client.Concluded request
      ((client.send request : Procedure Outcome σ Answer).calls answer memory state) reply :=
  ⟨_, (Client.concluded_attemptFrom 1 le_rfl
    (Procedure.runsAlone_calls answer (client.send request) memory state)).2⟩

/-- An operation sends something exactly if its texts spell what they have to. -/
theorem calls_ne_nil_iff (order : Order) :
    (order.through client service).calls answer memory state ≠ [] ↔
      ∃ parsed number, order.Valid parsed number := by
  cases decided service.config order with
  | refused refusal refuses invalid =>
      rw [through_of_refused refuses]
      exact iff_of_false (not_not.2 rfl) fun ⟨parsed, number, valid⟩ => invalid _ _ valid
  | requested asks valid names =>
      rw [calls_of_asked answer memory state asks]
      obtain ⟨reply, concluded⟩ := exists_concluded_send answer memory state client _
      exact iff_of_true concluded.ne_nil ⟨_, _, valid⟩

end Runs

end Order

/-- A mint sends something exactly if its pool is one and its amount can be counted. -/
theorem valid_mint_iff (mint : Mint) :
    (∃ parsed number, (Order.mint mint).Valid parsed number) ↔
      ∃ pool, Pool.Spelled mint.poolId.toList pool ∧
        (pool.kind = .nonFungible →
          ∃ count ≤ 1000, Numeral.Unsigned mint.amount.toList count) := by
  constructor
  · rintro ⟨pool, number, valid⟩
    exact ⟨pool, valid.spelled.pool, valid.countable⟩
  · rintro ⟨pool, spelled, countable⟩
    exact ⟨pool, 0, ⟨spelled, .absent, fun _ => rfl⟩, countable⟩

/-- A mint of a pool whose tokens are told apart lists the receiver once for each of them. -/
theorem receivers_of_mint {client : Client} {mint : Mint} {pool : Pool} {count : ℕ}
    (answer : Request → ε → Outcome × ε) (memory : σ) (state : ε)
    (spelled : Pool.Spelled mint.poolId.toList pool) (kind : pool.kind = .nonFungible)
    (unsigned : Numeral.Unsigned mint.amount.toList count) (few : count ≤ 1000) :
    ∀ call ∈ ((Order.mint mint).through client service).calls answer memory state,
      call.1.body.bind (·.field? "to") =
        some (.array (List.replicate count (.text mint.receiver))) := by
  have packed : TokenId.Spelled mint.poolId none pool 0 := ⟨spelled, .absent, fun _ => rfl⟩
  obtain ⟨request, asks, -, receivers⟩ :=
    Order.asked_mint_nonFungible service.config
      ((Pool.ofText?_eq_some_iff _ _).2 spelled) kind packed.pack
      ((mintCount_eq_ok_iff _ _).2 ⟨unsigned, few⟩)
  obtain ⟨reply, concluded⟩ := Order.exists_concluded_send answer memory state client request
  rw [Order.calls_of_asked answer memory state asks]
  intro call member
  rw [concluded.asks call member]
  exact receivers

/-- An activation of what is no pool has no branches. -/
theorem activating_of_invalid {client : Client} {activation : ActivatePool}
    (invalid : ∀ pool, ¬ Pool.Spelled activation.poolId.toList pool) :
    (service.activation activation : Except BridgeError (List (Task σ Subscription))) =
        .error (.id (.pool activation.poolId)) ∧
      (activating client service [activation] : List (Stream.Subscribing σ)) = [] := by
  have unread : Pool.ofText? activation.poolId = none := by
    rw [Option.eq_none_iff_forall_ne_some]
    intro pool reads
    exact invalid pool ((Pool.ofText?_eq_some_iff _ _).1 reads)
  have refused : (service.activation activation :
      Except BridgeError (List (Task σ Subscription))) =
        .error (.id (.pool activation.poolId)) := by
    rw [Service.activation, unread]
  refine ⟨refused, ?_⟩
  rw [activating, List.flatMap_singleton, branches, refused]
  rfl

/--
However the connector answers, an order for a mint, a burn, a transfer or a balance is refused
for its pool, its token or what else it asks for, and nothing is sent; or the attempts of one
call are sent, by a request that names the pool and the index which the order's texts spell.  It
is sent exactly if they spell one; for a mint, if the pool is one and, where its tokens are told
apart, the amount is a whole number of at most a thousand, and the receiver is listed so often
then.  An activation of what is no pool has nothing that could be sent.
-/
theorem orders_checked_first (client : Client) (service : Service)
    (answer : Request → ε → Outcome × ε) (memory : σ) (state : ε) :
    (∀ order : Order,
      let ended := ((order.through client service).against answer memory state).1
      let calls := (order.through client service).calls answer memory state
      ((∃ error, Order.Refusal error ∧ ended = .error error ∧ calls = []) ∨
        ∃ request parsed number,
          calls = (client.send request).calls answer memory state ∧
          (∃ reply, client.Concluded request calls reply) ∧
          TokenId.Spelled order.pool order.index parsed number ∧
          order.Names request parsed number) ∧
      (calls ≠ [] ↔ ∃ parsed number, order.Valid parsed number)) ∧
    (∀ mint : Mint,
      let calls := ((Order.mint mint).through client service).calls answer memory state
      (calls ≠ [] ↔ ∃ pool, Pool.Spelled mint.poolId.toList pool ∧
        (pool.kind = .nonFungible →
          ∃ count ≤ 1000, Numeral.Unsigned mint.amount.toList count)) ∧
      ∀ pool count, Pool.Spelled mint.poolId.toList pool → pool.kind = .nonFungible →
        Numeral.Unsigned mint.amount.toList count → count ≤ 1000 →
        ∀ call ∈ calls, call.1.body.bind (·.field? "to") =
          some (.array (List.replicate count (.text mint.receiver)))) ∧
    (∀ activation : ActivatePool,
      (∀ pool, ¬ Pool.Spelled activation.poolId.toList pool) →
      (service.activation activation : Except BridgeError (List (Task σ Subscription))) =
          .error (.id (.pool activation.poolId)) ∧
        (activating client service [activation] : List (Stream.Subscribing σ)) = []) := by
  refine ⟨?_, ?_, fun _ => activating_of_invalid⟩
  · intro order
    refine ⟨?_, Order.calls_ne_nil_iff answer memory state order⟩
    cases Order.decided service.config order with
    | @refused error refusal refuses invalid =>
        rw [Order.through_of_refused refuses]
        exact .inl ⟨error, refusal, rfl, rfl⟩
    | @requested request parsed number asks valid names =>
        have sent : (order.through client service).calls answer memory state =
            (client.send request).calls answer memory state :=
          Order.calls_of_asked answer memory state asks
        refine .inr ⟨request, parsed, number, sent, ?_, valid.spelled, names⟩
        rw [sent]
        exact Order.exists_concluded_send answer memory state client request
  · intro mint
    refine ⟨(Order.calls_ne_nil_iff answer memory state _).trans (valid_mint_iff mint), ?_⟩
    intro pool count spelled kind unsigned few
    exact receivers_of_mint answer memory state spelled kind unsigned few

/-! ## A mint of two tokens -/

open Reconcile (onceClient)

/-- A mint of two tokens, its number and its amount not in their shortest forms. -/
def mintOfTwo : Mint :=
  ⟨"N007", "0xb0b", "+02", "0xa11ce", none, none⟩

/-- Two tokens of a pool are sent for, and a pool without a number is not activated. -/
theorem orders_checked_first_of_two :
    Pool.Spelled "N007".toList ⟨.nonFungible, 7⟩ ∧ Numeral.Unsigned "+02".toList 2 ∧
      ((Order.mint mintOfTwo).through onceClient mintingService).calls
          (Fate.answering lostOnce) () 0 ≠ [] ∧
      (∀ call ∈ ((Order.mint mintOfTwo).through onceClient mintingService).calls
          (Fate.answering lostOnce) () 0,
        call.1.body.bind (·.field? "to") =
          some (.array [.text "0xb0b", .text "0xb0b"])) ∧
      (∀ pool, ¬ Pool.Spelled "F".toList pool) ∧
      (mintingService.activation ⟨"F", none⟩ :
        Except BridgeError (List (Task Unit Subscription))) = .error (.id (.pool "F")) := by
  have seven : Numeral.Denotes ['0', '0', '7'] 7 := ⟨by simp, by simp, by decide⟩
  have two : Numeral.Denotes ['0', '2'] 2 := ⟨by simp, by simp, by decide⟩
  have spelled : Pool.Spelled "N007".toList ⟨.nonFungible, 7⟩ :=
    .nonFungible seven (by norm_num)
  have unsigned : Numeral.Unsigned "+02".toList 2 := .signed two
  have invalid : ∀ pool, ¬ Pool.Spelled "F".toList pool := by
    intro pool spelled
    have unread : Pool.ofText? "F" = none := by decide
    have read := (Pool.ofText?_eq_some_iff "F" pool).2 spelled
    exact absurd (unread.symm.trans read) (by simp)
  obtain ⟨-, mints, activations⟩ :=
    orders_checked_first onceClient mintingService (Fate.answering lostOnce) () 0
  obtain ⟨sent, receivers⟩ := mints mintOfTwo
  refine ⟨spelled, unsigned, ?_, ?_, invalid, (activations ⟨"F", none⟩ invalid).1⟩
  · exact sent.2 ⟨_, spelled, fun _ => ⟨2, by norm_num, unsigned⟩⟩
  · exact receivers _ 2 spelled rfl unsigned (by norm_num)

end Service

end TokenRelay
