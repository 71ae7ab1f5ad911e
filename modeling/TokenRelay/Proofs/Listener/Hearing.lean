import TokenRelay.Listener
import TokenRelay.Proofs.Connector.Procedure
import TokenRelay.Proofs.Subscription.Segment
import TokenRelay.Token.Service

/-!
# What is heard of an activated pool

Activation subscribes to a pool under the text that it was given, while a listener
compares the pool of a subscription with the displayed pool of an event.  The two agree
exactly for texts in displayed form: of any other spelling, such as one with leading
zeros, activation makes subscriptions whose events are all dropped.

The results hold against every answerer of the listener's calls, so neither failures nor
the order in which the URI template becomes known matter.
-/

namespace TokenRelay

def Notification.transferId? : Notification → Option String
  | .mint content => some content.id
  | .burn content => some content.id
  | .transfer content => some content.id
  | .poolCreated _ => none
  | .receipt _ => none

theorem BatchData.split_getElem? {batch : BatchData} {position : Nat} {id value : String}
    (listed : batch.ids[position]? = some id)
    (valued : batch.values[position]? = some value) :
    batch.split[position]? =
      some ⟨batch.sender, batch.receiver, batch.operator, id, value⟩ := by
  have paired : (batch.ids.zip batch.values)[position]? = some (id, value) :=
    List.getElem?_zip_eq_some.2 ⟨listed, valued⟩
  rw [BatchData.split, List.getElem?_map, paired]
  rfl

namespace Listener

variable {ε : Type}

/-! ## Single transfers -/

theorem transferId?_moved (event : ChainEvent) (data : TransferData)
    (position : Option Nat) (accepted : Accepted) (uri : String) :
    (moved event data position accepted uri).transferId? =
      some (transferId event accepted.index position) := by
  unfold moved
  split
  · rfl
  · split <;> rfl

theorem poolId_moved (event : ChainEvent) (data : TransferData)
    (position : Option Nat) (accepted : Accepted) (uri : String) :
    (moved event data position accepted uri).poolId = some accepted.id.pool.text := by
  unfold moved
  split
  · rfl
  · split <;> rfl

/-- The notifications of a transfer whose URI is known to come out as given. -/
def heardTransfer (name : SubscriptionName) (event : ChainEvent) (data : TransferData)
    (position : Option Nat) (uri : String) : List Notification :=
  match accept? name event data with
  | none => []
  | some accepted => [moved event data position accepted uri]

theorem transferId_injective {event : ChainEvent} {place first second : Nat}
    (same : transferId event place (some first) = transferId event place (some second)) :
    first = second := by
  have lists := congrArg String.toList same
  simp only [transferId, String.toList_append, List.append_cancel_left_eq] at lists
  exact Numeral.text_injective (String.toList_inj.1 lists)

/-- Of a position's notifications all carry that position's id, and no other's. -/
theorem filter_heardTransfer {name : SubscriptionName} {event : ChainEvent} {place : Nat}
    (indexed : readIndex? event.transactionIndex = some place) (data : TransferData)
    (position wanted : Nat) (uri : String) :
    (heardTransfer name event data (some position) uri).filter
        (·.transferId? = some (transferId event place (some wanted))) =
      if position = wanted then heardTransfer name event data (some position) uri
      else [] := by
  have placed : ∀ accepted, accept? name event data = some accepted →
      accepted.index = place := by
    intro accepted accepts
    unfold accept? at accepts
    split at accepts
    · cases accepts
    · split_ifs at accepts
      rw [indexed] at accepts
      obtain rfl := Option.some.inj accepts
      rfl
  unfold heardTransfer
  cases accepts : accept? name event data with
  | none => simp
  | some accepted =>
      by_cases same : position = wanted
      · simp [same, transferId?_moved, placed accepted accepts]
      · have different : transferId event place (some position) ≠
            transferId event place (some wanted) := fun equal =>
          same (transferId_injective equal)
        simp [same, transferId?_moved, placed accepted accepts, different]

/-- A transfer comes to one notification or none, and only its URI depends on the calls. -/
theorem transformTransfer_against (listener : Listener) (name : SubscriptionName)
    (event : ChainEvent) (data : TransferData) (position : Option Nat)
    (answer : Request → ε → Answer × ε) (memory : Memory) (state : ε) :
    ∃ uri, ((listener.transformTransfer name event data position).against
        answer memory state).1 =
      heardTransfer name event data position uri := by
  unfold transformTransfer heardTransfer
  cases accept? name event data with
  | none => exact ⟨"", rfl⟩
  | some accepted =>
      refine ⟨((listener.tokenUri data.id).against answer memory state).1, ?_⟩
      simp only [Procedure.bind_eq, Procedure.against_bind]
      rfl

/-- Only one place of a numbered list is at a given number. -/
theorem flatMap_zipIdx_at {α β : Type} (follow : α → Nat → List β) {value : α} :
    ∀ (values : List α) (start offset : Nat), values[offset]? = some value →
      ((values.zipIdx start).flatMap fun (value, position) =>
          if position = start + offset then follow value position else []) =
        follow value (start + offset) := by
  intro values
  induction values with
  | nil =>
      intro start offset there
      cases there
  | cons head rest induction =>
      intro start offset there
      rw [List.zipIdx_cons, List.flatMap_cons]
      cases offset with
      | zero =>
          obtain rfl := Option.some.inj there
          have nothing : ((rest.zipIdx (start + 1)).flatMap fun (value, position) =>
              if position = start + 0 then follow value position else []) = [] := by
            rw [List.flatMap_eq_nil_iff]
            rintro ⟨value, position⟩ member
            have beyond := List.le_snd_of_mem_zipIdx member
            have elsewhere : position ≠ start + 0 := by
              simp only at beyond
              omega
            exact if_neg elsewhere
          rw [nothing, List.append_nil]
          exact if_pos rfl
      | succ offset =>
          have later := induction (start + 1) offset there
          rw [Nat.add_right_comm, Nat.add_assoc] at later
          have elsewhere : start ≠ start + (offset + 1) := by
            omega
          simp only [if_neg elsewhere, later, List.nil_append]

/-- The transfers of a batch come to what each of them comes to, in order. -/
theorem transformTransfers_against (listener : Listener) (name : SubscriptionName)
    (event : ChainEvent) (answer : Request → ε → Answer × ε) (start : Nat)
    (transfers : List TransferData) (memory : Memory) (state : ε) :
    ∃ uri : Nat → String,
      ((listener.transformTransfers name event start transfers).against
          answer memory state).1 =
        (transfers.zipIdx start).flatMap fun (data, position) =>
          heardTransfer name event data (some position) (uri position) := by
  induction transfers generalizing start memory state with
  | nil => exact ⟨fun _ => "", rfl⟩
  | cons data rest induction =>
      let first := listener.transformTransfer name event data (some start)
      let after := first.against answer memory state
      obtain ⟨uri, firstHeard⟩ := transformTransfer_against listener name event data
        (some start) answer memory state
      obtain ⟨later, restHeard⟩ := induction (start + 1) after.2.1 after.2.2
      refine ⟨fun position => if position = start then uri else later position, ?_⟩
      have others : ((rest.zipIdx (start + 1)).flatMap fun (data, position) =>
            heardTransfer name event data (some position)
              (if position = start then uri else later position)) =
          (rest.zipIdx (start + 1)).flatMap fun (data, position) =>
            heardTransfer name event data (some position) (later position) := by
        apply List.flatMap_congr
        rintro ⟨data, position⟩ member
        have beyond := List.le_snd_of_mem_zipIdx member
        have different : position ≠ start := by
          simp only at beyond
          omega
        simp only [if_neg different]
      simp only [transformTransfers, Procedure.bind_eq, Procedure.against_bind,
        List.zipIdx_cons, List.flatMap_cons, if_true, others]
      rw [← firstHeard, ← restHeard]
      rfl

end Listener

namespace PoolEvent

theorem ofSignature?_signature (kind : PoolEvent) :
    ofSignature? kind.signature = some kind := by
  cases kind <;> decide

end PoolEvent

namespace TokenId

/-- A packed id is unpacked to the pool that was spelled. -/
theorem unpack_of_pack {text packed : String} {index : Option String} {pool : Pool}
    (spelled : Pool.Spelled text.toList pool) (packs : pack text index = .ok packed) :
    ∃ id, unpack packed = .ok id ∧ id.pool = pool := by
  obtain ⟨parsed, number, both, rfl⟩ := (pack_eq_ok_iff _ _ _).1 packs
  obtain rfl := both.pool.unique spelled
  exact ⟨_, both.inForm.unpack_repr, rfl⟩

end TokenId

namespace Listener

variable {σ ε : Type}

theorem accept?_of_pack {name : SubscriptionName} {event : ChainEvent} {data : TransferData}
    {text : String} {index : Option String} {pool : Pool} {place : Nat}
    (subscribed : name.pool = some text) (spelled : Pool.Spelled text.toList pool)
    (packs : TokenId.pack text index = .ok data.id)
    (indexed : readIndex? event.transactionIndex = some place)
    (somebody : ¬ (isZeroAddress data.sender ∧ isZeroAddress data.receiver)) :
    ∃ id, id.pool = pool ∧
      accept? name event data = if text = pool.text then some ⟨id, place⟩ else none := by
  obtain ⟨id, unpacks, rfl⟩ := TokenId.unpack_of_pack spelled packs
  refine ⟨id, rfl, ?_⟩
  rw [← Bool.and_eq_true] at somebody
  simp only [accept?, unpacks, subscribed, indexed, ne_eq, Option.some.injEq, ite_not,
    if_neg somebody, Option.map_some]

/-- The pools of what is heard once: only a displayed text lets anything through. -/
def heardOnce (text : String) (pool : Pool) : List (Option String) :=
  if text = pool.text then [some text] else []

theorem heardTransfer_of_pack {name : SubscriptionName} {event : ChainEvent}
    {data : TransferData} {text : String} {index : Option String} {pool : Pool} {place : Nat}
    (subscribed : name.pool = some text) (spelled : Pool.Spelled text.toList pool)
    (packs : TokenId.pack text index = .ok data.id)
    (indexed : readIndex? event.transactionIndex = some place)
    (somebody : ¬ (isZeroAddress data.sender ∧ isZeroAddress data.receiver))
    (position : Option Nat) (uri : String) :
    (heardTransfer name event data position uri).map Notification.poolId =
      heardOnce text pool := by
  obtain ⟨id, samePool, accepts⟩ :=
    accept?_of_pack subscribed spelled packs indexed somebody
  rw [heardTransfer, accepts, heardOnce]
  by_cases displayed : text = pool.text
  · rw [if_pos displayed, if_pos displayed]
    simp only [List.map_cons, List.map_nil, poolId_moved, samePool, displayed]
  · rw [if_neg displayed, if_neg displayed]
    rfl

theorem poolCreated?_of_pack {name : SubscriptionName} {event : ChainEvent}
    {data : CreateData} {text : String} {index : Option String} {pool : Pool}
    (subscribed : name.pool = some text) (spelled : Pool.Spelled text.toList pool)
    (reads : CreateData.codec.read event.data = .ok data)
    (packs : TokenId.pack text index = .ok data.typeId) :
    (poolCreated? name event).toList.map Notification.poolId = heardOnce text pool := by
  obtain ⟨id, unpacks, rfl⟩ := TokenId.unpack_of_pack spelled packs
  have notBase : name.isBase = false := by
    rw [SubscriptionName.isBase, subscribed, decide_eq_false_iff_not, Option.some.injEq]
    exact spelled.ne_base
  simp only [poolCreated?, reads, unpacks, notBase, subscribed, Option.some.injEq,
    Bool.false_or, decide_eq_true_eq, heardOnce]
  by_cases displayed : text = id.pool.text
  · rw [if_pos displayed, if_pos displayed, displayed]
    rfl
  · rw [if_neg displayed, if_neg displayed]
    rfl

/-! ## The main result -/

/-- What a listener makes of an event under a subscription that an activation asked for. -/
def heard (listener : Listener) (service : Service) (activation : ActivatePool)
    (kind : PoolEvent) (event : ChainEvent) (answer : Request → ε → Answer × ε)
    (memory : Memory) (state : ε) : List Notification :=
  let wish := service.poolWish activation.poolId kind (Service.activationBlock activation)
  ((listener.transform wish.name event).against answer memory state).1

theorem unpack_wish {listener : Listener} {service : Service}
    (sameTopic : listener.topic = service.config.topic) {text : String} {pool : Pool}
    (spelled : Pool.Spelled text.toList pool) (kind : PoolEvent) (block : String) :
    SubscriptionName.unpack listener.topic (service.poolWish text kind block).name =
      ⟨service.config.topic, some text, some kind.name⟩ := by
  rw [Service.poolWish, sameTopic]
  exact SubscriptionName.unpack_pack_event _ spelled.isSegment kind.isSegment_name

theorem heard_create {listener : Listener} {service : Service} {activation : ActivatePool}
    {pool : Pool} {event : ChainEvent} {data : CreateData} {index : Option String}
    (sameTopic : listener.topic = service.config.topic)
    (spelled : Pool.Spelled activation.poolId.toList pool)
    (signed : event.signature = PoolEvent.create.signature)
    (reads : CreateData.codec.read event.data = .ok data)
    (packs : TokenId.pack activation.poolId index = .ok data.typeId)
    (answer : Request → ε → Answer × ε) (memory : Memory) (state : ε) :
    (listener.heard service activation .create event answer memory state).map
        Notification.poolId = heardOnce activation.poolId pool := by
  rw [heard, transform, unpack_wish sameTopic spelled, signed,
    PoolEvent.ofSignature?_signature]
  exact poolCreated?_of_pack rfl spelled reads packs

theorem heard_single {listener : Listener} {service : Service} {activation : ActivatePool}
    {pool : Pool} {event : ChainEvent} {data : TransferData} {index : Option String}
    {place : Nat} (sameTopic : listener.topic = service.config.topic)
    (spelled : Pool.Spelled activation.poolId.toList pool)
    (signed : event.signature = PoolEvent.single.signature)
    (reads : TransferData.codec.read event.data = .ok data)
    (packs : TokenId.pack activation.poolId index = .ok data.id)
    (indexed : readIndex? event.transactionIndex = some place)
    (somebody : ¬ (isZeroAddress data.sender ∧ isZeroAddress data.receiver))
    (answer : Request → ε → Answer × ε) (memory : Memory) (state : ε) :
    (listener.heard service activation .single event answer memory state).map
        Notification.poolId = heardOnce activation.poolId pool := by
  rw [heard, transform, unpack_wish sameTopic spelled, signed,
    PoolEvent.ofSignature?_signature]
  simp only [reads]
  obtain ⟨uri, comesTo⟩ := transformTransfer_against listener
    ⟨service.config.topic, some activation.poolId, some PoolEvent.single.name⟩
    event data none answer memory state
  rw [comesTo]
  exact heardTransfer_of_pack rfl spelled packs indexed somebody none uri

theorem heard_batch {listener : Listener} {service : Service} {activation : ActivatePool}
    {pool : Pool} {event : ChainEvent} {batch : BatchData} {index : Option String}
    {place position : Nat} {id value : String}
    (sameTopic : listener.topic = service.config.topic)
    (spelled : Pool.Spelled activation.poolId.toList pool)
    (signed : event.signature = PoolEvent.batch.signature)
    (reads : BatchData.codec.read event.data = .ok batch)
    (listed : batch.ids[position]? = some id)
    (valued : batch.values[position]? = some value)
    (packs : TokenId.pack activation.poolId index = .ok id)
    (indexed : readIndex? event.transactionIndex = some place)
    (somebody : ¬ (isZeroAddress batch.sender ∧ isZeroAddress batch.receiver))
    (answer : Request → ε → Answer × ε) (memory : Memory) (state : ε) :
    ((listener.heard service activation .batch event answer memory state).filter
        (·.transferId? = some (transferId event place (some position)))).map
          Notification.poolId = heardOnce activation.poolId pool := by
  rw [heard, transform, unpack_wish sameTopic spelled, signed,
    PoolEvent.ofSignature?_signature]
  simp only [reads]
  obtain ⟨uri, comesTo⟩ := transformTransfers_against listener
    ⟨service.config.topic, some activation.poolId, some PoolEvent.batch.name⟩
    event answer 0 batch.split memory state
  rw [comesTo, List.filter_flatMap]
  simp only [filter_heardTransfer indexed]
  have only := flatMap_zipIdx_at
    (fun data position => heardTransfer
      ⟨service.config.topic, some activation.poolId, some PoolEvent.batch.name⟩
      event data (some position) (uri position))
    batch.split 0 position (BatchData.split_getElem? listed valued)
  rw [Nat.zero_add] at only
  rw [only]
  exact heardTransfer_of_pack rfl spelled packs indexed somebody _ _

/--
Under the subscriptions of an activation each event of the pool is heard once, in a batch
once for each position that concerns the pool, exactly if the pool was given as displayed.
-/
theorem heard_once_iff_displayed
    (listener : Listener) (service : Service) (activation : ActivatePool)
    (tasks : List (Task σ Subscription)) (event : ChainEvent)
    (answer : Request → ε → Answer × ε) (memory : Memory) (state : ε)
    (sameTopic : listener.topic = service.config.topic)
    (accepted : service.activation activation = .ok tasks) :
    ∃ pool, Pool.ofText? activation.poolId = some pool ∧
      (tasks = PoolEvent.all.map fun kind => Stream.getOrCreateSubscription
        (service.poolWish activation.poolId kind (Service.activationBlock activation))) ∧
      (∀ data index, event.signature = PoolEvent.create.signature →
        CreateData.codec.read event.data = .ok data →
        TokenId.pack activation.poolId index = .ok data.typeId →
        (listener.heard service activation .create event answer memory state).map
          Notification.poolId = heardOnce activation.poolId pool) ∧
      (∀ data index place, event.signature = PoolEvent.single.signature →
        TransferData.codec.read event.data = .ok data →
        TokenId.pack activation.poolId index = .ok data.id →
        readIndex? event.transactionIndex = some place →
        ¬ (isZeroAddress data.sender ∧ isZeroAddress data.receiver) →
        (listener.heard service activation .single event answer memory state).map
          Notification.poolId = heardOnce activation.poolId pool) ∧
      (∀ batch index place position id value,
        event.signature = PoolEvent.batch.signature →
        BatchData.codec.read event.data = .ok batch →
        batch.ids[position]? = some id → batch.values[position]? = some value →
        TokenId.pack activation.poolId index = .ok id →
        readIndex? event.transactionIndex = some place →
        ¬ (isZeroAddress batch.sender ∧ isZeroAddress batch.receiver) →
        ((listener.heard service activation .batch event answer memory state).filter
          (·.transferId? = some (transferId event place (some position)))).map
            Notification.poolId = heardOnce activation.poolId pool) := by
  unfold Service.activation at accepted
  split at accepted
  · cases accepted
  · rename_i pool parsed
    have spelled := (Pool.ofText?_eq_some_iff _ _).1 parsed
    refine ⟨pool, parsed, (Except.ok.inj accepted).symm, ?_, ?_, ?_⟩
    · intro data index signed reads packs
      exact heard_create sameTopic spelled signed reads packs answer memory state
    · intro data index place signed reads packs indexed somebody
      exact heard_single sameTopic spelled signed reads packs indexed somebody
        answer memory state
    · intro batch index place position id value signed reads listed valued packs indexed
        somebody
      exact heard_batch sameTopic spelled signed reads listed valued packs indexed
        somebody answer memory state

/-- The data of a transfer of one token of the first fungible pool. -/
def firstPoolData : TransferData :=
  ⟨"0xaa", "0xbb", "0xaa", "340282366920938463463374607431768211456", "1"⟩

/-- A transfer of one token of the first fungible pool. -/
def firstPoolEvent : ChainEvent where
  subscription := "sub-1"
  signature := PoolEvent.single.signature
  address := ""
  blockNumber := "9"
  transactionIndex := "0x1"
  transactionHash := "0x99"
  logIndex := "0"
  timestamp := none
  data := Json.ofFields
    [("from", .text "0xaa"), ("to", .text "0xbb"), ("operator", .text "0xaa"),
      ("id", .text "340282366920938463463374607431768211456"), ("value", .text "1")]
  inputMethod := none
  inputArguments := none

/-- The service of a topic with a delimiter in it. -/
def colonService : Service :=
  ⟨{ Config.ofUrl "http://localhost" with topic := "tok:1" }, ⟨"es-1", "tok:1", none, none⟩⟩

/-- The same transfer is heard under the displayed spelling and not with a leading zero. -/
theorem heard_once_iff_displayed_of_first_pool :
    (heard ⟨"tok:1", ""⟩ colonService ⟨"F1", none⟩ .single firstPoolEvent
        (fun _ calls => (.error (.notFound ""), calls + 1)) none 0).map
          Notification.poolId = [some "F1"] ∧
      heard ⟨"tok:1", ""⟩ colonService ⟨"F01", none⟩ .single firstPoolEvent
        (fun _ calls => (.error (.notFound ""), calls + 1)) none 0 = [] := by
  have reads : TransferData.codec.read firstPoolEvent.data = .ok firstPoolData := by
    rfl
  have indexed : readIndex? firstPoolEvent.transactionIndex = some 1 := by
    decide +kernel
  have somebody : ¬ (isZeroAddress firstPoolData.sender ∧
      isZeroAddress firstPoolData.receiver) := by
    decide +kernel
  have displayedText : Pool.text ⟨.fungible, 1⟩ = "F1" := by
    decide +kernel
  constructor
  · have packs : TokenId.pack "F1" none = .ok firstPoolData.id := by
      decide +kernel
    obtain ⟨pool, parsed, -, -, single, -⟩ :=
      heard_once_iff_displayed (σ := Unit) ⟨"tok:1", ""⟩ colonService ⟨"F1", none⟩ _
        firstPoolEvent (fun _ calls => (.error (.notFound ""), calls + 1)) none 0 rfl rfl
    have expected : Pool.ofText? "F1" = some ⟨.fungible, 1⟩ := by
      decide +kernel
    obtain rfl := Option.some.inj (expected.symm.trans parsed)
    rw [single _ _ _ rfl reads packs indexed somebody, heardOnce, displayedText]
    rfl
  · have packs : TokenId.pack "F01" none = .ok firstPoolData.id := by
      decide +kernel
    obtain ⟨pool, parsed, -, -, single, -⟩ :=
      heard_once_iff_displayed (σ := Unit) ⟨"tok:1", ""⟩ colonService ⟨"F01", none⟩ _
        firstPoolEvent (fun _ calls => (.error (.notFound ""), calls + 1)) none 0 rfl rfl
    have expected : Pool.ofText? "F01" = some ⟨.fungible, 1⟩ := by
      decide +kernel
    obtain rfl := Option.some.inj (expected.symm.trans parsed)
    have silent := single _ _ _ rfl reads packs indexed somebody
    rw [heardOnce, displayedText] at silent
    exact List.map_eq_nil_iff.1 silent

end Listener

end TokenRelay
