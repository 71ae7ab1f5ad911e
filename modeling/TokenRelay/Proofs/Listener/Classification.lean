import TokenRelay.Proofs.Listener.Hearing

/-!
# What is heard of an event, and as what

The conditions under which a listener speaks are stated on the event's texts: which word an
id spells, which pool that word displays, which texts are the zero address and which texts
name a place in a block.  A creation is `Announced` or unheard.  A single transfer is
`Dropped` for one of five reasons or `Concerned`, never both, and what concerns a
subscription is heard exactly once, as a mint, a burn or a transfer by its addresses.
-/

namespace TokenRelay

/-! ## Zero addresses -/

/-- The zero address, in its two spellings. -/
def Nobody (address : String) : Prop :=
  address = "0x0000000000000000000000000000000000000000" ∨
    address = "0X0000000000000000000000000000000000000000"

theorem lowerAscii_of_upper {char : Char} (upper : 65 ≤ char.toNat ∧ char.toNat ≤ 90) :
    (lowerAscii char).toNat = char.toNat + 32 := by
  rw [lowerAscii, if_pos upper, Char.toNat_ofNat, if_pos]
  exact .inl (by omega)

theorem lowerAscii_eq_zero_iff (char : Char) : lowerAscii char = '0' ↔ char = '0' := by
  by_cases upper : 65 ≤ char.toNat ∧ char.toNat ≤ 90
  · have lower := lowerAscii_of_upper upper
    constructor
    · intro equal
      rw [equal] at lower
      exact absurd lower (by simp; omega)
    · rintro rfl
      exact absurd upper (by decide)
  · rw [lowerAscii, if_neg upper]

theorem lowerAscii_eq_x_iff (char : Char) :
    lowerAscii char = 'x' ↔ char = 'x' ∨ char = 'X' := by
  by_cases upper : 65 ≤ char.toNat ∧ char.toNat ≤ 90
  · have lower := lowerAscii_of_upper upper
    constructor
    · intro equal
      rw [equal] at lower
      refine .inr (Char.toNat_inj.1 ?_)
      simp at lower ⊢
      omega
    · rintro (rfl | rfl)
      · exact absurd upper (by decide)
      · rfl
  · rw [lowerAscii, if_neg upper, or_iff_left]
    rintro rfl
    exact upper (by decide)

theorem map_lowerAscii_eq_zeros_iff (chars : List Char) (count : Nat) :
    chars.map lowerAscii = List.replicate count '0' ↔ chars = List.replicate count '0' := by
  simp only [List.eq_replicate_iff, List.length_map, List.forall_mem_map,
    lowerAscii_eq_zero_iff]

/-- An address is taken for the zero address exactly in its two spellings. -/
theorem isZeroAddress_iff (address : String) : isZeroAddress address = true ↔ Nobody address := by
  have small : "0x0000000000000000000000000000000000000000".toList =
      '0' :: 'x' :: List.replicate 40 '0' := by
    decide +kernel
  have large : "0X0000000000000000000000000000000000000000".toList =
      '0' :: 'X' :: List.replicate 40 '0' := by
    decide +kernel
  rw [Nobody, ← String.toList_inj, ← String.toList_inj, isZeroAddress, decide_eq_true_eq,
    zeroAddress, small, large]
  constructor
  · intro equal
    obtain ⟨first, rest, written, zero, equal⟩ := List.map_eq_cons_iff.1 equal
    obtain ⟨second, digits, rfl, letter, equal⟩ := List.map_eq_cons_iff.1 equal
    rw [(lowerAscii_eq_zero_iff first).1 zero,
      (map_lowerAscii_eq_zeros_iff digits 40).1 equal] at written
    rcases (lowerAscii_eq_x_iff second).1 letter with rfl | rfl
    · exact .inl written
    · exact .inr written
  · have zeros := (map_lowerAscii_eq_zeros_iff _ 40).2 rfl
    rintro (written | written) <;> rw [written, List.map_cons, List.map_cons, zeros] <;> rfl

/-! ## Places in a block -/

/-- The texts of a place: in base ten, or in base sixteen behind `0x` or `0X`. -/
inductive Placed (text : String) (index : Nat) : Prop where
  | decimal (spells : Word.Spells text.toList index)
  | hexadecimal {letter : Char} {digits : List Char} (marked : letter = 'x' ∨ letter = 'X')
      (written : text.toList = '0' :: letter :: digits) (spells : Word.SpellsHex digits index)

namespace Listener

variable {ε : Type}

/-- A text in base ten has no letter in it. -/
theorem ne_of_spells {text : String} {letter : Char} {digits : List Char} {index : Nat}
    (spells : Word.Spells text.toList index) (marked : letter = 'x' ∨ letter = 'X') :
    text.toList ≠ '0' :: letter :: digits := by
  intro written
  have digit := spells.readable letter (by rw [written]; simp)
  rcases marked with rfl | rfl <;> exact absurd digit (by decide)

theorem readIndex?_eq_some_iff (text : String) (index : Nat) :
    readIndex? text = some index ↔ Placed text index := by
  unfold readIndex?
  dsimp only
  constructor
  · intro reads
    split at reads
    · rename_i value found
      obtain rfl := Option.some.inj reads
      split at found
      · rename_i digits written
        exact .hexadecimal (.inl rfl) written ((Word.readHex_eq_ok_iff _ _).1 found)
      · rename_i digits written
        exact .hexadecimal (.inr rfl) written ((Word.readHex_eq_ok_iff _ _).1 found)
      · exact .decimal ((Word.readDecimal_eq_ok_iff _ _).1 found)
    · cases reads
  · intro placed
    cases placed with
    | decimal spells =>
        have reads := (Word.readDecimal_eq_ok_iff _ _).2 spells
        split
        · rename_i value found
          split at found
          · exact (ne_of_spells spells (.inl rfl) ‹_›).elim
          · exact (ne_of_spells spells (.inr rfl) ‹_›).elim
          · exact congrArg some (Except.ok.inj (found.symm.trans reads))
        · rename_i fault found
          split at found
          · exact (ne_of_spells spells (.inl rfl) ‹_›).elim
          · exact (ne_of_spells spells (.inr rfl) ‹_›).elim
          · cases found.symm.trans reads
    | hexadecimal marked written spells =>
        rcases marked with rfl | rfl <;> rw [written] <;>
          simp only [(Word.readHex_eq_ok_iff _ _).2 spells]

/-! ## Words and the pools that they display -/

/-- The pool of a word, as it is displayed. -/
def displayedPool (word : Nat) : String :=
  (if word.testBit 255 then "N" else "F") ++ Nat.repr (word / 2 ^ 128 % 2 ^ 127)

theorem text_pool_ofWord (word : Nat) : (TokenId.ofWord word).pool.text = displayedPool word := by
  rw [displayedPool, ← Numeral.text_eq_repr, ← String.toList_inj, Pool.toList_text,
    String.toList_append, Numeral.toList_text]
  by_cases flag : word.testBit 255 = true
  · rw [TokenId.ofWord_of_flag flag, if_pos flag]
    rfl
  · rw [TokenId.ofWord_of_no_flag flag, if_neg flag]
    rfl

theorem kind_pool_ofWord (word : Nat) :
    (TokenId.ofWord word).pool.kind = if word.testBit 255 then .nonFungible else .fungible := by
  by_cases flag : word.testBit 255 = true
  · rw [TokenId.ofWord_of_flag flag, if_pos flag]
  · rw [TokenId.ofWord_of_no_flag flag, if_neg flag]

theorem index_ofWord (word : Nat) :
    (TokenId.ofWord word).index = if word.testBit 255 then some (word % 2 ^ 128) else none := by
  by_cases flag : word.testBit 255 = true
  · rw [TokenId.ofWord_of_flag flag, if_pos flag]
  · rw [TokenId.ofWord_of_no_flag flag, if_neg flag]

theorem unpack_eq_ok_of_spells {text : String} {word : Nat}
    (spells : Word.Spells text.toList word) :
    TokenId.unpack text = .ok (TokenId.ofWord word) :=
  (TokenId.unpack_eq_ok_iff _ _).2 ⟨word, spells, rfl⟩

variable {name : SubscriptionName} {event : ChainEvent}

/-! ## Creations -/

/-- A creation that is announced under a subscription, with its data and its word. -/
structure Announced (name : SubscriptionName) (event : ChainEvent) (data : CreateData)
    (word : Nat) : Prop where
  reads : CreateData.codec.read event.data = .ok data
  spells : Word.Spells data.typeId.toList word
  subscribed : name.pool = some "base" ∨ name.pool = some (displayedPool word)

/-- The announcement of a pool. -/
def announcement (event : ChainEvent) (data : CreateData) (word : Nat) : Notification :=
  .poolCreated
    { standard := tokenStandard
      kind := if word.testBit 255 then .nonFungible else .fungible
      poolId := displayedPool word
      operator := data.operator
      data := Payload.decode data.data
      transaction := event.locator }

theorem poolCreated?_eq_some_iff (notification : Notification) :
    poolCreated? name event = some notification ↔
      ∃ data word, Announced name event data word ∧
        announcement event data word = notification := by
  constructor
  · intro created
    unfold poolCreated? at created
    split at created
    · cases created
    · rename_i data reads
      split at created
      · cases created
      · rename_i id unpacks
        obtain ⟨word, spells, rfl⟩ := (TokenId.unpack_eq_ok_iff _ _).1 unpacks
        simp only [text_pool_ofWord, kind_pool_ofWord] at created
        split at created
        · rename_i subscribed
          rw [Bool.or_eq_true, decide_eq_true_eq, SubscriptionName.isBase,
            decide_eq_true_eq] at subscribed
          exact ⟨data, word, ⟨reads, spells, subscribed⟩, Option.some.inj created⟩
        · cases created
  · rintro ⟨data, word, ⟨reads, spells, subscribed⟩, rfl⟩
    have shown : (name.isBase || decide (name.pool = some (displayedPool word))) = true := by
      rw [Bool.or_eq_true, decide_eq_true_eq, SubscriptionName.isBase, decide_eq_true_eq]
      exact subscribed
    simp only [poolCreated?, reads, unpack_eq_ok_of_spells spells, text_pool_ofWord,
      kind_pool_ofWord, if_pos shown]
    rfl

/-! ## Single transfers -/

/-- A transfer that concerns a subscription, with its word and its place. -/
structure Concerned (name : SubscriptionName) (event : ChainEvent) (data : TransferData)
    (word index : Nat) : Prop where
  spells : Word.Spells data.id.toList word
  subscribed : name.pool = some (displayedPool word)
  somebody : ¬ (Nobody data.sender ∧ Nobody data.receiver)
  placed : Placed event.transactionIndex index

theorem accept?_eq_some_iff (data : TransferData) (accepted : Accepted) :
    accept? name event data = some accepted ↔
      ∃ word index, Concerned name event data word index ∧
        ⟨TokenId.ofWord word, index⟩ = accepted := by
  constructor
  · intro accepts
    unfold accept? at accepts
    split at accepts
    · cases accepts
    · rename_i id unpacks
      obtain ⟨word, spells, rfl⟩ := (TokenId.unpack_eq_ok_iff _ _).1 unpacks
      rw [text_pool_ofWord] at accepts
      split_ifs at accepts with foreign nobody
      rw [Bool.and_eq_true, isZeroAddress_iff, isZeroAddress_iff] at nobody
      obtain ⟨index, reads, rfl⟩ := Option.map_eq_some_iff.1 accepts
      exact ⟨word, index,
        ⟨spells, not_not.1 foreign, nobody, (readIndex?_eq_some_iff _ _).1 reads⟩, rfl⟩
  · rintro ⟨word, index, ⟨spells, subscribed, somebody, placed⟩, rfl⟩
    rw [← isZeroAddress_iff, ← isZeroAddress_iff, ← Bool.and_eq_true] at somebody
    simp only [accept?, unpack_eq_ok_of_spells spells, text_pool_ofWord, subscribed, ne_eq,
      not_true, if_false, if_neg somebody, (readIndex?_eq_some_iff _ _).2 placed,
      Option.map_some]

/-- Why a single transfer is not heard under a subscription. -/
inductive Dropped (name : SubscriptionName) (event : ChainEvent) : Prop where
  | unreadable {fault : DataFault} (reads : TransferData.codec.read event.data = .error fault)
  | undecodable {data : TransferData} (reads : TransferData.codec.read event.data = .ok data)
      (noWord : ∀ word, ¬ Word.Spells data.id.toList word)
  /-- The subscription names another pool or none. -/
  | foreign {data : TransferData} {word : Nat}
      (reads : TransferData.codec.read event.data = .ok data)
      (spells : Word.Spells data.id.toList word)
      (elsewhere : name.pool ≠ some (displayedPool word))
  | nobody {data : TransferData} (reads : TransferData.codec.read event.data = .ok data)
      (sender : Nobody data.sender) (receiver : Nobody data.receiver)
  | unplaced {data : TransferData} (reads : TransferData.codec.read event.data = .ok data)
      (noPlace : ∀ index, ¬ Placed event.transactionIndex index)

/-- A transfer is dropped or concerns the subscription. -/
theorem dropped_or_concerned (name : SubscriptionName) (event : ChainEvent) :
    Dropped name event ∨ ∃ data word index,
      TransferData.codec.read event.data = .ok data ∧ Concerned name event data word index := by
  cases reads : TransferData.codec.read event.data with
  | error fault => exact .inl (.unreadable reads)
  | ok data =>
      by_cases spelled : ∃ word, Word.Spells data.id.toList word
      · obtain ⟨word, spells⟩ := spelled
        by_cases subscribed : name.pool = some (displayedPool word)
        · by_cases nobody : Nobody data.sender ∧ Nobody data.receiver
          · exact .inl (.nobody reads nobody.1 nobody.2)
          · by_cases placed : ∃ index, Placed event.transactionIndex index
            · obtain ⟨index, placed⟩ := placed
              exact .inr ⟨data, word, index, rfl, spells, subscribed, nobody, placed⟩
            · exact .inl (.unplaced reads (not_exists.1 placed))
        · exact .inl (.foreign reads spells subscribed)
      · exact .inl (.undecodable reads (not_exists.1 spelled))

/-- What concerns the subscription is not dropped. -/
theorem Concerned.not_dropped {data : TransferData} {word index : Nat}
    (reads : TransferData.codec.read event.data = .ok data)
    (concerned : Concerned name event data word index) : ¬ Dropped name event := by
  have same : ∀ {other : TransferData},
      TransferData.codec.read event.data = .ok other → other = data :=
    fun again => Except.ok.inj (again.symm.trans reads)
  intro dropped
  cases dropped with
  | unreadable fails => cases fails.symm.trans reads
  | undecodable again noWord =>
      obtain rfl := same again
      exact noWord word concerned.spells
  | foreign again spells elsewhere =>
      obtain rfl := same again
      have words := unpack_eq_ok_of_spells spells
      rw [unpack_eq_ok_of_spells concerned.spells, Except.ok.injEq] at words
      rw [← text_pool_ofWord, ← words, text_pool_ofWord] at elsewhere
      exact elsewhere concerned.subscribed
  | nobody again sender receiver =>
      obtain rfl := same again
      exact concerned.somebody ⟨sender, receiver⟩
  | unplaced _ noPlace => exact noPlace index concerned.placed

/-- What a single transfer moves, with its sender and receiver as far as they are told. -/
def singleMove (event : ChainEvent) (data : TransferData) (word index : Nat) (uri : String)
    (sender receiver : Option String) : TokenMove where
  id := event.blockNumber ++ "." ++ Nat.repr index ++ "." ++ event.logIndex
  poolId := displayedPool word
  tokenIndex := if word.testBit 255 then some (Nat.repr (word % 2 ^ 128)) else none
  uri := uri
  sender := sender
  receiver := receiver
  amount := data.value
  operator := data.operator
  data := Payload.decode (event.inputData.getD "")
  transaction := event.locator

/-- What a single transfer is heard as. -/
inductive Classified (event : ChainEvent) (data : TransferData) (word index : Nat)
    (uri : String) : Notification → Prop where
  | mint (minted : Nobody data.sender) : Classified event data word index uri
      (.mint (singleMove event data word index uri none (some data.receiver)))
  | burn (sent : ¬ Nobody data.sender) (burned : Nobody data.receiver) :
      Classified event data word index uri
        (.burn (singleMove event data word index uri (some data.sender) none))
  | transfer (sent : ¬ Nobody data.sender) (received : ¬ Nobody data.receiver) :
      Classified event data word index uri (.transfer
        (singleMove event data word index uri (some data.sender) (some data.receiver)))

theorem classified_moved (event : ChainEvent) (data : TransferData) (word index : Nat)
    (uri : String) : Classified event data word index uri
      (moved event data none ⟨TokenId.ofWord word, index⟩ uri) := by
  have tokenIndex : (TokenId.ofWord word).index.map Numeral.text =
      if word.testBit 255 then some (Nat.repr (word % 2 ^ 128)) else none := by
    rw [index_ofWord, ← Numeral.text_eq_repr]
    split <;> rfl
  simp only [moved, transferId, text_pool_ofWord, tokenIndex, Numeral.text_eq_repr]
  have sent := isZeroAddress_iff data.sender
  have received := isZeroAddress_iff data.receiver
  split
  · rename_i minted
    exact .mint (sent.1 minted)
  · rename_i minted
    split
    · rename_i burned
      exact .burn (sent.not.1 minted) (received.1 burned)
    · rename_i burned
      exact .transfer (sent.not.1 minted) (received.not.1 burned)

/-! ## Transforms -/

variable {listener : Listener} {subscription : String}

/-- The name under which a listener sees a subscription. -/
abbrev nameOf (listener : Listener) (subscription : String) : SubscriptionName :=
  SubscriptionName.unpack listener.topic subscription

theorem transform_of_create (signed : event.signature = PoolEvent.create.signature) :
    listener.transform subscription event =
      .done (poolCreated? (listener.nameOf subscription) event).toList := by
  simp only [transform, signed, PoolEvent.ofSignature?_signature]

theorem transform_of_single {data : TransferData}
    (signed : event.signature = PoolEvent.single.signature)
    (reads : TransferData.codec.read event.data = .ok data) :
    listener.transform subscription event =
      listener.transformTransfer (listener.nameOf subscription) event data none := by
  simp only [transform, signed, PoolEvent.ofSignature?_signature, reads]

theorem transform_of_batch {batch : BatchData}
    (signed : event.signature = PoolEvent.batch.signature)
    (reads : BatchData.codec.read event.data = .ok batch) :
    listener.transform subscription event =
      listener.transformTransfers (listener.nameOf subscription) event 0 batch.split := by
  simp only [transform, signed, PoolEvent.ofSignature?_signature, reads]

/-- A single transfer whose data cannot be read comes to nothing. -/
theorem transform_of_unread_single {fault : DataFault}
    (signed : event.signature = PoolEvent.single.signature)
    (reads : TransferData.codec.read event.data = .error fault) :
    listener.transform subscription event = .done [] := by
  simp only [transform, signed, PoolEvent.ofSignature?_signature, reads]

/-- A batch whose data cannot be read comes to nothing. -/
theorem transform_of_unread_batch {fault : DataFault}
    (signed : event.signature = PoolEvent.batch.signature)
    (reads : BatchData.codec.read event.data = .error fault) :
    listener.transform subscription event = .done [] := by
  simp only [transform, signed, PoolEvent.ofSignature?_signature, reads]

/-- An event with a signature other than those of the three events comes to nothing. -/
theorem transform_of_other (unsigned : ∀ kind : PoolEvent, event.signature ≠ kind.signature) :
    listener.transform subscription event = .done [] := by
  have unknown : PoolEvent.ofSignature? event.signature = none := by
    rw [PoolEvent.ofSignature?, List.find?_eq_none]
    intro kind _ same
    exact unsigned kind (of_decide_eq_true same).symm
  simp only [transform, unknown]

/-- What a transform comes to against an answerer of its calls. -/
def told (listener : Listener) (subscription : String) (event : ChainEvent)
    (answer : Request → ε → Answer × ε) (memory : Memory) (state : ε) : List Notification :=
  ((listener.transform subscription event).against answer memory state).1

theorem told_of_create (signed : event.signature = PoolEvent.create.signature)
    (answer : Request → ε → Answer × ε) (memory : Memory) (state : ε) :
    listener.told subscription event answer memory state =
      (poolCreated? (listener.nameOf subscription) event).toList := by
  rw [told, transform_of_create signed]
  rfl

theorem told_of_single {data : TransferData}
    (signed : event.signature = PoolEvent.single.signature)
    (reads : TransferData.codec.read event.data = .ok data)
    (answer : Request → ε → Answer × ε) (memory : Memory) (state : ε) :
    ∃ uri, listener.told subscription event answer memory state =
      heardTransfer (listener.nameOf subscription) event data none uri := by
  rw [told, transform_of_single signed reads]
  exact transformTransfer_against listener _ event data none answer memory state

theorem told_of_done (quiet : listener.transform subscription event = .done [])
    (answer : Request → ε → Answer × ε) (memory : Memory) (state : ε) :
    listener.told subscription event answer memory state = [] := by
  rw [told, quiet]
  rfl

theorem heardTransfer_of_concerned {data : TransferData} {word index : Nat}
    (concerned : Concerned name event data word index) (position : Option Nat) (uri : String) :
    heardTransfer name event data position uri =
      [moved event data position ⟨TokenId.ofWord word, index⟩ uri] := by
  rw [heardTransfer, (accept?_eq_some_iff _ _).2 ⟨word, index, concerned, rfl⟩]

/-- What is heard of a transfer names the subscription's pool. -/
theorem poolId_of_mem_heardTransfer {data : TransferData} {position : Option Nat} {uri : String}
    {notification : Notification}
    (member : notification ∈ heardTransfer name event data position uri) :
    notification.poolId = name.pool := by
  unfold heardTransfer at member
  split at member
  · exact absurd member List.not_mem_nil
  · rename_i accepted accepts
    obtain ⟨word, index, concerned, rfl⟩ := (accept?_eq_some_iff _ _).1 accepts
    rw [List.mem_singleton.1 member, poolId_moved, text_pool_ofWord, concerned.subscribed]

/-- Whatever moves under a subscription is of the subscription's pool. -/
theorem poolId_of_mem_told {answer : Request → ε → Answer × ε} {memory : Memory} {state : ε}
    {notification : Notification}
    (member : notification ∈ listener.told subscription event answer memory state)
    (moves : notification.transferId?.isSome) :
    notification.poolId = (listener.nameOf subscription).pool := by
  by_cases signed : ∃ kind : PoolEvent, event.signature = kind.signature
  · obtain ⟨kind, signed⟩ := signed
    cases kind with
    | create =>
        rw [told_of_create signed, Option.mem_toList, poolCreated?_eq_some_iff] at member
        obtain ⟨data, word, -, rfl⟩ := member
        cases moves
    | single =>
        cases reads : TransferData.codec.read event.data with
        | error fault =>
            rw [told_of_done (transform_of_unread_single signed reads)] at member
            exact absurd member List.not_mem_nil
        | ok data =>
            obtain ⟨uri, comesTo⟩ := told_of_single signed reads answer memory state
            rw [comesTo] at member
            exact poolId_of_mem_heardTransfer member
    | batch =>
        cases reads : BatchData.codec.read event.data with
        | error fault =>
            rw [told_of_done (transform_of_unread_batch signed reads)] at member
            exact absurd member List.not_mem_nil
        | ok batch =>
            rw [told, transform_of_batch signed reads] at member
            obtain ⟨uri, comesTo⟩ := transformTransfers_against listener _ event answer 0
              batch.split memory state
            rw [comesTo, List.mem_flatMap] at member
            obtain ⟨entry, -, member⟩ := member
            exact poolId_of_mem_heardTransfer member
  · rw [told_of_done (transform_of_other (not_exists.1 signed))] at member
    exact absurd member List.not_mem_nil

/-- A creation is heard exactly if it is announced, and then once. -/
theorem told_create (signed : event.signature = PoolEvent.create.signature)
    (answer : Request → ε → Answer × ε) (memory : Memory) (state : ε) :
    (∀ data word, Announced (listener.nameOf subscription) event data word →
      listener.told subscription event answer memory state = [announcement event data word]) ∧
    ((¬ ∃ data word, Announced (listener.nameOf subscription) event data word) →
      listener.told subscription event answer memory state = []) := by
  rw [told_of_create signed]
  constructor
  · intro data word announced
    rw [(poolCreated?_eq_some_iff _).2 ⟨data, word, announced, rfl⟩]
    rfl
  · intro unannounced
    cases found : poolCreated? (listener.nameOf subscription) event with
    | none => rfl
    | some notification =>
        obtain ⟨data, word, announced, -⟩ := (poolCreated?_eq_some_iff _).1 found
        exact (unannounced ⟨data, word, announced⟩).elim

/-- What concerns the subscription is heard once, as what it is classified as. -/
theorem told_of_concerned {data : TransferData} {word index : Nat}
    (signed : event.signature = PoolEvent.single.signature)
    (reads : TransferData.codec.read event.data = .ok data)
    (concerned : Concerned (listener.nameOf subscription) event data word index)
    (answer : Request → ε → Answer × ε) (memory : Memory) (state : ε) :
    ∃ uri notification,
      listener.told subscription event answer memory state = [notification] ∧
        Classified event data word index uri notification := by
  obtain ⟨uri, comesTo⟩ := told_of_single signed reads answer memory state
  rw [heardTransfer_of_concerned concerned] at comesTo
  exact ⟨uri, _, comesTo, classified_moved event data word index uri⟩

/-- A single transfer is unheard exactly if it is dropped. -/
theorem told_eq_nil_iff (signed : event.signature = PoolEvent.single.signature)
    (answer : Request → ε → Answer × ε) (memory : Memory) (state : ε) :
    listener.told subscription event answer memory state = [] ↔
      Dropped (listener.nameOf subscription) event := by
  constructor
  · intro silent
    rcases dropped_or_concerned (listener.nameOf subscription) event with
      dropped | ⟨data, word, index, reads, concerned⟩
    · exact dropped
    · obtain ⟨uri, notification, spoken, -⟩ :=
        told_of_concerned signed reads concerned answer memory state
      cases silent.symm.trans spoken
  · intro dropped
    cases reads : TransferData.codec.read event.data with
    | error fault =>
        exact told_of_done (transform_of_unread_single signed reads) answer memory state
    | ok data =>
        obtain ⟨uri, comesTo⟩ := told_of_single signed reads answer memory state
        refine comesTo.trans ?_
        unfold heardTransfer
        split
        · rfl
        · rename_i accepted accepts
          obtain ⟨word, index, concerned, -⟩ := (accept?_eq_some_iff _ _).1 accepts
          exact (concerned.not_dropped reads dropped).elim

/-! ## The main result -/

/--
What is heard of an event, whatever the listener's calls come to.  A creation is announced
once or not heard.  A single transfer is unheard exactly if it is dropped, and otherwise it
concerns the subscription and is heard once, as what it is classified as.  An event with
another signature is not heard, and what moves is always of the subscription's pool.
-/
theorem transform_classifies (listener : Listener) (subscription : String) (event : ChainEvent)
    (answer : Request → ε → Answer × ε) (memory : Memory) (state : ε) :
    let name := listener.nameOf subscription
    let heard := listener.told subscription event answer memory state
    (event.signature = PoolEvent.create.signature →
      (∀ data word, Announced name event data word → heard = [announcement event data word]) ∧
      ((¬ ∃ data word, Announced name event data word) → heard = [])) ∧
    (event.signature = PoolEvent.single.signature →
      (heard = [] ↔ Dropped name event) ∧
      (Dropped name event ∨ ∃ data word index,
        TransferData.codec.read event.data = .ok data ∧
          Concerned name event data word index) ∧
      (∀ data word index, TransferData.codec.read event.data = .ok data →
        Concerned name event data word index →
        ∃ uri notification, heard = [notification] ∧
          Classified event data word index uri notification)) ∧
    ((∀ kind : PoolEvent, event.signature ≠ kind.signature) → heard = []) ∧
    (∀ notification ∈ heard, notification.transferId?.isSome →
      notification.poolId = name.pool) := by
  intro name heard
  refine ⟨?_, ?_, ?_, ?_⟩
  · intro signed
    exact told_create signed answer memory state
  · intro signed
    refine ⟨told_eq_nil_iff signed answer memory state, dropped_or_concerned name event, ?_⟩
    intro data word index reads concerned
    exact told_of_concerned signed reads concerned answer memory state
  · intro unsigned
    exact told_of_done (transform_of_other unsigned) answer memory state
  · intro notification member moves
    exact poolId_of_mem_told member moves

/-- The word of the fifth token of the first non-fungible pool. -/
def fifthTokenWord : Nat :=
  2 ^ 255 + 2 ^ 128 + 5

/-- A mint of that token, with the zero address in capital letters. -/
def fifthTokenData : TransferData :=
  ⟨"0X0000000000000000000000000000000000000000", "0xbb", "0xaa", Nat.repr fifthTokenWord, "1"⟩

/-- The event of that mint. -/
def fifthTokenEvent : ChainEvent :=
  { firstPoolEvent with data := TransferData.codec.encode fifthTokenData }

theorem concerned_fifthToken :
    Concerned (nameOf ⟨"tok", ""⟩ "tok:N1") fifthTokenEvent fifthTokenData fifthTokenWord 1 where
  spells := (Word.readDecimal_eq_ok_iff _ _).1 (by decide +kernel)
  subscribed := by decide +kernel
  somebody := by
    rw [← isZeroAddress_iff, ← isZeroAddress_iff]
    decide +kernel
  placed := (readIndex?_eq_some_iff _ _).1 (by decide +kernel)

/-- The token is heard once, as a mint with its index, also while its URI cannot be fetched. -/
theorem transform_classifies_of_fifthToken :
    ∃ uri, told ⟨"tok", ""⟩ "tok:N1" fifthTokenEvent
        (fun _ calls => (.error (.notFound ""), calls + 1)) none 0 =
      [.mint
        { id := "9.1.0", poolId := "N1", tokenIndex := some "5", uri := uri, sender := none
          receiver := some "0xbb", amount := "1", operator := "0xaa", data := ""
          transaction := fifthTokenEvent.locator }] := by
  obtain ⟨-, single, -, -⟩ := transform_classifies ⟨"tok", ""⟩ "tok:N1" fifthTokenEvent
    (fun _ calls => (.error (.notFound ""), calls + 1)) none 0
  have reads : TransferData.codec.read fifthTokenEvent.data = .ok fifthTokenData := by
    rfl
  obtain ⟨uri, notification, heard, classified⟩ :=
    (single rfl).2.2 _ _ _ reads concerned_fifthToken
  have minted : Nobody fifthTokenData.sender := .inr rfl
  have pool : displayedPool fifthTokenWord = "N1" := by
    decide +kernel
  have index : (if fifthTokenWord.testBit 255 then
      some (Nat.repr (fifthTokenWord % 2 ^ 128)) else none) = some "5" := by
    decide +kernel
  refine ⟨uri, heard.trans ?_⟩
  cases classified with
  | mint =>
      rw [singleMove, pool, index]
      rfl
  | burn sent => exact (sent minted).elim
  | transfer sent => exact (sent minted).elim

end Listener

end TokenRelay
