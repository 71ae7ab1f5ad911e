import TokenRelay.Proofs.Connector.Completion
import TokenRelay.Proofs.Listener.Classification
import TokenRelay.Proofs.Listener.Template

/-!
# Batches as single transfers

A batch is a short form of single transfers at one place on the chain.  `Expands` says which
events those are, one for each position that has both an id and a value, and `inTurn`
transforms them one after the other, each with what the one before has left of the memory and
of the connector, and marks what is heard of each with its position.

A batch comes to the same: the same notifications, the same calls and the same memory.  An
entry that is dropped still takes its position, so the ids of what is heard are distinct.
-/

namespace TokenRelay

/-- A notification of something moved, with more at the end of its id. -/
def Notification.withSuffix (suffix : String) : Notification → Notification
  | .mint content => .mint { content with id := content.id ++ suffix }
  | .burn content => .burn { content with id := content.id ++ suffix }
  | .transfer content => .transfer { content with id := content.id ++ suffix }
  | .poolCreated content => .poolCreated content
  | .receipt content => .receipt content

theorem Notification.transferId?_withUri (notification : Notification) (uri : String) :
    (notification.withUri uri).transferId? = notification.transferId? := by
  cases notification <;> rfl

theorem BatchData.length_split (batch : BatchData) :
    batch.split.length = min batch.ids.length batch.values.length := by
  rw [split, List.length_map, List.length_zip]

namespace Listener

variable {ε : Type} {listener : Listener} {client : Client} {subscription : String}
  {event single : ChainEvent} {batch : BatchData}

/-! ## Runs -/

/-- What a run has come to: what is heard, the calls, the memory and the connector then. -/
structure Ending (ε : Type) where
  heard : List Notification
  calls : List (Request × Outcome)
  memory : Memory
  state : ε

/-- Run a listener's procedure with a client against the connector. -/
def ending (client : Client) (answer : Request → ε → Outcome × ε)
    (procedure : Procedure Answer Memory (List Notification)) (memory : Memory) (state : ε) :
    Ending ε :=
  let ended := (client.perform procedure).against answer memory state
  ⟨ended.1, (client.perform procedure).calls answer memory state, ended.2.1, ended.2.2⟩

/-- Transform events one after the other, counting them, with their number behind each id. -/
def inTurn (listener : Listener) (client : Client) (answer : Request → ε → Outcome × ε)
    (subscription : String) : Nat → List ChainEvent → Memory → ε → Ending ε
  | _, [], memory, state => ⟨[], [], memory, state⟩
  | position, single :: rest, memory, state =>
    let first := ending client answer (listener.transform subscription single) memory state
    let later := listener.inTurn client answer subscription (position + 1) rest
      first.memory first.state
    ⟨first.heard.map (·.withSuffix ("." ++ Nat.repr position)) ++ later.heard,
      first.calls ++ later.calls, later.memory, later.state⟩

theorem ending_bind (answer : Request → ε → Outcome × ε)
    (procedure : Procedure Answer Memory (List Notification))
    (next : List Notification → Procedure Answer Memory (List Notification))
    (memory : Memory) (state : ε) :
    let first := ending client answer procedure memory state
    let later := ending client answer (next first.heard) first.memory first.state
    ending client answer (procedure.bind next) memory state =
      { later with calls := first.calls ++ later.calls } := by
  simp only [ending, Client.perform, Procedure.answeredBy_bind, Procedure.against_bind,
    Procedure.calls_bind]

/-- Changing what is heard changes nothing else. -/
theorem ending_map (answer : Request → ε → Outcome × ε)
    (procedure : Procedure Answer Memory (List Notification))
    (change : List Notification → List Notification) (memory : Memory) (state : ε) :
    let first := ending client answer procedure memory state
    ending client answer (procedure.bind fun heard => .done (change heard)) memory state =
      { first with heard := change first.heard } := by
  rw [ending_bind]
  simp only [ending, Client.perform, Procedure.answeredBy, Procedure.against,
    Procedure.calls, List.append_nil]

/-! ## One entry -/

/-- The event of a single transfer at the place of another event, with the same input. -/
structure SingleAt (event : ChainEvent) (data : TransferData) (single : ChainEvent) : Prop where
  signed : single.signature = PoolEvent.single.signature
  placed : single.locator = event.locator
  input : single.inputData = event.inputData
  reads : TransferData.codec.read single.data = .ok data

theorem moved_of_singleAt {data : TransferData} (entry : SingleAt event data single)
    (position : Nat) (accepted : Accepted) (uri : String) :
    moved event data (some position) accepted uri =
      (moved single data none accepted uri).withSuffix ("." ++ Nat.repr position) := by
  obtain ⟨block, -, -, log⟩ := Locator.mk.inj entry.placed
  simp only [moved, transferId, entry.input, entry.placed, block, log, Numeral.text_eq_repr]
  split
  · simp only [Notification.withSuffix, String.append_assoc]
  · split <;> simp only [Notification.withSuffix, String.append_assoc]

theorem accept?_of_singleAt {data : TransferData} (entry : SingleAt event data single)
    (name : SubscriptionName) : accept? name event data = accept? name single data := by
  obtain ⟨-, index, -, -⟩ := Locator.mk.inj entry.placed
  simp only [accept?, index]

/-- An entry of a batch is transformed as its single transfer, with its position behind the id. -/
theorem transformTransfer_of_singleAt {data : TransferData} (entry : SingleAt event data single)
    (position : Nat) :
    listener.transformTransfer (listener.nameOf subscription) event data (some position) =
      (listener.transform subscription single).bind fun heard =>
        .done (heard.map (·.withSuffix ("." ++ Nat.repr position))) := by
  rw [transform_of_single entry.signed entry.reads, transformTransfer, transformTransfer,
    accept?_of_singleAt entry]
  cases accept? (listener.nameOf subscription) single data with
  | none => rfl
  | some accepted =>
      simp only [Procedure.bind_eq, Procedure.bind_assoc]
      congr 1
      funext uri
      rw [moved_of_singleAt entry]
      rfl

/-! ## All entries -/

theorem transformTransfers_cons (listener : Listener) (name : SubscriptionName)
    (event : ChainEvent) (position : Nat) (data : TransferData) (rest : List TransferData) :
    listener.transformTransfers name event position (data :: rest) =
      (listener.transformTransfer name event data (some position)).bind fun first =>
        (listener.transformTransfers name event (position + 1) rest).bind fun others =>
          .done (first ++ others) :=
  rfl

/-- The entries from a position on come to what their single transfers come to in turn. -/
theorem ending_transformTransfers {transfers : List TransferData} {singles : List ChainEvent}
    (entries : List.Forall₂ (SingleAt event) transfers singles)
    (answer : Request → ε → Outcome × ε) (position : Nat) (memory : Memory) (state : ε) :
    ending client answer (listener.transformTransfers (listener.nameOf subscription) event
        position transfers) memory state =
      listener.inTurn client answer subscription position singles memory state := by
  induction entries generalizing position memory state with
  | nil => rfl
  | @cons data single rest others entry entries induction =>
      have first : ending client answer (listener.transformTransfer
          (listener.nameOf subscription) event data (some position)) memory state =
            let heard := ending client answer (listener.transform subscription single) memory state
            { heard with heard := heard.heard.map (·.withSuffix ("." ++ Nat.repr position)) } := by
        rw [transformTransfer_of_singleAt entry]
        exact ending_map answer _ _ memory state
      rw [transformTransfers_cons, ending_bind, first, ending_map, induction]
      rfl

/-- The events of single transfers that a batch is short for. -/
structure Expands (event : ChainEvent) (batch : BatchData) (singles : List ChainEvent) :
    Prop where
  length : singles.length = min batch.ids.length batch.values.length
  entry : ∀ (position : Nat) single id value, singles[position]? = some single →
    batch.ids[position]? = some id → batch.values[position]? = some value →
    SingleAt event ⟨batch.sender, batch.receiver, batch.operator, id, value⟩ single

theorem Expands.forall₂ {singles : List ChainEvent} (expands : Expands event batch singles) :
    List.Forall₂ (SingleAt event) batch.split singles := by
  rw [List.forall₂_iff_get]
  refine ⟨batch.length_split.trans expands.length.symm, ?_⟩
  intro position inSplit inSingles
  rw [BatchData.length_split, Nat.lt_min] at inSplit
  have listed := List.getElem?_eq_getElem inSplit.1
  have valued := List.getElem?_eq_getElem inSplit.2
  have found := BatchData.split_getElem? listed valued
  rw [List.get_eq_getElem, (List.getElem?_eq_some_iff.1 found).2, List.get_eq_getElem]
  exact expands.entry position _ _ _ (List.getElem?_eq_getElem inSingles) listed valued

/-- The event of a single transfer with written data. -/
def singleEvent (event : ChainEvent) (data : TransferData) : ChainEvent :=
  { event with
    signature := PoolEvent.single.signature
    data := TransferData.codec.encode data }

theorem expands_split (event : ChainEvent) (batch : BatchData) :
    Expands event batch (batch.split.map (singleEvent event)) where
  length := by rw [List.length_map, BatchData.length_split]
  entry := by
    intro position single id value there listed valued
    rw [List.getElem?_map, BatchData.split_getElem? listed valued] at there
    obtain rfl := Option.some.inj there
    exact ⟨rfl, rfl, rfl, rfl⟩

/-! ## Ids -/

/-- The ids from a position on carry positions from there on. -/
theorem exists_transferId_of_mem_drawnTransfers {name : SubscriptionName}
    {uri : String → String} {transfers : List TransferData} {position : Nat} {id : Option String}
    (member : id ∈ (drawnTransfers name event uri position transfers).map
      Notification.transferId?) :
    ∃ index later, readIndex? event.transactionIndex = some index ∧ position ≤ later ∧
      id = some (transferId event index (some later)) := by
  induction transfers generalizing position with
  | nil => exact absurd member List.not_mem_nil
  | cons data rest induction =>
      rw [drawnTransfers, List.map_append, List.mem_append] at member
      rcases member with here | there
      · cases accepts : accept? name event data with
        | none =>
            rw [heardTransfer, accepts] at here
            exact absurd here List.not_mem_nil
        | some accepted =>
            rw [heardTransfer, accepts, List.map_singleton, transferId?_moved,
              List.mem_singleton] at here
            obtain ⟨word, index, concerned, rfl⟩ := (accept?_eq_some_iff _ _).1 accepts
            exact ⟨index, position, (readIndex?_eq_some_iff _ _).2 concerned.placed, le_rfl, here⟩
      · obtain ⟨index, later, reads, beyond, same⟩ := induction there
        exact ⟨index, later, reads, Nat.le_of_succ_le beyond, same⟩

theorem nodup_transferIds_drawnTransfers (name : SubscriptionName) (event : ChainEvent)
    (uri : String → String) (position : Nat) (transfers : List TransferData) :
    ((drawnTransfers name event uri position transfers).map Notification.transferId?).Nodup := by
  induction transfers generalizing position with
  | nil => exact List.nodup_nil
  | cons data rest induction =>
      rw [drawnTransfers, List.map_append]
      cases accepts : accept? name event data with
      | none =>
          rw [heardTransfer, accepts]
          exact induction (position + 1)
      | some accepted =>
          rw [heardTransfer, accepts, List.map_singleton, transferId?_moved,
            List.singleton_append, List.nodup_cons]
          refine ⟨?_, induction (position + 1)⟩
          intro member
          obtain ⟨index, later, reads, beyond, same⟩ :=
            exists_transferId_of_mem_drawnTransfers member
          obtain ⟨word, place, concerned, rfl⟩ := (accept?_eq_some_iff _ _).1 accepts
          rw [(readIndex?_eq_some_iff _ _).2 concerned.placed] at reads
          obtain rfl := Option.some.inj reads
          have positions := transferId_injective (Option.some.inj same)
          omega

/-- The ids of what is heard do not depend on what the calls come to. -/
theorem Tells.transferIds {draw : (String → String) → List Notification} {memory after : Memory}
    {calls : List (Request × Outcome)} {heard : List Notification}
    (tells : listener.Tells draw memory calls heard after) :
    heard.map Notification.transferId? = (draw fun _ => "").map Notification.transferId? := by
  have drawn := congrArg (List.map Notification.transferId?) tells.plain
  simp only [List.map_map, Function.comp_def, Notification.transferId?_withUri] at drawn
  exact drawn

theorem transferIds_transformTransfers (client : Client) (answer : Request → ε → Outcome × ε)
    (name : SubscriptionName) (position : Nat) (transfers : List TransferData)
    (memory : Memory) (state : ε) :
    (ending client answer (listener.transformTransfers name event position transfers) memory
        state).heard.map Notification.transferId? =
      (drawnTransfers name event (fun _ => "") position transfers).map
        Notification.transferId? := by
  have tells := tells_transformTransfers (Procedure.runsAlone_calls answer (client.perform
    (listener.transformTransfers name event position transfers)) memory state)
  exact tells.transferIds

/-! ## The main result -/

/--
A batch comes to what its single transfers come to one after the other, each marked with its
position: the same is heard in the same order, the same calls are made, and the memory and the
connector are left alike.  No two notifications of a batch have one id.
-/
theorem batch_eq_singles_inTurn (listener : Listener) (client : Client)
    (answer : Request → ε → Outcome × ε) (subscription : String) (memory : Memory) (state : ε)
    (signed : event.signature = PoolEvent.batch.signature)
    (reads : BatchData.codec.read event.data = .ok batch) :
    (∃ singles, Expands event batch singles) ∧
    (∀ singles, Expands event batch singles →
      ending client answer (listener.transform subscription event) memory state =
        listener.inTurn client answer subscription 0 singles memory state) ∧
    ((ending client answer (listener.transform subscription event) memory state).heard.map
      Notification.transferId?).Nodup := by
  rw [transform_of_batch signed reads]
  refine ⟨⟨_, expands_split event batch⟩, fun singles expands => ?_, ?_⟩
  · exact ending_transformTransfers expands.forall₂ answer 0 memory state
  · rw [transferIds_transformTransfers]
    exact nodup_transferIds_drawnTransfers _ event _ 0 batch.split

/-- A batch with a token of another pool first and an id without a value last. -/
def mixedBatch : BatchData :=
  ⟨"0xaa", "0xbb", "0xaa", [Nat.repr fifthTokenWord, firstPoolData.id, firstPoolData.id],
    ["1", "2"]⟩

/-- The event of that batch. -/
def mixedEvent : ChainEvent :=
  { firstPoolEvent with
    signature := PoolEvent.batch.signature
    data := BatchData.codec.encode mixedBatch }

/-- The second entry of the batch is heard, under its own position, and nothing else is. -/
theorem batch_eq_singles_inTurn_of_mixed :
    let client : Client := ⟨⟨1, 0, 0, 1.0⟩, fun _ => false⟩
    let heard := ending client Client.prepared (transform ⟨"tok", ""⟩ "tok:F1" mixedEvent) none []
    heard = inTurn ⟨"tok", ""⟩ client Client.prepared "tok:F1" 0
        [singleEvent mixedEvent ⟨"0xaa", "0xbb", "0xaa", Nat.repr fifthTokenWord, "1"⟩,
          singleEvent mixedEvent ⟨"0xaa", "0xbb", "0xaa", firstPoolData.id, "2"⟩] none [] ∧
      heard.heard.map Notification.transferId? = [some "9.1.0.1"] := by
  intro client heard
  have reads : BatchData.codec.read mixedEvent.data = .ok mixedBatch := by
    rfl
  obtain ⟨-, same, -⟩ := batch_eq_singles_inTurn ⟨"tok", ""⟩ client Client.prepared "tok:F1"
    none [] rfl reads
  refine ⟨same _ (expands_split mixedEvent mixedBatch), ?_⟩
  simp only [heard]
  rw [transform_of_batch rfl reads, transferIds_transformTransfers]
  decide +kernel

end Listener

end TokenRelay
