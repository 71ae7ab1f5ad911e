import TokenRelay.Proofs.Listener.Batch
import TokenRelay.Proofs.Listener.Replay

/-!
# Ids of what moves

A transfer's id joins the texts of its block and log entry, its place in the block and, within
a batch, its position.  The place is written in base ten however the event spells it.  As long
as neither text holds the separator an id is split back into its parts, so two ids are equal
exactly if everything that they are made of is, whether they come from single transfers or from
batches.

Which of an event's entries a notification stems from is told without a look at its id:
`sources` lists the entries that concern the subscription, and what is heard stands in the same
order.
-/

namespace TokenRelay

/-! ## Spellings of a place -/

namespace Word

theorem valueFrom_append (base value : Nat) (first second : List Char) :
    valueFrom base value (first ++ second) =
      valueFrom base (valueFrom base value first) second := by
  induction first generalizing value with
  | nil => rfl
  | cons char rest induction =>
      rw [List.cons_append, valueFrom, valueFrom]
      split
      · exact induction value
      · exact induction _

/-- Zeros in front of a text change nothing. -/
theorem valueFrom_zeros (base count : Nat) (digits : List Char) (based : 0 < base) :
    valueFrom base 0 (List.replicate count '0' ++ digits) = valueFrom base 0 digits := by
  have zero : digit? base '0' = some 0 := by
    rw [digit?, show digitValue? '0' = some 0 from rfl, Option.filter_some, if_pos]
    exact decide_eq_true based
  induction count with
  | zero => rfl
  | succ count induction =>
      rw [List.replicate_succ, List.cons_append, valueFrom, if_neg (by decide), zero,
        Option.getD_some, Nat.zero_mul, Nat.zero_add]
      exact induction

/-- A letter counts the same in either case. -/
theorem digit?_lowerAscii (base : Nat) (char : Char) :
    digit? base (lowerAscii char) = digit? base char := by
  by_cases upper : 65 ≤ char.toNat ∧ char.toNat ≤ 90
  · have lower := lowerAscii_of_upper upper
    have value : digitValue? (lowerAscii char) = digitValue? char := by
      rw [digitValue?, digitValue?, lower, if_neg (by omega), if_pos (by omega),
        if_neg (by omega), if_neg (by omega), if_pos (by omega)]
      exact congrArg some (by omega)
    rw [digit?, digit?, value]
  · rw [lowerAscii, if_neg upper]

theorem digit?_digitChar {digit : Nat} (small : digit < 16) :
    digit? 16 digit.digitChar = some digit := by
  interval_cases digit <;> rfl

/-- A character that is a digit of base sixteen when it is written small. -/
theorem valueFrom_singleton {char : Char} {digit : Nat} (value : Nat) (small : digit < 16)
    (written : lowerAscii char = digit.digitChar) :
    Readable 16 char ∧ valueFrom 16 value [char] = value * 16 + digit := by
  have read : digit? 16 char = some digit := by
    rw [← digit?_lowerAscii, written, digit?_digitChar small]
  have notSkipped : char ≠ '_' := by
    rintro rfl
    cases read
  refine ⟨.inr (by rw [read]; rfl), ?_⟩
  rw [valueFrom, if_neg notSkipped, read]
  rfl

/-- The digits of a number in base sixteen, in either case, are read as the number. -/
theorem valueFrom_toDigits (index : Nat) {digits : List Char}
    (written : digits.map lowerAscii = Nat.toDigits 16 index) :
    (∀ char ∈ digits, Readable 16 char) ∧ valueFrom 16 0 digits = index := by
  induction index using Nat.strong_induction_on generalizing digits with
  | _ index induction =>
      by_cases small : index < 16
      · rw [Nat.toDigits_of_lt_base small] at written
        obtain ⟨char, rfl, last⟩ := List.map_eq_singleton_iff.1 written
        obtain ⟨readable, value⟩ := valueFrom_singleton 0 small last
        exact ⟨List.forall_mem_singleton.2 readable, by rw [value, Nat.zero_mul, Nat.zero_add]⟩
      · rw [Nat.toDigits_of_base_le (by omega) (by omega)] at written
        obtain ⟨first, final, rfl, shorter, single⟩ := List.map_eq_append_iff.1 written
        obtain ⟨char, rfl, last⟩ := List.map_eq_singleton_iff.1 single
        obtain ⟨readables, before⟩ := induction (index / 16) (by omega) shorter
        have below : index % 16 < 16 := Nat.mod_lt index (by omega)
        obtain ⟨readable, value⟩ := valueFrom_singleton (valueFrom 16 0 first) below last
        refine ⟨List.forall_mem_append.2 ⟨readables, List.forall_mem_singleton.2 readable⟩, ?_⟩
        rw [valueFrom_append, value, before]
        omega

end Word

/-- The usual texts of a number: in base ten, or in base sixteen in letters of either case. -/
inductive Writes (index zeros : Nat) (text : String) : Prop where
  | decimal (written : text.toList = List.replicate zeros '0' ++ Nat.toDigits 10 index)
  | hexadecimal {letter : Char} {digits : List Char} (marked : letter = 'x' ∨ letter = 'X')
      (digital : digits.map lowerAscii = Nat.toDigits 16 index)
      (written : text.toList = '0' :: letter :: (List.replicate zeros '0' ++ digits))

theorem Writes.placed {index zeros : Nat} {text : String} (writes : Writes index zeros text)
    (inBounds : index < 2 ^ 256) : Placed text index := by
  have bounded : index < Word.count := inBounds
  cases writes with
  | decimal written =>
      refine .decimal ?_
      rw [written]
      refine Word.spells_of_denotes ⟨?_, ?_, ?_⟩ bounded
      · exact List.append_ne_nil_of_right_ne_nil _ Nat.toDigits_ne_nil
      · refine List.forall_mem_append.2 ⟨fun char member => ?_, fun char member => ?_⟩
        · rw [List.eq_of_mem_replicate member]
          rfl
        · exact Nat.isDigit_of_mem_toDigits (by omega) (by omega) member
      · rw [Nat.ofDigitChars_append, Nat.ofDigitChars_replicate_zero, Nat.mul_zero]
        exact Nat.ofDigitChars_ten_toDigits
  | @hexadecimal letter digits marked digital written =>
      obtain ⟨readable, value⟩ := Word.valueFrom_toDigits index digital
      refine .hexadecimal marked written ⟨?_, ?_, bounded⟩
      · refine List.forall_mem_append.2 ⟨fun char member => ?_, readable⟩
        rw [List.eq_of_mem_replicate member]
        exact .inr rfl
      · rw [Word.valueFrom_zeros 16 zeros digits (by omega), value]

theorem Placed.unique {text : String} {first second : Nat} (placed : Placed text first)
    (again : Placed text second) : first = second := by
  rw [← Listener.readIndex?_eq_some_iff] at placed again
  exact Option.some.inj (placed.symm.trans again)

/-! ## Ids -/

/-- Where on the chain something moved. -/
structure ChainPlace where
  block : String
  index : Nat
  log : String
  /-- The position within a batch. -/
  position : Option Nat
  deriving DecidableEq

namespace ChainPlace

/-- The parts of a place's id. -/
def segments (place : ChainPlace) : List (List Char) :=
  [place.block.toList, (Nat.repr place.index).toList, place.log.toList] ++
    (place.position.map fun position => (Nat.repr position).toList).toList

/-- The id of what moved at a place. -/
def id (place : ChainPlace) : String :=
  place.block ++ "." ++ Nat.repr place.index ++ "." ++ place.log ++
    match place.position with
    | none => ""
    | some position => "." ++ Nat.repr position

/-- That neither text of a place holds the separator of its id. -/
structure Plain (place : ChainPlace) : Prop where
  block : '.' ∉ place.block.toList
  log : '.' ∉ place.log.toList

theorem toList_id (place : ChainPlace) : place.id.toList = ['.'].intercalate place.segments := by
  have dot : ".".toList = ['.'] := by
    decide
  obtain ⟨block, index, log, position⟩ := place
  cases position <;>
    simp [id, segments, dot, List.intercalate, List.intersperse]

theorem separator_notMem_repr (number : Nat) : '.' ∉ (Nat.repr number).toList := by
  intro member
  rw [Nat.repr_eq_ofList_toDigits, String.toList_ofList] at member
  exact absurd (Nat.isDigit_of_mem_toDigits (by omega) (by omega) member) (by decide)

/-- The id of a plain place is split back into its parts. -/
theorem splitOn_id {place : ChainPlace} (plain : place.Plain) :
    place.id.toList.splitOn '.' = place.segments := by
  have plainSegments : ∀ segment ∈ place.segments, '.' ∉ segment := by
    intro segment member
    simp only [segments, List.mem_append, List.mem_cons, List.not_mem_nil, or_false,
      Option.mem_toList, Option.map_eq_some_iff] at member
    rcases member with (rfl | rfl | rfl) | ⟨position, -, rfl⟩
    · exact plain.block
    · exact separator_notMem_repr _
    · exact plain.log
    · exact separator_notMem_repr _
  rw [toList_id]
  exact List.splitOn_intercalate '.' plainSegments (List.cons_ne_nil _ _)

theorem toList_repr_injective {first second : Nat}
    (same : (Nat.repr first).toList = (Nat.repr second).toList) : first = second :=
  Nat.repr_injective (String.toList_inj.1 same)

theorem segments_injective {first second : ChainPlace} (same : first.segments = second.segments) :
    first = second := by
  obtain ⟨block, index, log, position⟩ := first
  obtain ⟨block', index', log', position'⟩ := second
  simp only [segments, List.cons_append, List.nil_append, List.cons.injEq] at same
  obtain ⟨blocks, indexes, logs, positions⟩ := same
  obtain rfl := String.toList_inj.1 blocks
  obtain rfl := toList_repr_injective indexes
  obtain rfl := String.toList_inj.1 logs
  have shown := congrArg List.head? positions
  rw [Option.head?_toList, Option.head?_toList] at shown
  obtain rfl := Option.map_injective (fun _ _ => toList_repr_injective) shown
  rfl

/-- Plain places have one id exactly if they are one place. -/
theorem id_eq_id_iff {first second : ChainPlace} (plain : first.Plain) (other : second.Plain) :
    first.id = second.id ↔ first = second := by
  constructor
  · intro same
    have split := splitOn_id plain
    rw [same, splitOn_id other] at split
    exact segments_injective split.symm
  · exact congrArg id

end ChainPlace

namespace Listener

variable {listener : Listener} {client : Client} {subscription : String} {event : ChainEvent}
  {memory middle after : Memory} {calls : List (Request × Outcome)} {name : SubscriptionName}

/-! ## Which entries are heard -/

/-- That a transfer concerns a subscription. -/
def Heeded (name : SubscriptionName) (event : ChainEvent) (data : TransferData) : Prop :=
  ∃ word index, Concerned name event data word index

theorem isSome_accept?_iff (name : SubscriptionName) (event : ChainEvent) (data : TransferData) :
    (accept? name event data).isSome ↔ Heeded name event data := by
  rw [Option.isSome_iff_exists]
  constructor
  · rintro ⟨accepted, accepts⟩
    obtain ⟨word, index, concerned, -⟩ := (accept?_eq_some_iff _ _).1 accepts
    exact ⟨word, index, concerned⟩
  · rintro ⟨word, index, concerned⟩
    exact ⟨_, (accept?_eq_some_iff _ _).2 ⟨word, index, concerned, rfl⟩⟩

instance (name : SubscriptionName) (event : ChainEvent) (data : TransferData) :
    Decidable (Heeded name event data) :=
  decidable_of_iff _ (isSome_accept?_iff name event data)

/-- The positions, from a position on, of the entries that concern a subscription. -/
def heededFrom (name : SubscriptionName) (event : ChainEvent) :
    Nat → List TransferData → List Nat
  | _, [] => []
  | position, data :: rest =>
    if Heeded name event data then position :: heededFrom name event (position + 1) rest
    else heededFrom name event (position + 1) rest

/-- The entries of an event that concern a subscription; a single transfer has no position. -/
def sources (listener : Listener) (subscription : String) (event : ChainEvent) :
    List (Option Nat) :=
  let name := listener.nameOf subscription
  match PoolEvent.ofSignature? event.signature with
  | none => []
  | some .create => []
  | some .single =>
    match TransferData.codec.read event.data with
    | .error _ => []
    | .ok data => if Heeded name event data then [none] else []
  | some .batch =>
    match BatchData.codec.read event.data with
    | .error _ => []
    | .ok batch => (heededFrom name event 0 batch.split).map some

/-- The place of an event's entry. -/
def placeOf (event : ChainEvent) (index : Nat) (position : Option Nat) : ChainPlace :=
  ⟨event.blockNumber, index, event.logIndex, position⟩

theorem transferId_eq_id (event : ChainEvent) (index : Nat) (position : Option Nat) :
    transferId event index position = (placeOf event index position).id := by
  cases position <;>
    simp only [transferId, ChainPlace.id, placeOf, Numeral.text_eq_repr, String.append_assoc,
      String.append_empty]

/-! ## What is drawn, by its ids -/

theorem transferIds_heardTransfer {index : Nat} (placed : Placed event.transactionIndex index)
    (name : SubscriptionName) (data : TransferData) (position : Option Nat) (uri : String) :
    (heardTransfer name event data position uri).map Notification.transferId? =
      if Heeded name event data then [some (placeOf event index position).id] else [] := by
  split
  · rename_i heeded
    obtain ⟨word, found, concerned⟩ := heeded
    obtain rfl := placed.unique concerned.placed
    rw [heardTransfer_of_concerned concerned, List.map_singleton, transferId?_moved,
      transferId_eq_id]
  · rename_i ignored
    rw [← isSome_accept?_iff, Option.not_isSome_iff_eq_none] at ignored
    rw [heardTransfer, ignored, List.map_nil]

theorem transferIds_drawnTransfers {index : Nat} (placed : Placed event.transactionIndex index)
    (name : SubscriptionName) (uri : String → String) (position : Nat)
    (transfers : List TransferData) :
    (drawnTransfers name event uri position transfers).map Notification.transferId? =
      (heededFrom name event position transfers).map fun position =>
        some (placeOf event index (some position)).id := by
  induction transfers generalizing position with
  | nil => rfl
  | cons data rest induction =>
      rw [drawnTransfers, List.map_append, transferIds_heardTransfer placed, induction, heededFrom]
      split
      · rw [List.map_cons, List.singleton_append]
      · rw [List.nil_append]

/-- Creations aside, what is drawn has the ids of the entries that concern the subscription. -/
theorem transferIds_drawn {index : Nat} (placed : Placed event.transactionIndex index)
    (listener : Listener) (subscription : String) (uri : String → String)
    (moves : PoolEvent.ofSignature? event.signature ≠ some .create) :
    (listener.drawn subscription event uri).map Notification.transferId? =
      (listener.sources subscription event).map fun position =>
        some (placeOf event index position).id := by
  unfold drawn sources
  cases signed : PoolEvent.ofSignature? event.signature with
  | none => rfl
  | some kind =>
      cases kind with
      | create => exact (moves signed).elim
      | single =>
          cases reads : TransferData.codec.read event.data with
          | error fault => rfl
          | ok data =>
              simp only [transferIds_heardTransfer placed]
              split <;> rfl
      | batch =>
          cases reads : BatchData.codec.read event.data with
          | error fault => rfl
          | ok batch =>
              simp only [transferIds_drawnTransfers placed, List.map_map]
              rfl

theorem heardTransfer_of_unplaced (unplaced : ∀ index, ¬ Placed event.transactionIndex index)
    (name : SubscriptionName) (data : TransferData) (position : Option Nat) (uri : String) :
    heardTransfer name event data position uri = [] := by
  cases accepts : accept? name event data with
  | none => rw [heardTransfer, accepts]
  | some accepted =>
      obtain ⟨word, index, concerned, -⟩ := (accept?_eq_some_iff _ _).1 accepts
      exact (unplaced index concerned.placed).elim

theorem drawnTransfers_of_unplaced (unplaced : ∀ index, ¬ Placed event.transactionIndex index)
    (name : SubscriptionName) (uri : String → String) (position : Nat)
    (transfers : List TransferData) : drawnTransfers name event uri position transfers = [] := by
  induction transfers generalizing position with
  | nil => rfl
  | cons data rest induction =>
      rw [drawnTransfers, heardTransfer_of_unplaced unplaced, induction, List.append_nil]

/-- Nothing is drawn from an event without a place, unless it is a creation. -/
theorem drawn_of_unplaced (unplaced : ∀ index, ¬ Placed event.transactionIndex index)
    (listener : Listener) (subscription : String) (uri : String → String)
    (moves : PoolEvent.ofSignature? event.signature ≠ some .create) :
    listener.drawn subscription event uri = [] := by
  unfold drawn
  cases signed : PoolEvent.ofSignature? event.signature with
  | none => rfl
  | some kind =>
      cases kind with
      | create => exact (moves signed).elim
      | single =>
          cases reads : TransferData.codec.read event.data with
          | error fault => rfl
          | ok data => exact heardTransfer_of_unplaced unplaced _ _ _ _
      | batch =>
          cases reads : BatchData.codec.read event.data with
          | error fault => rfl
          | ok batch => exact drawnTransfers_of_unplaced unplaced _ _ _ _

/-- Nothing that moves is drawn from a creation. -/
theorem transferId?_of_mem_drawn_create
    (signed : PoolEvent.ofSignature? event.signature = some .create) {uri : String → String}
    {notification : Notification} (member : notification ∈ listener.drawn subscription event uri) :
    notification.transferId? = none := by
  unfold drawn at member
  rw [signed] at member
  obtain ⟨data, word, -, rfl⟩ := (poolCreated?_eq_some_iff _).1 (Option.mem_toList.1 member)
  rfl

/-! ## What is heard, by its ids -/

/-- What moves is heard of events with a place only, and not of creations. -/
theorem placed_of_mem_heard {heard : List Notification}
    (runs : (client.perform (listener.transform subscription event)).RunsAlone
      memory calls heard after)
    {notification : Notification} (member : notification ∈ heard)
    (moves : notification.transferId?.isSome) :
    PoolEvent.ofSignature? event.signature ≠ some .create ∧
      ∃ index, Placed event.transactionIndex index := by
  have same := List.mem_map_of_mem (f := Notification.transferId?) member
  rw [(tells_transform runs).transferIds] at same
  obtain ⟨drawn, there, alike⟩ := List.mem_map.1 same
  have notCreate : PoolEvent.ofSignature? event.signature ≠ some .create := by
    intro signed
    rw [← alike, transferId?_of_mem_drawn_create signed there] at moves
    cases moves
  refine ⟨notCreate, ?_⟩
  by_contra unplaced
  rw [drawn_of_unplaced (not_exists.1 unplaced) listener subscription _ notCreate] at there
  exact List.not_mem_nil there

/-- A notification that stems from an entry of what an episode has transformed. -/
structure Emits (listener : Listener) (episode : Episode) (place : ChainPlace)
    (notification : Notification) : Prop where
  block : place.block = episode.event.blockNumber
  log : place.log = episode.event.logIndex
  placed : Placed episode.event.transactionIndex place.index
  /-- It stands among what was heard where its entry stands among those of the event. -/
  stands : ∃ order : Nat, episode.heard[order]? = some notification ∧
    (listener.sources episode.subscription episode.event)[order]? = some place.position

theorem sources_of_create (signed : PoolEvent.ofSignature? event.signature = some .create) :
    listener.sources subscription event = [] := by
  simp only [sources, signed]

section Episode

variable {episode : Episode}
  (runs : (client.perform (listener.transform episode.subscription episode.event)).RunsAlone
    memory episode.calls episode.heard after)

include runs

/-- Whatever moves stems from an entry with a place. -/
theorem exists_emits {notification : Notification} (member : notification ∈ episode.heard)
    (moves : notification.transferId?.isSome) :
    ∃ place, listener.Emits episode place notification := by
  obtain ⟨notCreate, index, placed⟩ := placed_of_mem_heard runs member moves
  have ids := (tells_transform runs).transferIds
  rw [transferIds_drawn placed listener episode.subscription _ notCreate] at ids
  obtain ⟨order, there⟩ := List.mem_iff_getElem?.1 member
  have stands := congrArg (·[order]?) ids
  simp only [List.getElem?_map, there, Option.map_some] at stands
  obtain ⟨position, source, -⟩ := Option.map_eq_some_iff.1 stands.symm
  exact ⟨placeOf episode.event index position, rfl, rfl, placed, order, there, source⟩

/-- A notification carries the id of the place that it stems from. -/
theorem Emits.transferId? {place : ChainPlace} {notification : Notification}
    (emits : listener.Emits episode place notification) :
    notification.transferId? = some place.id := by
  obtain ⟨order, there, source⟩ := emits.stands
  have notCreate : PoolEvent.ofSignature? episode.event.signature ≠ some .create := by
    intro signed
    rw [sources_of_create signed] at source
    cases source
  have ids := (tells_transform runs).transferIds
  rw [transferIds_drawn emits.placed listener episode.subscription _ notCreate] at ids
  have stands := congrArg (·[order]?) ids
  simp only [List.getElem?_map, there, source, Option.map_some] at stands
  have whole : placeOf episode.event place.index place.position = place := by
    rw [placeOf, ← emits.block, ← emits.log]
  rw [Option.some.inj stands, whole]

end Episode

theorem Career.runs_of_mem {episodes : List Episode} {episode : Episode}
    (career : listener.Career client memory episodes after) (member : episode ∈ episodes) :
    ∃ before later, (client.perform (listener.transform episode.subscription
      episode.event)).RunsAlone before episode.calls episode.heard later := by
  obtain ⟨first, later, rfl⟩ := List.append_of_mem member
  obtain ⟨middle, -, career⟩ := career.split
  cases career with
  | cons runs career => exact ⟨middle, _, runs⟩

/-! ## The main result -/

/--
Ids tell apart what moves.  Over a listener's life every notification of something moved stems
from an entry of its event and carries the id of that entry's place, with the place in the block
in base ten.  Plain places have one id exactly if they are one place: the same texts of block and
log entry, the same number however it was spelled, and the same position or none.  An event
without a place in its block moves nothing.
-/
theorem transferIds_identify {episodes : List Episode}
    (career : listener.Career client memory episodes after) :
    (∀ episode ∈ episodes, ∀ notification ∈ episode.heard, notification.transferId?.isSome →
      ∃ place, listener.Emits episode place notification) ∧
    (∀ episode ∈ episodes, ∀ place notification, listener.Emits episode place notification →
      notification.transferId? = some place.id ∧
        (place.Plain → place.id.toList.splitOn '.' = place.segments)) ∧
    (∀ first ∈ episodes, ∀ second ∈ episodes, ∀ place other notification another,
      listener.Emits first place notification → listener.Emits second other another →
      place.Plain → other.Plain →
      (notification.transferId? = another.transferId? ↔ place = other)) ∧
    (∀ episode ∈ episodes, (∀ index, ¬ Placed episode.event.transactionIndex index) →
      ∀ notification ∈ episode.heard, notification.transferId? = none) ∧
    (∀ text first second, Placed text first → Placed text second → first = second) ∧
    (∀ text index zeros, index < 2 ^ 256 → Writes index zeros text → Placed text index) := by
  refine ⟨?_, ?_, ?_, ?_, fun _ _ _ placed again => placed.unique again,
    fun _ _ _ inBounds writes => writes.placed inBounds⟩
  · intro episode member notification heard moves
    obtain ⟨before, later, runs⟩ := career.runs_of_mem member
    exact exists_emits runs heard moves
  · intro episode member place notification emits
    obtain ⟨before, later, runs⟩ := career.runs_of_mem member
    exact ⟨emits.transferId? runs, ChainPlace.splitOn_id⟩
  · intro first member second memberToo place other notification another emits emitsToo plain
      plainToo
    obtain ⟨before, later, runs⟩ := career.runs_of_mem member
    obtain ⟨earlier, last, runsToo⟩ := career.runs_of_mem memberToo
    rw [emits.transferId? runs, emitsToo.transferId? runsToo, Option.some.injEq]
    exact ChainPlace.id_eq_id_iff plain plainToo
  · intro episode member unplaced notification heard
    obtain ⟨before, later, runs⟩ := career.runs_of_mem member
    by_contra moves
    obtain ⟨-, index, placed⟩ :=
      placed_of_mem_heard runs heard (Option.isSome_iff_ne_none.2 moves)
    exact unplaced index placed

/-- The transform of an event by a listener that knows the template. -/
def knownEpisode (listener : Listener) (template subscription : String) (event : ChainEvent) :
    Episode :=
  ⟨subscription, event, [], listener.drawn subscription event (fill template)⟩

/-- A listener that knows the template transforms whatever is delivered without a call. -/
theorem career_of_known (listener : Listener) (client : Client) (template : String)
    (deliveries : List (String × ChainEvent)) :
    listener.Career client (some template)
      (deliveries.map fun (subscription, event) =>
        listener.knownEpisode template subscription event) (some template) := by
  induction deliveries with
  | nil => exact .nil _
  | cons delivery later induction =>
      obtain ⟨subscription, event⟩ := delivery
      have runs := Procedure.runsAlone_calls Client.prepared
        (client.perform (listener.transform subscription event)) (some template) []
      have tells := tells_transform runs
      obtain ⟨silent, kept⟩ := tells.learns.keeps
      rw [silent, kept, tells.known template rfl] at runs
      exact .cons runs induction

/-- A transfer in the first pool whose place is spelled in some way. -/
def spelledEvent (index : String) : ChainEvent :=
  { firstPoolEvent with transactionIndex := index }

/-- The tenth place of a block is one place in two spellings, and a batch's entry is another. -/
theorem transferIds_identify_of_spellings :
    let small := knownEpisode ⟨"tok", ""⟩ plainTemplate "tok:F1" (spelledEvent "0X0a")
    let plain := knownEpisode ⟨"tok", ""⟩ plainTemplate "tok:F1" (spelledEvent "10")
    let batch := knownEpisode ⟨"tok", ""⟩ plainTemplate "tok:F1"
      { mixedEvent with transactionIndex := "0x00A" }
    ∃ one other another, small.heard = [one] ∧ plain.heard = [other] ∧ batch.heard = [another] ∧
      one.transferId? = other.transferId? ∧ one.transferId? ≠ another.transferId? := by
  intro small plain batch
  have career : Career ⟨"tok", ""⟩ hastyClient (some plainTemplate) [small, plain, batch]
      (some plainTemplate) :=
    career_of_known _ _ _ [("tok:F1", spelledEvent "0X0a"), ("tok:F1", spelledEvent "10"),
      ("tok:F1", { mixedEvent with transactionIndex := "0x00A" })]
  have smallIds : small.heard.map Notification.transferId? = [some "9.10.0"] := by
    decide +kernel
  have plainIds : plain.heard.map Notification.transferId? = [some "9.10.0"] := by
    decide +kernel
  have batchIds : batch.heard.map Notification.transferId? = [some "9.10.0.1"] := by
    decide +kernel
  obtain ⟨one, smallHeard, -⟩ := List.map_eq_singleton_iff.1 smallIds
  obtain ⟨other, plainHeard, -⟩ := List.map_eq_singleton_iff.1 plainIds
  obtain ⟨another, batchHeard, -⟩ := List.map_eq_singleton_iff.1 batchIds
  have placed : ∀ text, readIndex? text = some 10 → Placed text 10 :=
    fun text => (readIndex?_eq_some_iff text 10).1
  have emitsOne : Emits ⟨"tok", ""⟩ small ⟨"9", 10, "0", none⟩ one :=
    ⟨rfl, rfl, placed _ (by decide +kernel), 0, by rw [smallHeard]; rfl, by decide +kernel⟩
  have emitsOther : Emits ⟨"tok", ""⟩ plain ⟨"9", 10, "0", none⟩ other :=
    ⟨rfl, rfl, placed _ (by decide +kernel), 0, by rw [plainHeard]; rfl, by decide +kernel⟩
  have emitsAnother : Emits ⟨"tok", ""⟩ batch ⟨"9", 10, "0", some 1⟩ another :=
    ⟨rfl, rfl, placed _ (by decide +kernel), 0, by rw [batchHeard]; rfl, by decide +kernel⟩
  have block : '.' ∉ "9".toList := by
    decide
  have log : '.' ∉ "0".toList := by
    decide
  have plainPlace : ∀ position, ChainPlace.Plain ⟨"9", 10, "0", position⟩ :=
    fun _ => ⟨block, log⟩
  obtain ⟨-, -, identify, -⟩ := transferIds_identify career
  refine ⟨one, other, another, smallHeard, plainHeard, batchHeard, ?_, ?_⟩
  · exact (identify small (by simp) plain (by simp) _ _ _ _ emitsOne emitsOther (plainPlace _)
      (plainPlace _)).2 rfl
  · refine mt (identify small (by simp) batch (by simp) _ _ _ _ emitsOne emitsAnother
      (plainPlace _) (plainPlace _)).1 ?_
    decide

end Listener

end TokenRelay
