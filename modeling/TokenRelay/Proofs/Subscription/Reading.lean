import TokenRelay.Proofs.Subscription.Name

/-!
# What a name is read as

A name is under a topic if it begins with the topic and the delimiter.  Topics that a name is
under are beginnings of one text, so of two of them the longer one begins with the shorter, and
no two have the same length.

A name that is not under a topic is read as neither pool nor event.  Whatever is read as a pool
or an event can stand as a segment of a name, so a name gives the parts that it was packed from
back exactly if each of them can.
-/

namespace TokenRelay.SubscriptionName

/-! ## Names under a topic -/

/-- That a name begins with a topic and the delimiter. -/
def Under (topic name : String) : Prop :=
  topic.toList ++ [delimiter] <+: name.toList

theorem isSome_afterTopic?_iff (topic name : String) :
    (afterTopic? topic.toList name.toList).isSome ↔ Under topic name := by
  rw [Option.isSome_iff_exists, Under]
  constructor
  · rintro ⟨rest, follows⟩
    rw [(afterTopic?_eq_some_iff _ _ _).1 follows]
    exact ⟨rest, (List.append_cons _ _ _).symm⟩
  · rintro ⟨rest, whole⟩
    rw [← List.append_cons] at whole
    exact ⟨rest, (afterTopic?_eq_some_iff _ _ _).2 whole.symm⟩

theorem Under.length_lt {topic name : String} (under : Under topic name) :
    topic.length < name.length := by
  have shorter := under.length_le
  rwa [List.length_append, List.length_singleton, String.length_toList,
    String.length_toList] at shorter

/-- Of two topics that a name is under the longer one begins with the shorter. -/
theorem Under.isPrefix {first second name : String} (under : Under first name)
    (other : Under second name) (shorter : first.length ≤ second.length) :
    first.toList <+: second.toList := by
  refine List.prefix_of_prefix_length_le ((List.prefix_append _ _).trans under)
    ((List.prefix_append _ _).trans other) ?_
  rwa [String.length_toList, String.length_toList]

/-- A name is under one topic only of each length. -/
theorem Under.eq_of_length_eq {first second name : String} (under : Under first name)
    (other : Under second name) (same : first.length = second.length) : first = second := by
  have begins := under.isPrefix other same.le
  refine String.toList_inj.1 (begins.eq_of_length ?_)
  rwa [String.length_toList, String.length_toList]

/-- Where a name is cut in two at the delimiter, without another one in it. -/
theorem eq_of_append_delimiter {first pool later kind : List Char}
    (plainPool : delimiter ∉ pool) (plainKind : delimiter ∉ kind)
    (same : first ++ delimiter :: later = pool ++ delimiter :: kind) :
    first = pool := by
  rcases List.append_eq_append_iff.1 same with ⟨between, rfl, rest⟩ | ⟨between, rfl, rest⟩
  · cases between with
    | nil => exact (List.append_nil first).symm
    | cons head between =>
        obtain ⟨rfl, -⟩ := List.cons.inj rest
        exact (plainPool (List.mem_append_right _ List.mem_cons_self)).elim
  · cases between with
    | nil => exact List.append_nil pool
    | cons head between =>
        obtain ⟨-, rfl⟩ := List.cons.inj rest
        exact (plainKind (List.mem_append_right _ List.mem_cons_self)).elim

theorem under_pack (topic pool : String) (event : Option String) :
    Under topic (pack topic pool event) := by
  cases event with
  | none => exact ⟨_, (List.append_cons _ _ _).symm.trans String.toList_ofList.symm⟩
  | some kind => exact ⟨_, (List.append_cons _ _ _).symm.trans String.toList_ofList.symm⟩

/-- A name with an event is under the name without it. -/
theorem under_pack_pool (topic pool kind : String) :
    Under (pack topic pool none) (pack topic pool (some kind)) := by
  refine ⟨kind.toList, ?_⟩
  simp only [pack, String.toList_ofList, List.append_assoc, List.cons_append, List.nil_append]

/-- A longer topic that a packed name is under ends with the pool. -/
theorem Under.eq_pack {topic pool other : String} {event : Option String}
    (plainPool : delimiter ∉ pool.toList) (plainEvent : ∀ kind ∈ event, delimiter ∉ kind.toList)
    (under : Under other (pack topic pool event)) (longer : topic.length < other.length) :
    event.isSome ∧ other = pack topic pool none := by
  have starts : topic.toList ++ [delimiter] <+: other.toList := by
    refine List.prefix_of_prefix_length_le (under_pack topic pool event)
      ((List.prefix_append _ _).trans under) ?_
    rwa [List.length_append, List.length_singleton, String.length_toList, String.length_toList]
  obtain ⟨between, begins⟩ := starts
  obtain ⟨later, whole⟩ := under
  rw [← begins, ← List.append_cons, ← List.append_cons, List.append_assoc, List.cons_append]
    at whole
  cases event with
  | none =>
      rw [pack, String.toList_ofList] at whole
      obtain ⟨-, rest⟩ := List.cons.inj (List.append_cancel_left whole)
      rw [← rest] at plainPool
      exact (plainPool (List.mem_append_right _ List.mem_cons_self)).elim
  | some kind =>
      rw [pack, String.toList_ofList] at whole
      obtain ⟨-, rest⟩ := List.cons.inj (List.append_cancel_left whole)
      obtain rfl := eq_of_append_delimiter plainPool (plainEvent kind rfl) rest
      refine ⟨rfl, String.toList_inj.1 ?_⟩
      rw [← begins, pack, String.toList_ofList, ← List.append_cons]

/-! ## Reading -/

/-- What is cut off before the first delimiter is without one. -/
theorem delimiter_notMem_cutSegment (chars : List Char) : delimiter ∉ (cutSegment chars).1 := by
  induction chars with
  | nil => exact List.not_mem_nil
  | cons char rest induction =>
      rw [cutSegment]
      split_ifs with cuts
      · exact List.not_mem_nil
      · rw [List.mem_cons, not_or]
        exact ⟨Ne.symm cuts, induction⟩

theorem isSegment_of_segment? {chars : List Char} {text : String} (plain : delimiter ∉ chars)
    (present : segment? chars = some text) : IsSegment text.toList := by
  rw [segment?] at present
  split_ifs at present with empty
  obtain rfl := Option.some.inj present
  rw [String.toList_ofList]
  exact ⟨mt List.isEmpty_iff.2 empty, plain⟩

theorem unpack_append (topic : String) {name : String} {rest : List Char}
    (whole : name.toList = topic.toList ++ delimiter :: rest) :
    unpack topic name =
      ⟨topic, segment? (cutSegment rest).1,
        (cutSegment rest).2.bind fun later => segment? (cutSegment later).1⟩ := by
  rw [unpack, whole, afterTopic?_append]
  dsimp only
  cases (cutSegment rest).2 <;> rfl

/-- A name that is not under a topic says nothing there. -/
theorem unpack_of_not_under {topic name : String} (foreign : ¬ Under topic name) :
    unpack topic name = ⟨topic, none, none⟩ := by
  rw [← isSome_afterTopic?_iff, Bool.not_eq_true, Option.isSome_eq_false_iff,
    Option.isNone_iff_eq_none] at foreign
  rw [unpack, foreign]

/-- Whatever is read as a pool or an event can stand as a segment. -/
theorem isSegment_of_unpack (topic name : String) :
    (∀ pool ∈ (unpack topic name).pool, IsSegment pool.toList) ∧
      ∀ kind ∈ (unpack topic name).event, IsSegment kind.toList := by
  by_cases under : Under topic name
  · obtain ⟨rest, whole⟩ := under
    rw [← List.append_cons] at whole
    rw [unpack_append topic whole.symm]
    constructor
    · intro pool present
      exact isSegment_of_segment? (delimiter_notMem_cutSegment _) present
    · intro kind present
      obtain ⟨later, -, present⟩ := Option.bind_eq_some_iff.1 present
      exact isSegment_of_segment? (delimiter_notMem_cutSegment _) present
  · rw [unpack_of_not_under under]
    exact ⟨nofun, nofun⟩

/-! ## Names that are read back -/

/-- Parts that can stand in a name as its segments. -/
structure Segments (pool : String) (event : Option String) : Prop where
  pool : IsSegment pool.toList
  event : ∀ kind ∈ event, IsSegment kind.toList

theorem Segments.unpack_pack (topic : String) {pool : String} {event : Option String}
    (segments : Segments pool event) :
    unpack topic (pack topic pool event) = ⟨topic, some pool, event⟩ := by
  cases event with
  | none => exact unpack_pack_pool topic segments.pool
  | some kind => exact unpack_pack_event topic segments.pool (segments.event kind rfl)

/-- A name gives its parts back exactly if they can stand in it as its segments. -/
theorem unpack_pack_iff (topic pool : String) (event : Option String) :
    unpack topic (pack topic pool event) = ⟨topic, some pool, event⟩ ↔ Segments pool event := by
  constructor
  · intro same
    have read := isSegment_of_unpack topic (pack topic pool event)
    rw [same] at read
    exact ⟨read.1 pool rfl, read.2⟩
  · exact Segments.unpack_pack topic

/-- Under one topic names of different segments are different. -/
theorem pack_inj_of_segments (topic : String) {pool other : String}
    {event otherEvent : Option String} (segments : Segments pool event)
    (otherSegments : Segments other otherEvent) :
    pack topic pool event = pack topic other otherEvent ↔ pool = other ∧ event = otherEvent := by
  constructor
  · intro same
    have read := segments.unpack_pack topic
    rw [same, otherSegments.unpack_pack topic, SubscriptionName.mk.injEq, Option.some.injEq]
      at read
    exact ⟨read.2.1.symm, read.2.2.symm⟩
  · rintro ⟨rfl, rfl⟩
    rfl

/--
Under any topic a name gives the pool and the event that it was packed from back exactly if the
pool, and the event if there is one, are not empty and without the delimiter; names of such parts
are the same only if their parts are; and a name that does not begin with the topic and the
delimiter is read as neither pool nor event.
-/
theorem names_read_back (topic : String) :
    (∀ pool event,
      unpack topic (pack topic pool event) = ⟨topic, some pool, event⟩ ↔
        Segments pool event) ∧
    (∀ pool event other otherEvent, Segments pool event → Segments other otherEvent →
      (pack topic pool event = pack topic other otherEvent ↔
        pool = other ∧ event = otherEvent)) ∧
    (∀ name, ¬ Under topic name → unpack topic name = ⟨topic, none, none⟩) :=
  ⟨unpack_pack_iff topic, fun _ _ _ _ => pack_inj_of_segments topic,
    fun _ => unpack_of_not_under⟩

/-- A topic that is the delimiter itself. -/
theorem names_read_back_of_delimiter :
    Segments "F1" (some "TransferSingle") ∧ Segments "F1" none ∧
      unpack ":" (pack ":" "F1" (some "TransferSingle")) =
        ⟨":", some "F1", some "TransferSingle"⟩ ∧
      pack ":" "F1" (some "TransferSingle") ≠ pack ":" "F1" none ∧
      ¬ Under ":" ":F1:TransferSingle" ∧
      unpack ":" ":F1:TransferSingle" = ⟨":", none, none⟩ := by
  have pool : IsSegment "F1".toList := ⟨by decide, by decide⟩
  have event : IsSegment "TransferSingle".toList := ⟨by decide, by decide⟩
  have whole : Segments "F1" (some "TransferSingle") := ⟨pool, by simpa using event⟩
  have short : Segments "F1" none := ⟨pool, nofun⟩
  have foreign : ¬ Under ":" ":F1:TransferSingle" := by
    rw [← isSome_afterTopic?_iff]
    decide
  obtain ⟨reads, apart, foreignReads⟩ := names_read_back ":"
  refine ⟨whole, short, (reads _ _).2 whole, ?_, foreign, foreignReads _ foreign⟩
  intro same
  exact nomatch ((apart _ _ _ _ whole short).1 same).2

end TokenRelay.SubscriptionName
