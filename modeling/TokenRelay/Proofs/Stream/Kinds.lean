import TokenRelay.Proofs.Subscription.Segment
import TokenRelay.Stream.Baseline

/-!
# What the kinds of event of a stream tell

The assessment of a stream looks at the kinds of event that its subscriptions stand for,
taken together: the pool of a name is not looked at, and a name that stands for nothing is
passed over.  It comes down to two properties of the names: either some stand for the base
and none for anything else, or each event of a pool is the event of some name.

Names as this service writes them, with every pool complete, have one of the two.
-/

namespace TokenRelay.Reconcile

open SubscriptionName (unpack pack basePool IsSegment)

/-! ## The list of kinds -/

theorem mem_insertName_iff (name other : String) (names : List String) :
    other ∈ insertName name names ↔ other = name ∨ other ∈ names := by
  induction names with
  | nil => simp [insertName]
  | cons head rest induction =>
      rw [insertName]
      split_ifs with same before
      · simp [same]
      · simp
      · rw [List.mem_cons, induction, List.mem_cons, or_left_comm]

theorem mem_foldl_insertName_iff (kinds found : List String) (kind : String) :
    kind ∈ kinds.foldl (fun found kind => insertName kind found) found ↔
      kind ∈ kinds ∨ kind ∈ found := by
  induction kinds generalizing found with
  | nil => simp
  | cons head rest induction =>
      rw [List.foldl_cons, induction, mem_insertName_iff, List.mem_cons]
      tauto

/-- The kinds of a list are those that some name of it stands for. -/
theorem mem_eventKinds_iff (topic : String) (subscriptions : List Subscription)
    (kind : String) :
    kind ∈ eventKinds topic subscriptions ↔
      ∃ subscription ∈ subscriptions,
        (unpack topic subscription.name).eventKind = some kind := by
  simp [eventKinds, mem_foldl_insertName_iff]

/-- Kinds that are all alike make a list of one. -/
theorem foldl_insertName_of_forall {kinds : List String} {kind : String}
    (alike : ∀ other ∈ kinds, other = kind) :
    kinds.foldl (fun found kind => insertName kind found) [kind] = [kind] := by
  induction kinds with
  | nil => rfl
  | cons head rest induction =>
      rw [List.forall_mem_cons] at alike
      rw [List.foldl_cons, alike.1, insertName, if_pos rfl, induction alike.2]

theorem eventKinds_eq_singleton_iff (topic : String) (subscriptions : List Subscription)
    (kind : String) :
    eventKinds topic subscriptions = [kind] ↔
      kind ∈ eventKinds topic subscriptions ∧
        ∀ other ∈ eventKinds topic subscriptions, other = kind := by
  constructor
  · intro only
    simp [only]
  · rintro ⟨present, alike⟩
    simp only [eventKinds, mem_foldl_insertName_iff, List.not_mem_nil, or_false] at present alike ⊢
    cases kinds : subscriptions.filterMap fun subscription =>
        (unpack topic subscription.name).eventKind with
    | nil => simp [kinds] at present
    | cons head rest =>
        rw [kinds, List.forall_mem_cons] at alike
        rw [List.foldl_cons, alike.1]
        exact foldl_insertName_of_forall alike.2

/-! ## Properties of the names -/

/-- Some names stand for the base, and none stands for anything else. -/
structure BaseAlone (topic : String) (names : Set String) : Prop where
  base : ∃ name ∈ names, (unpack topic name).eventKind = some basePool
  alone : ∀ name ∈ names, ∀ kind, (unpack topic name).eventKind = some kind → kind = basePool

/-- Each event of a pool is the event of some name, whatever its pool. -/
def AllEvents (topic : String) (names : Set String) : Prop :=
  ∀ event : PoolEvent, ∃ name ∈ names, (unpack topic name).event = some event.name

/-- A name as this service writes it: that of the base, or of an event of a pool. -/
inductive Named (topic : String) : String → Prop where
  | base : Named topic (pack topic basePool none)
  | event {pool : String} (segment : IsSegment pool.toList) (event : PoolEvent) :
      Named topic (pack topic pool (some event.name))

/-- Every pool with one of its events among the names has all of them there. -/
def Complete (topic : String) (names : Set String) : Prop :=
  ∀ pool, IsSegment pool.toList → ∀ event : PoolEvent,
    pack topic pool (some event.name) ∈ names →
      ∀ other : PoolEvent, pack topic pool (some other.name) ∈ names

/-- Names as this service writes them, with all events of every pool that is named. -/
structure Healthy (topic : String) (names : Set String) : Prop where
  named : ∀ name ∈ names, Named topic name
  complete : Complete topic names

theorem eventKind_eq_name_iff (name : SubscriptionName) (event : PoolEvent) :
    name.eventKind = some event.name ↔ name.event = some event.name := by
  have different := event.name_ne_basePool
  unfold SubscriptionName.eventKind
  cases name.event with
  | some kind => rfl
  | none =>
      split_ifs <;> simp [different.symm]

/-- Under its topic the base name stands for the base. -/
theorem eventKind_base (topic : String) :
    (unpack topic (pack topic basePool none)).eventKind = some basePool := by
  rw [SubscriptionName.unpack_pack_pool topic SubscriptionName.isSegment_basePool]
  rfl

theorem event_pack (topic : String) {pool : String} (segment : IsSegment pool.toList)
    (event : PoolEvent) :
    (unpack topic (pack topic pool (some event.name))).event = some event.name := by
  rw [SubscriptionName.unpack_pack_event topic segment event.isSegment_name]

/-- A name of this service is not taken for one of another topic. -/
theorem Named.isForeign {topic name : String} (named : Named topic name) :
    (unpack topic name).isForeign = false := by
  cases named with
  | base =>
      rw [SubscriptionName.unpack_pack_pool topic SubscriptionName.isSegment_basePool]
      rfl
  | event segment event =>
      rw [SubscriptionName.unpack_pack_event topic segment event.isSegment_name]
      rfl

/-- Healthy names, as long as there are any, have one of the two properties. -/
theorem Healthy.covered {topic : String} {names : Set String} (healthy : Healthy topic names)
    (nonempty : names.Nonempty) : BaseAlone topic names ∨ AllEvents topic names := by
  by_cases pools : ∃ pool, IsSegment pool.toList ∧ ∃ event : PoolEvent,
      pack topic pool (some event.name) ∈ names
  · rcases pools with ⟨pool, segment, event, member⟩
    exact .inr fun other =>
      ⟨_, healthy.complete pool segment event member other, event_pack topic segment other⟩
  · have onlyBase : ∀ name ∈ names, name = pack topic basePool none := by
      intro name member
      rcases healthy.named name member with _ | ⟨segment, event⟩
      · rfl
      · exact (pools ⟨_, segment, event, member⟩).elim
    rcases nonempty with ⟨name, member⟩
    refine .inl ⟨⟨name, member, onlyBase name member ▸ eventKind_base topic⟩, ?_⟩
    intro other present kind stands
    rw [onlyBase other present, eventKind_base, Option.some.injEq] at stands
    exact stands.symm

theorem BaseAlone.not_allEvents {topic : String} {names : Set String}
    (base : BaseAlone topic names) : ¬ AllEvents topic names := by
  intro all
  rcases all .create with ⟨name, member, create⟩
  exact PoolEvent.create.name_ne_basePool
    (base.alone name member _ ((eventKind_eq_name_iff _ _).2 create))

/-! ## The assessment -/

/-- The names of some subscriptions. -/
def namesOf (subscriptions : List Subscription) : Set String :=
  {name | ∃ subscription ∈ subscriptions, subscription.name = name}

theorem eventKinds_eq_base_iff (topic : String) (subscriptions : List Subscription) :
    eventKinds topic subscriptions = [basePool] ↔ BaseAlone topic (namesOf subscriptions) := by
  simp only [eventKinds_eq_singleton_iff, mem_eventKinds_iff]
  constructor
  · rintro ⟨⟨subscription, there, base⟩, alone⟩
    refine ⟨⟨_, ⟨subscription, there, rfl⟩, base⟩, ?_⟩
    rintro _ ⟨other, present, rfl⟩ kind stands
    exact alone kind ⟨other, present, stands⟩
  · rintro ⟨⟨_, ⟨subscription, there, rfl⟩, base⟩, alone⟩
    refine ⟨⟨subscription, there, base⟩, ?_⟩
    rintro kind ⟨other, present, stands⟩
    exact alone _ ⟨other, present, rfl⟩ kind stands

theorem forall_mem_eventKinds_iff (topic : String) (subscriptions : List Subscription) :
    (∀ event : PoolEvent, event.name ∈ eventKinds topic subscriptions) ↔
      AllEvents topic (namesOf subscriptions) := by
  simp only [mem_eventKinds_iff, eventKind_eq_name_iff, AllEvents, namesOf,
    Set.mem_ofPred_eq]
  refine forall_congr' fun event => ?_
  constructor
  · rintro ⟨subscription, there, stands⟩
    exact ⟨_, ⟨subscription, there, rfl⟩, stands⟩
  · rintro ⟨_, ⟨subscription, there, rfl⟩, stands⟩
    exact ⟨subscription, there, stands⟩

theorem isStale_eq_false_iff (kinds : List String) :
    isStale kinds = false ↔
      kinds = [basePool] ∨ ∀ event : PoolEvent, event.name ∈ kinds := by
  unfold isStale
  by_cases base : kinds = [basePool]
  · simp [base]
  · simp [base]

/-- Subscriptions are assessed by what their names stand for. -/
theorem assess_cases (topic : String) {subscriptions : List Subscription}
    (nonempty : subscriptions ≠ []) :
    (assess topic subscriptions = some .baseOnly ∧ BaseAlone topic (namesOf subscriptions)) ∨
      (assess topic subscriptions = some .consistent ∧
        AllEvents topic (namesOf subscriptions)) ∨
      (assess topic subscriptions = none ∧ ¬ BaseAlone topic (namesOf subscriptions) ∧
        ¬ AllEvents topic (namesOf subscriptions)) := by
  have sound := isStale_eq_false_iff (eventKinds topic subscriptions)
  rw [← eventKinds_eq_base_iff, ← forall_mem_eventKinds_iff, assess,
    if_neg (by simpa using nonempty)]
  by_cases base : eventKinds topic subscriptions = [basePool]
  · rw [if_neg (by simp [sound.2 (.inl base)]), if_pos (by rw [base]; rfl)]
    exact .inl ⟨rfl, base⟩
  by_cases all : ∀ event : PoolEvent, event.name ∈ eventKinds topic subscriptions
  · have several : (eventKinds topic subscriptions).length ≠ 1 := by
      intro single
      rcases List.length_eq_one_iff.1 single with ⟨kind, only⟩
      rw [only] at all
      have create := List.mem_singleton.1 (all .create)
      rw [← List.mem_singleton.1 (all .single)] at create
      exact absurd create (by decide)
    rw [if_neg (by simp [sound.2 (.inr all)]), if_neg several]
    exact .inr (.inl ⟨rfl, all⟩)
  · have stale : isStale (eventKinds topic subscriptions) = true := by
      rw [← Bool.not_eq_false, sound]
      exact not_or.2 ⟨base, all⟩
    rw [if_pos stale]
    exact .inr (.inr ⟨rfl, base, all⟩)

end TokenRelay.Reconcile
