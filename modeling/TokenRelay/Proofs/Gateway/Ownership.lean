import TokenRelay.Gateway.Routing
import TokenRelay.Proofs.Subscription.Reading

/-!
# Which transformer a name belongs to

Of the topics that a name is under no two have the same length.  The longest is therefore found
whatever the order in which the transformers are gone through.

A name that is made of a topic's parts is under that topic, and under a longer one only where
the delimiter between its pool and its event is taken for the end of that topic.
-/

namespace TokenRelay

open SubscriptionName (Under under_pack under_pack_pool)

variable {μ : Type}

theorem Transformer.owns_iff (transformer : Transformer μ) (name : String) :
    transformer.owns name = true ↔ Under transformer.topic name :=
  SubscriptionName.isSome_afterTopic?_iff _ _

namespace Routes

/-! ## Registrations -/

/-- The routes after transformers were registered one after the other. -/
def ofRegistered (registered : List (Transformer μ)) : Routes μ :=
  registered.foldl register []

/-- A transformer that was registered, and no other of its topic after it. -/
def InForce (registered : List (Transformer μ)) (transformer : Transformer μ) : Prop :=
  ∃ before later, registered = before ++ transformer :: later ∧
    ∀ other ∈ later, other.topic ≠ transformer.topic

theorem InForce.mem {registered : List (Transformer μ)} {transformer : Transformer μ}
    (inForce : InForce registered transformer) : transformer ∈ registered := by
  obtain ⟨before, later, rfl, -⟩ := inForce
  exact List.mem_append_right _ List.mem_cons_self

theorem inForce_concat_iff (registered : List (Transformer μ)) (last transformer : Transformer μ) :
    InForce (registered ++ [last]) transformer ↔
      transformer = last ∨ InForce registered transformer ∧ transformer.topic ≠ last.topic := by
  constructor
  · rintro ⟨before, later, whole, others⟩
    rcases List.eq_nil_or_concat later with rfl | ⟨later, final, rfl⟩
    · exact .inl (List.append_singleton_inj.1 whole).2.symm
    · rw [List.concat_eq_append, ← List.cons_append, ← List.append_assoc] at whole
      obtain ⟨rfl, rfl⟩ := List.append_singleton_inj.1 whole
      rw [List.concat_eq_append, List.forall_mem_append] at others
      exact .inr ⟨⟨before, later, rfl, others.1⟩, (others.2 _ (List.mem_singleton.2 rfl)).symm⟩
  · rintro (rfl | ⟨⟨before, later, rfl, others⟩, different⟩)
    · exact ⟨registered, [], rfl, List.forall_mem_nil _⟩
    · refine ⟨before, later ++ [last], by simp, ?_⟩
      exact List.forall_mem_append.2 ⟨others, List.forall_mem_singleton.2 different.symm⟩

theorem ofRegistered_concat (registered : List (Transformer μ)) (last : Transformer μ) :
    ofRegistered (registered ++ [last]) = (ofRegistered registered).register last := by
  rw [ofRegistered, ofRegistered, List.foldl_concat]

/-- The routes are the transformers that are in force. -/
theorem mem_ofRegistered_iff (registered : List (Transformer μ)) (transformer : Transformer μ) :
    transformer ∈ ofRegistered registered ↔ InForce registered transformer := by
  induction registered using List.reverseRecOn with
  | nil =>
      refine iff_of_false List.not_mem_nil ?_
      rintro inForce
      exact List.not_mem_nil inForce.mem
  | append_singleton registered last induction =>
      rw [ofRegistered_concat, register, List.mem_cons, List.mem_filter, decide_eq_true_eq,
        induction, inForce_concat_iff]

/-- One transformer of a topic is in force. -/
theorem InForce.unique {registered : List (Transformer μ)} {first second : Transformer μ}
    (inForce : InForce registered first) (other : InForce registered second)
    (same : first.topic = second.topic) : first = second := by
  induction registered using List.reverseRecOn with
  | nil => exact (List.not_mem_nil inForce.mem).elim
  | append_singleton registered last induction =>
      rw [inForce_concat_iff] at inForce other
      rcases inForce with rfl | ⟨inForce, different⟩
      · rcases other with rfl | ⟨-, different⟩
        · rfl
        · exact (different same.symm).elim
      · rcases other with rfl | ⟨other, -⟩
        · exact (different same).elim
        · exact induction inForce other

/-- Of each topic that was registered some transformer is in force. -/
theorem exists_inForce {registered : List (Transformer μ)} {transformer : Transformer μ}
    (member : transformer ∈ registered) :
    ∃ last, InForce registered last ∧ last.topic = transformer.topic := by
  induction registered using List.reverseRecOn with
  | nil => exact (List.not_mem_nil member).elim
  | append_singleton registered final induction =>
      simp only [inForce_concat_iff]
      by_cases same : final.topic = transformer.topic
      · exact ⟨final, .inl rfl, same⟩
      · have earlier : transformer ∈ registered := by
          refine (List.mem_append.1 member).resolve_right ?_
          intro single
          exact same (congrArg _ (List.mem_singleton.1 single).symm)
        obtain ⟨last, inForce, topic⟩ := induction earlier
        exact ⟨last, .inr ⟨inForce, topic ▸ Ne.symm same⟩, topic⟩

/-! ## The longest topic -/

/-- Going through transformers finds one of them that no other is longer than. -/
theorem exists_foldl_prefer (found : Transformer μ) (others : List (Transformer μ)) :
    ∃ best ∈ found :: others, others.foldl prefer (some found) = some best ∧
      ∀ other ∈ found :: others, other.topic.length ≤ best.topic.length := by
  induction others generalizing found with
  | nil => exact ⟨found, List.mem_cons_self, rfl, List.forall_mem_singleton.2 le_rfl⟩
  | cons next rest induction =>
      by_cases longer : found.topic.length < next.topic.length
      · obtain ⟨best, member, finds, longest⟩ := induction next
        refine ⟨best, List.mem_cons_of_mem _ member, ?_, ?_⟩
        · rw [List.foldl_cons, prefer, if_pos longer, finds]
        · exact List.forall_mem_cons.2
            ⟨longer.le.trans (longest next List.mem_cons_self), longest⟩
      · obtain ⟨best, member, finds, longest⟩ := induction found
        obtain ⟨atFound, atRest⟩ := List.forall_mem_cons.1 longest
        refine ⟨best, ?_, ?_, ?_⟩
        · rcases List.mem_cons.1 member with rfl | member
          · exact List.mem_cons_self
          · exact List.mem_cons_of_mem _ (List.mem_cons_of_mem _ member)
        · rw [List.foldl_cons, prefer, if_neg longer, finds]
        · exact List.forall_mem_cons.2
            ⟨atFound, List.forall_mem_cons.2 ⟨(not_lt.1 longer).trans atFound, atRest⟩⟩

/-- That a transformer's topic is the longest of those that a name is under. -/
structure Longest (routes : Routes μ) (name : String) (transformer : Transformer μ) : Prop where
  listed : transformer ∈ routes
  under : Under transformer.topic name
  longest : ∀ other ∈ routes, Under other.topic name →
    other.topic.length ≤ transformer.topic.length

/-- A name has no owner and is under no topic, or its owner has the longest. -/
theorem owner_cases (routes : Routes μ) (name : String) :
    (routes.owner name = none ∧ ∀ transformer ∈ routes, ¬ Under transformer.topic name) ∨
      ∃ best, routes.owner name = some best ∧ Longest routes name best := by
  have mem_iff : ∀ transformer, transformer ∈ routes.filter (·.owns name) ↔
      transformer ∈ routes ∧ Under transformer.topic name := by
    intro transformer
    rw [List.mem_filter, transformer.owns_iff]
  rw [owner]
  cases owners : routes.filter (·.owns name) with
  | nil =>
      refine .inl ⟨rfl, fun transformer listed under => ?_⟩
      have member := (mem_iff transformer).2 ⟨listed, under⟩
      rw [owners] at member
      exact List.not_mem_nil member
  | cons found others =>
      obtain ⟨best, member, finds, longest⟩ := exists_foldl_prefer found others
      rw [← owners] at member longest
      obtain ⟨listed, under⟩ := (mem_iff best).1 member
      exact .inr ⟨best, finds, listed, under,
        fun other there below => longest other ((mem_iff other).2 ⟨there, below⟩)⟩

/-- Where no two transformers have one topic the owner is the one with the longest topic. -/
theorem owner_eq_some_iff {routes : Routes μ}
    (distinct : ∀ first ∈ routes, ∀ second ∈ routes, first.topic = second.topic → first = second)
    (name : String) (transformer : Transformer μ) :
    routes.owner name = some transformer ↔ Longest routes name transformer := by
  rcases routes.owner_cases name with ⟨absent, noTopic⟩ | ⟨best, found, longest⟩
  · rw [absent]
    exact iff_of_false (Option.some_ne_none transformer).symm
      fun longest => noTopic transformer longest.listed longest.under
  · rw [found, Option.some.injEq]
    constructor
    · rintro rfl
      exact longest
    · intro also
      have length : best.topic.length = transformer.topic.length :=
        le_antisymm (also.longest best longest.listed longest.under)
          (longest.longest transformer also.listed also.under)
      exact distinct best longest.listed transformer also.listed
        (longest.under.eq_of_length_eq also.under length)

/-! ## Owners among registered transformers -/

section Registered

variable {registered : List (Transformer μ)} {order : Routes μ}
  (permuted : order.Perm (ofRegistered registered))

include permuted

theorem mem_order_iff (transformer : Transformer μ) :
    transformer ∈ order ↔ InForce registered transformer :=
  permuted.mem_iff.trans (mem_ofRegistered_iff registered transformer)

theorem owner_registered_iff (name : String) (transformer : Transformer μ) :
    order.owner name = some transformer ↔
      InForce registered transformer ∧ Under transformer.topic name ∧
        ∀ other ∈ registered, Under other.topic name →
          other.topic.length ≤ transformer.topic.length := by
  have listed := mem_order_iff permuted
  have distinct : ∀ first ∈ order, ∀ second ∈ order, first.topic = second.topic →
      first = second :=
    fun first here second there => ((listed first).1 here).unique ((listed second).1 there)
  rw [owner_eq_some_iff distinct]
  constructor
  · intro longest
    refine ⟨(listed transformer).1 longest.listed, longest.under, ?_⟩
    intro other member under
    obtain ⟨last, inForce, same⟩ := exists_inForce member
    rw [← same] at under ⊢
    exact longest.longest last ((listed last).2 inForce) under
  · rintro ⟨inForce, under, longest⟩
    exact ⟨(listed transformer).2 inForce, under,
      fun other there => longest other ((listed other).1 there).mem⟩

theorem isSome_owner_iff (name : String) :
    (order.owner name).isSome ↔ ∃ other ∈ registered, Under other.topic name := by
  have listed := mem_order_iff permuted
  rcases order.owner_cases name with ⟨absent, noTopic⟩ | ⟨best, found, longest⟩
  · rw [absent]
    refine iff_of_false Bool.false_ne_true ?_
    rintro ⟨other, member, under⟩
    obtain ⟨last, inForce, same⟩ := exists_inForce member
    exact noTopic last ((listed last).2 inForce) (same ▸ under)
  · rw [found]
    exact iff_of_true rfl ⟨best, ((listed best).1 longest.listed).mem, longest.under⟩

variable {transformer : Transformer μ} {pool : String} {event : Option String}
  (plainPool : SubscriptionName.delimiter ∉ pool.toList)
  (plainEvent : ∀ kind ∈ event, SubscriptionName.delimiter ∉ kind.toList)

include plainPool plainEvent

/-- A packed name belongs to its topic where no longer registered topic can be taken for it. -/
theorem owner_pack (inForce : InForce registered transformer)
    (alone : ¬ (event.isSome ∧
      ∃ other ∈ registered, other.topic = SubscriptionName.pack transformer.topic pool none)) :
    order.owner (SubscriptionName.pack transformer.topic pool event) = some transformer := by
  refine (owner_registered_iff permuted _ _).2 ⟨inForce, under_pack _ pool event, ?_⟩
  intro other member under
  by_contra longer
  obtain ⟨present, same⟩ := under.eq_pack plainPool plainEvent (not_le.1 longer)
  exact alone ⟨present, other, member, same⟩

/-- A packed name with an event belongs to the name without it where that is a topic. -/
theorem owner_pack_of_topic {topic : String} {other : Transformer μ} (present : event.isSome)
    (inForce : InForce registered other)
    (same : other.topic = SubscriptionName.pack topic pool none) :
    order.owner (SubscriptionName.pack topic pool event) = some other := by
  obtain ⟨kind, rfl⟩ := Option.isSome_iff_exists.1 present
  refine (owner_registered_iff permuted _ _).2 ⟨inForce, ?_, ?_⟩
  · rw [same]
    exact under_pack_pool topic pool kind
  · intro third member under
    by_contra beyond
    have longer : topic.length < third.topic.length := by
      have extended := (under_pack topic pool none).length_lt
      rw [same] at beyond
      exact extended.trans (not_le.1 beyond)
    obtain ⟨-, again⟩ := under.eq_pack plainPool plainEvent longer
    exact beyond (congrArg String.length (again.trans same.symm)).le

end Registered

/-! ## The main result -/

/--
The owner of a name is found by its topics alone, in whatever order the routes are gone through.
There is one exactly if the name is under a registered topic, and it is the transformer in force
whose topic is the longest.  A name that is packed from a registered topic, a pool and perhaps an
event, both without the delimiter, belongs to that topic's transformer, unless it has an event and
the name without the event is itself a registered topic: then it belongs to that one's.
-/
theorem owner_of_registered (registered : List (Transformer μ)) (order : Routes μ)
    (permuted : order.Perm (ofRegistered registered)) :
    (∀ name, (order.owner name).isSome ↔ ∃ other ∈ registered, Under other.topic name) ∧
    (∀ name transformer, order.owner name = some transformer ↔
      InForce registered transformer ∧ Under transformer.topic name ∧
        ∀ other ∈ registered, Under other.topic name →
          other.topic.length ≤ transformer.topic.length) ∧
    (∀ transformer pool event, InForce registered transformer →
      SubscriptionName.delimiter ∉ pool.toList →
      (∀ kind ∈ event, SubscriptionName.delimiter ∉ kind.toList) →
      let topic := transformer.topic
      let name := SubscriptionName.pack topic pool event
      let shorter := SubscriptionName.pack topic pool none
      (¬ (event.isSome ∧ ∃ other ∈ registered, other.topic = shorter) →
        order.owner name = some transformer) ∧
      (∀ other, event.isSome → InForce registered other → other.topic = shorter →
        order.owner name = some other)) := by
  refine ⟨isSome_owner_iff permuted, owner_registered_iff permuted, ?_⟩
  intro transformer pool event inForce plainPool plainEvent topic name shorter
  refine ⟨owner_pack permuted plainPool plainEvent inForce, ?_⟩
  intro other present otherInForce same
  exact owner_pack_of_topic permuted plainPool plainEvent present otherInForce same

/-- A transformer that makes nothing of any event. -/
def silent (topic : String) : Transformer Unit :=
  ⟨topic, fun _ _ => .done []⟩

/-- Topics that are one within the other, one of them registered twice. -/
theorem owner_of_registered_of_nested :
    let inner := silent "tok:F1"
    let outer := silent "tok"
    let order : Routes Unit := [inner, outer]
    order.Perm (ofRegistered [outer, inner, outer]) ∧
      order.owner (SubscriptionName.pack "tok" "F1" none) = some outer ∧
      order.owner (SubscriptionName.pack "tok" "F1" (some "TransferSingle")) = some inner := by
  intro inner outer order
  have inForce : ofRegistered [outer, inner, outer] = [outer, inner] := by
    rfl
  have permuted : order.Perm (ofRegistered [outer, inner, outer]) := by
    rw [inForce]
    exact .swap outer inner []
  obtain ⟨-, -, packed⟩ := owner_of_registered [outer, inner, outer] order permuted
  have outerInForce : InForce [outer, inner, outer] outer :=
    ⟨[outer, inner], [], rfl, List.forall_mem_nil _⟩
  have innerInForce : InForce [outer, inner, outer] inner :=
    ⟨[outer], [outer], rfl, List.forall_mem_singleton.2 (by decide)⟩
  have plainPool : SubscriptionName.delimiter ∉ "F1".toList := by
    decide
  have plainEvent : ∀ kind ∈ some "TransferSingle", SubscriptionName.delimiter ∉ kind.toList := by
    decide
  refine ⟨permuted, ?_, ?_⟩
  · exact (packed outer "F1" none outerInForce plainPool nofun).1 (by simp)
  · exact (packed outer "F1" (some "TransferSingle") outerInForce plainPool plainEvent).2 inner rfl
      innerInForce (by decide)

end Routes

end TokenRelay
