import TokenRelay.Proofs.Stream.Reconciliation

/-!
# What reconciliation changes

Reconciliation of a topic with at most one stream either changes nothing, or it renews the
topic's stream: the stream goes with all that is bound to it, and a new one with the base
subscription alone comes in its place.  Nothing else is touched, and a renewed stream is
sound, so that a second reconciliation finds what the first one left and leaves it.
-/

namespace TokenRelay.Reconcile

open SubscriptionName (basePool)
open TokenRelay.Stream (Begins Wish baseWish details listStreams listSubscriptions requests)

variable {σ τ ε ε' : Type} {client : Client} {store middle after : Store}
  {calls : List (Request × Outcome)} {topic instancePath : String}
  {stream baseline : EventStream} {result : Result} {asked : List Request}

/-- The requests of a log that ask for a change. -/
def writes (calls : List (Request × Outcome)) : List Request :=
  (requests calls).filter fun request => request.method ≠ .get

/-! ## Results -/

/-- What reconciliation comes to, as far as the store decides it. -/
def verdict (store : Store) (topic : String) : Result :=
  match store.topicStream? topic with
  | none => .noStream
  | some stream => (assess topic (bound store stream)).getD .recreated

theorem ComesTo.result_eq (comes : ComesTo store topic instancePath result asked after) :
    result = verdict store topic := by
  cases comes with
  | vacant vacant => simp [verdict, vacant]
  | left found sound => simp [verdict, found, sound]
  | recreated found unsound => simp [verdict, found, unsound]

theorem assess_ne_recreated (topic : String) (subscriptions : List Subscription) :
    assess topic subscriptions ≠ some .recreated := by
  unfold assess
  split
  · simp
  · dsimp only
    split
    · simp
    · split <;> simp

/-- Unless it makes the baseline anew, reconciliation only reads. -/
theorem ComesTo.cases (comes : ComesTo store topic instancePath result asked after) :
    (result ≠ .recreated ∧ (∀ request ∈ asked, request.method = .get) ∧ after = store) ∨
      (result = .recreated ∧ ∃ stream baseline more,
        store.topicStream? topic = some stream ∧
        asked = listStreams :: listSubscriptions ::
          .delete ("/eventstreams/" ++ stream.id) :: more ∧
        Begins (store.removeStream stream.id) topic instancePath baseline more after) := by
  cases comes with
  | vacant =>
      exact .inl ⟨nofun, by simp [listStreams, Request.get], rfl⟩
  | left found sound =>
      refine .inl ⟨?_, by simp [listStreams, listSubscriptions, Request.get], rfl⟩
      rintro rfl
      exact assess_ne_recreated _ _ sound
  | recreated found unsound begins =>
      exact .inr ⟨rfl, _, _, _, found, rfl, begins⟩

/-! ## Renewal -/

/-- The base subscription of a topic as it is made under an id. -/
def baseSubscription (topic instancePath : String) (stream : EventStream) (id : String) :
    Subscription :=
  (baseWish topic instancePath stream.id).made id

/-- A store in which a stream was renewed: one of the topic's name with the base alone. -/
structure Renews (store : Store) (topic instancePath : String) (stream baseline : EventStream)
    (id : String) (after : Store) : Prop where
  named : baseline.name = topic
  unbound : ∀ subscription ∈ (store.removeStream stream.id).subscriptions,
    subscription.stream ≠ baseline.id
  streams : after.streams = (store.removeStream stream.id).streams ++ [baseline]
  subscriptions : after.subscriptions = (store.removeStream stream.id).subscriptions ++
    [baseSubscription topic instancePath baseline id]

/-- A topic with at most one stream has none once that is removed. -/
theorem vacant_removeStream (single : (store.streams.filter (·.name = topic)).length ≤ 1)
    (found : store.topicStream? topic = some stream) :
    ∀ other ∈ (store.removeStream stream.id).streams, other.name ≠ topic := by
  intro other kept named
  rw [Store.removeStream, List.mem_filter, decide_eq_true_iff] at kept
  have own : stream ∈ store.streams.filter (·.name = topic) := by
    simpa using Store.mem_of_topicStream? found
  have another : other ∈ store.streams.filter (·.name = topic) := by
    simpa using And.intro kept.1 named
  obtain ⟨only, all⟩ : ∃ only, store.streams.filter (·.name = topic) = [only] :=
    List.length_eq_one_iff.1 (le_antisymm single (List.length_pos_of_mem own))
  rw [all, List.mem_singleton] at own another
  exact kept.2 (by rw [another, own])

/-- Where the topic has no other stream the baseline is made with two creations. -/
theorem renews_of_begins
    (vacant : ∀ other ∈ (store.removeStream stream.id).streams, other.name ≠ topic)
    (begins :
      Begins (store.removeStream stream.id) topic instancePath baseline asked after) :
    asked = [listStreams, .post "/eventstreams" [] (details topic), listSubscriptions,
        (baseWish topic instancePath baseline.id).request] ∧
      ∃ id, Renews store topic instancePath stream baseline id after := by
  rcases begins with ⟨settles, fulfils⟩
  cases settles with
  | patched found =>
      have present := Store.mem_of_topicStream? found
      exact (vacant _ present.1 present.2).elim
  | created _ fresh named =>
      cases fulfils with
      | found there =>
          have met := ((Wish.isMetBy_iff _ _).1 (List.find?_some there)).2
          exact (fresh.ofSubscriptions _ (List.mem_of_find?_eq_some there) met).elim
      | made _ _ => exact ⟨rfl, _, named, fresh.ofSubscriptions, rfl, rfl⟩

/-- Where ids tell streams apart, a topic's only stream is all that its removal takes. -/
theorem filter_streams_removeStream (identified : (store.streams.map (·.id)).Nodup)
    (found : store.topicStream? topic = some stream) :
    (store.removeStream stream.id).streams.filter (·.name ≠ topic) =
      store.streams.filter (·.name ≠ topic) := by
  rw [Store.removeStream, List.filter_filter]
  apply List.filter_congr
  intro other member
  have present := Store.mem_of_topicStream? found
  by_cases named : other.name = topic
  · simp [named]
  · have different : other.id ≠ stream.id := by
      intro same
      have equal := List.inj_on_of_nodup_map identified member present.1 same
      exact named (equal ▸ present.2)
    simp [named, different]

section Renews

variable {id : String} (renews : Renews store topic instancePath stream baseline id after)

include renews

theorem Renews.bound_eq :
    bound after baseline = [baseSubscription topic instancePath baseline id] := by
  rw [bound, renews.subscriptions, List.filter_append]
  have others : (store.removeStream stream.id).subscriptions.filter
      (·.stream = baseline.id) = [] := by
    simpa using renews.unbound
  rw [others]
  simp [baseSubscription, Wish.made, baseWish]

theorem Renews.filter_topic
    (vacant : ∀ other ∈ (store.removeStream stream.id).streams, other.name ≠ topic) :
    after.streams.filter (·.name = topic) = [baseline] := by
  rw [renews.streams, List.filter_append]
  have others : (store.removeStream stream.id).streams.filter (·.name = topic) = [] := by
    simpa using vacant
  rw [others]
  simp [renews.named]

theorem Renews.topicStream?
    (vacant : ∀ other ∈ (store.removeStream stream.id).streams, other.name ≠ topic) :
    after.topicStream? topic = some baseline := by
  rw [Store.topicStream?, ← List.head?_filter, renews.filter_topic vacant]
  rfl

theorem Renews.filter_others :
    after.streams.filter (·.name ≠ topic) =
      (store.removeStream stream.id).streams.filter (·.name ≠ topic) := by
  rw [renews.streams, List.filter_append]
  simp [renews.named]

/-- A renewed stream has the base alone. -/
theorem Renews.verdict_eq
    (vacant : ∀ other ∈ (store.removeStream stream.id).streams, other.name ≠ topic) :
    verdict after topic = .baseOnly := by
  have kinds : eventKinds topic [baseSubscription topic instancePath baseline id] =
      [basePool] := by
    rw [eventKinds_eq_base_iff]
    refine ⟨⟨_, ⟨_, List.mem_singleton_self _, rfl⟩, eventKind_base topic⟩, ?_⟩
    rintro _ ⟨_, there, rfl⟩ kind stands
    rw [List.mem_singleton.1 there] at stands
    exact (Option.some.inj ((eventKind_base topic).symm.trans stands)).symm
  rw [verdict, renews.topicStream? vacant]
  simp [assess, kinds, isStale, renews.bound_eq]

end Renews

/-! ## One reconciliation after another -/

theorem writes_eq_nil_iff :
    writes calls = [] ↔ ∀ request ∈ requests calls, request.method = .get := by
  simp [writes, List.filter_eq_nil_iff]

/--
Reconciliation of a topic with at most one stream either asks for no change, or for just
three: that the topic's stream is deleted, that one of its name is created, and that this
one is subscribed to the base.  The topic's stream then has the base subscription alone.  In
either case all other streams, and all subscriptions that were not bound to the deleted
stream, stay as they are, and a second reconciliation asks for no change and comes to the
same result, or finds the base alone where the first one made it.
-/
theorem reconciles_once (answer : Request → ε → Outcome × ε) (memory : σ) (state : ε)
    (again : Request → ε' → Outcome × ε') (memory' : τ) (state' : ε')
    (identified : (store.streams.map (·.id)).Nodup)
    (single : (store.streams.filter (·.name = topic)).length ≤ 1)
    (serves : store.Serves ((through client topic instancePath).calls answer memory state)
      middle)
    (servesAgain : middle.Serves
      ((through client topic instancePath).calls again memory' state') after) :
    ∃ result,
      ((through client topic instancePath).against answer memory state).1 = .ok result ∧
      ((result ≠ .recreated ∧
          writes ((through client topic instancePath).calls answer memory state) = [] ∧
          middle = store) ∨
        result = .recreated ∧ ∃ stream baseline id,
          stream ∈ store.streams ∧ stream.name = topic ∧ baseline.name = topic ∧
          writes ((through client topic instancePath).calls answer memory state) =
            [.delete ("/eventstreams/" ++ stream.id),
              .post "/eventstreams" [] (details topic),
              (baseWish topic instancePath baseline.id).request] ∧
          middle.streams.filter (·.name = topic) = [baseline] ∧
          bound middle baseline = [baseSubscription topic instancePath baseline id] ∧
          middle.subscriptions = store.subscriptions.filter (·.stream ≠ stream.id) ++
            [baseSubscription topic instancePath baseline id]) ∧
      middle.streams.filter (·.name ≠ topic) = store.streams.filter (·.name ≠ topic) ∧
      ((through client topic instancePath).against again memory' state').1 =
        .ok (if result = .recreated then .baseOnly else result) ∧
      writes ((through client topic instancePath).calls again memory' state') = [] ∧
      after = middle := by
  rcases comesTo_of_serves answer memory state serves with ⟨result, comes, first⟩
  rcases comesTo_of_serves again memory' state' servesAgain with ⟨result', comes', second⟩
  have same := second.result_eq
  refine ⟨result, comes, ?_⟩
  rcases first.cases with ⟨left, reads, rfl⟩ | ⟨rfl, stream, baseline, more, found, asked, begins⟩
  · obtain rfl : result' = result := same.trans first.result_eq.symm
    rcases second.cases with ⟨-, readsAgain, rfl⟩ | ⟨recreated, -⟩
    · refine ⟨.inl ⟨left, writes_eq_nil_iff.2 reads, rfl⟩, rfl, ?_,
        writes_eq_nil_iff.2 readsAgain, rfl⟩
      rw [comes', if_neg left]
    · exact (left recreated).elim
  · have vacant := vacant_removeStream single found
    have present := Store.mem_of_topicStream? found
    rcases renews_of_begins vacant begins with ⟨rfl, id, renews⟩
    obtain rfl : result' = .baseOnly := same.trans (renews.verdict_eq vacant)
    rcases second.cases with ⟨-, readsAgain, rfl⟩ | ⟨recreated, -⟩
    · refine ⟨.inr ⟨rfl, stream, baseline, id, present.1, present.2, renews.named, ?_,
        renews.filter_topic vacant, renews.bound_eq, renews.subscriptions⟩, ?_, ?_,
        writes_eq_nil_iff.2 readsAgain, rfl⟩
      · rw [writes, asked]
        rfl
      · rw [renews.filter_others, filter_streams_removeStream identified found]
      · rw [comes', if_pos rfl]
    · cases recreated

/-- A stream that lacks an event is renewed once, and then left with the base alone. -/
theorem reconciles_once_of_lacking :
    (lackingStore.streams.map (·.id)).Nodup ∧
      (lackingStore.streams.filter (·.name = "tok")).length ≤ 1 ∧
      ((through onceClient "tok" "/contracts/0xabc").against Client.prepared () renewal).1 =
        .ok .recreated ∧
      ((through onceClient "tok" "/contracts/0xabc").against Client.prepared ()
        (listings renewedStore)).1 = .ok .baseOnly ∧
      writes ((through onceClient "tok" "/contracts/0xabc").calls Client.prepared ()
        (listings renewedStore)) = [] := by
  have identified : (lackingStore.streams.map (·.id)).Nodup := by decide
  have single : (lackingStore.streams.filter (·.name = "tok")).length ≤ 1 := by decide
  have servesAgain : renewedStore.Serves ((through onceClient "tok" "/contracts/0xabc").calls
      Client.prepared () (listings renewedStore)) renewedStore := by
    refine .perform_call rfl (.streams ⟨_, rfl, rfl, rfl⟩) ?_
    refine .perform_call rfl (.subscriptions ⟨_, rfl, rfl, rfl⟩) ?_
    exact .nil _
  obtain ⟨result, first, ⟨-, -, unchanged⟩ | ⟨rfl, -⟩, -, second, reads, -⟩ :=
    reconciles_once Client.prepared () renewal Client.prepared () (listings renewedStore)
      identified single serves_renewal servesAgain
  · exact absurd (congrArg Store.streams unchanged) (by decide)
  · exact ⟨identified, single, first, second, reads⟩

end TokenRelay.Reconcile
