import TokenRelay.Proofs.Stream.Kinds
import TokenRelay.Proofs.Stream.Management

/-!
# What reconciliation leaves and what it makes anew

Against a connector that works normally reconciliation always comes to a result.  A topic's
stream with subscriptions is either left as it is, and then only reading calls were made, or
it is deleted and the baseline is made anew.

A stream that is left has names that stand for the base alone, or names for each event of a
pool.  The events may belong to different pools, so a stream can be left although a pool on
it lacks events; a stream whose names are healthy is never deleted.
-/

namespace TokenRelay.Reconcile

open SubscriptionName (pack basePool)
open TokenRelay.Stream (Begins listStreams listSubscriptions requests)

variable {σ ε : Type} {client : Client} {store after : Store}
  {calls : List (Request × Outcome)} {topic instancePath : String}

/-- The subscriptions that are bound to a stream. -/
def bound (store : Store) (stream : EventStream) : List Subscription :=
  store.subscriptions.filter fun subscription => subscription.stream = stream.id

theorem namesOf_bound (store : Store) (stream : EventStream) :
    namesOf (bound store stream) = store.Names stream.id := by
  ext name
  simp [namesOf, bound, Store.Names, and_assoc]

theorem bound_ne_nil_iff (store : Store) (stream : EventStream) :
    bound store stream ≠ [] ↔ (store.Names stream.id).Nonempty := by
  rw [← namesOf_bound]
  constructor
  · intro some
    rcases List.exists_mem_of_ne_nil _ some with ⟨subscription, there⟩
    exact ⟨_, subscription, there, rfl⟩
  · rintro ⟨_, subscription, there, rfl⟩
    exact List.ne_nil_of_mem there

/-- What reconciliation comes to, its requests and the store that it leaves. -/
inductive ComesTo (store : Store) (topic instancePath : String) :
    Result → List Request → Store → Prop where
  | vacant (vacant : store.topicStream? topic = none) :
      ComesTo store topic instancePath .noStream [listStreams] store
  | left {stream : EventStream} {result : Result}
      (found : store.topicStream? topic = some stream)
      (sound : assess topic (bound store stream) = some result) :
      ComesTo store topic instancePath result [listStreams, listSubscriptions] store
  | recreated {stream baseline : EventStream} {asked : List Request} {after : Store}
      (found : store.topicStream? topic = some stream)
      (unsound : assess topic (bound store stream) = none)
      (begins : Begins (store.removeStream stream.id) topic instancePath baseline asked after) :
      ComesTo store topic instancePath .recreated
        (listStreams :: listSubscriptions :: .delete ("/eventstreams/" ++ stream.id) :: asked)
        after

/-- Against a connector that works normally reconciliation always comes to a result. -/
theorem performs_run {found : Except BridgeError Result}
    (performs : client.Performs (run topic instancePath : Task σ Result) store calls found
      after) :
    ∃ result, found = .ok result ∧
      ComesTo store topic instancePath result (requests calls) after := by
  rcases performs.of_bind with ⟨_, first, later, middle, finds, follows, rfl⟩
  rcases Stream.performs_findStream finds with ⟨rfl, asked, rfl⟩
  rw [Stream.requests_append, asked]
  rw [Task.resume] at follows
  cases there : middle.topicStream? topic with
  | none =>
      rw [there] at follows
      rcases follows.of_pure with ⟨rfl, rfl, rfl⟩
      exact ⟨.noStream, rfl, .vacant there⟩
  | some stream =>
      rw [there] at follows
      rcases follows.of_bind with ⟨_, second, later, next, lists, follows, rfl⟩
      rcases Stream.performs_getSubscriptions lists with ⟨rfl, listed, rfl⟩
      rw [Stream.requests_append, listed]
      simp only [Task.resume] at follows
      cases assessed : assess topic
          (next.subscriptions.filter fun subscription => subscription.stream = stream.id) with
      | some result =>
          rw [assessed] at follows
          rcases follows.of_pure with ⟨rfl, rfl, rfl⟩
          exact ⟨result, rfl, .left there assessed⟩
      | none =>
          rw [assessed] at follows
          rcases follows.of_bind with ⟨_, third, later, removed, deletes, follows, rfl⟩
          rcases Stream.performs_deleteStream deletes with ⟨rfl, gone, rfl⟩
          rcases follows.of_bind with ⟨_, fourth, later, _, makes, ends, rfl⟩
          rcases Stream.performs_init makes with ⟨baseline, rfl, begins⟩
          rcases ends.of_pure with ⟨rfl, rfl, rfl⟩
          rw [Stream.requests_append, gone, List.append_nil]
          exact ⟨.recreated, rfl, .recreated there assessed begins⟩

/-! ## Against an answerer -/

/-- Reconciliation through a client, single attempts included. -/
def through (client : Client) (topic instancePath : String) :
    Procedure Outcome σ (Except BridgeError Result) :=
  client.perform (run topic instancePath).run

/-- Whoever answers, reconciliation comes to a result if it is answered normally. -/
theorem comesTo_of_serves (answer : Request → ε → Outcome × ε) (memory : σ) (state : ε)
    (serves : store.Serves ((through client topic instancePath).calls answer memory state)
      after) :
    ∃ result,
      ((through client topic instancePath).against answer memory state).1 = .ok result ∧
      ComesTo store topic instancePath result
        (requests ((through client topic instancePath).calls answer memory state)) after :=
  performs_run ⟨⟨Procedure.runs_calls answer _ memory state, serves.succeeds⟩, serves⟩

/-- A stream with subscriptions is left as it is, or deleted and its baseline made anew. -/
theorem ComesTo.cases_of_nonempty {result : Result} {asked : List Request}
    {stream : EventStream} (comes : ComesTo store topic instancePath result asked after)
    (found : store.topicStream? topic = some stream)
    (nonempty : (store.Names stream.id).Nonempty) :
    ((result = .baseOnly ∧ BaseAlone topic (store.Names stream.id) ∨
        result = .consistent ∧ AllEvents topic (store.Names stream.id)) ∧
      asked = [listStreams, listSubscriptions] ∧ after = store) ∨
    (result = .recreated ∧ ¬ BaseAlone topic (store.Names stream.id) ∧
      ¬ AllEvents topic (store.Names stream.id) ∧
      ∃ baseline more,
        asked = listStreams :: listSubscriptions ::
          .delete ("/eventstreams/" ++ stream.id) :: more ∧
        Begins (store.removeStream stream.id) topic instancePath baseline more after) := by
  have assessed := assess_cases topic ((bound_ne_nil_iff store stream).2 nonempty)
  rw [namesOf_bound] at assessed
  cases comes with
  | vacant none =>
      rw [found] at none
      cases none
  | left there sound =>
      obtain rfl := Option.some.inj (found.symm.trans there)
      rw [sound] at assessed
      refine .inl ⟨?_, rfl, rfl⟩
      rcases assessed with ⟨equal, base⟩ | ⟨equal, all⟩ | ⟨equal, -, -⟩
      · exact .inl ⟨Option.some.inj equal, base⟩
      · exact .inr ⟨Option.some.inj equal, all⟩
      · cases equal
  | recreated there unsound begins =>
      obtain rfl := Option.some.inj (found.symm.trans there)
      rw [unsound] at assessed
      rcases assessed with ⟨equal, -⟩ | ⟨equal, -⟩ | ⟨-, noBase, notAll⟩
      · cases equal
      · cases equal
      · exact .inr ⟨rfl, noBase, notAll, _, _, rfl, begins⟩

/-- Where only the two lists were asked for, every call was a reading one. -/
theorem method_eq_get (asked : requests calls = [listStreams, listSubscriptions]) :
    ∀ call ∈ calls, call.1.method = .get := by
  intro call member
  have listed : call.1 ∈ [listStreams, listSubscriptions] :=
    asked ▸ List.mem_map_of_mem member
  rcases List.mem_pair.1 listed with same | same <;> rw [same] <;> rfl

/--
A stream with subscriptions that is left in place has names for the base alone or for each
event of a pool, and only reading calls were made.  Otherwise the stream is deleted and the
baseline is made anew, which never happens to a stream whose names are healthy.
-/
theorem left_or_recreated (answer : Request → ε → Outcome × ε) (memory : σ) (state : ε)
    {stream : EventStream} (found : store.topicStream? topic = some stream)
    (nonempty : (store.Names stream.id).Nonempty)
    (serves : store.Serves ((through client topic instancePath).calls answer memory state)
      after) :
    ∃ result,
      ((through client topic instancePath).against answer memory state).1 = .ok result ∧
      ((result = .baseOnly ∧ BaseAlone topic (store.Names stream.id) ∨
          result = .consistent ∧ AllEvents topic (store.Names stream.id)) ∧
        (∀ call ∈ (through client topic instancePath).calls answer memory state,
          call.1.method = .get) ∧
        after = store ∨
      result = .recreated ∧ ¬ Healthy topic (store.Names stream.id) ∧
        ∃ baseline more,
          requests ((through client topic instancePath).calls answer memory state) =
            listStreams :: listSubscriptions ::
              .delete ("/eventstreams/" ++ stream.id) :: more ∧
          Begins (store.removeStream stream.id) topic instancePath baseline more after ∧
          after.topicStream? topic = some baseline ∧
          pack topic basePool none ∈ after.Names baseline.id) := by
  rcases comesTo_of_serves answer memory state serves with ⟨result, comes, comesTo⟩
  refine ⟨result, comes, ?_⟩
  rcases comesTo.cases_of_nonempty found nonempty with
    ⟨covered, asked, unchanged⟩ | ⟨recreated, noBase, notAll, baseline, more, asked, begins⟩
  · exact .inl ⟨covered, method_eq_get asked, unchanged⟩
  · refine .inr ⟨recreated, ?_, baseline, more, asked, begins, begins.topicStream?, ?_⟩
    · intro healthy
      exact (healthy.covered nonempty).elim noBase notAll
    · exact (begins.mem_names_iff _ _).2 (.inr ⟨rfl, rfl⟩)

/-! ## A stream that is made anew, and one that is left -/

/-- A client that makes each call once. -/
def onceClient : Client :=
  ⟨⟨1, 0, 0, 1.0⟩, fun _ => false⟩

/-- A store whose only pool lacks an event. -/
def lackingStore : Store where
  streams := [⟨"es-old", "tok", none, none⟩]
  subscriptions :=
    [⟨"sb-1", "tok:base", "es-old", none⟩,
      ⟨"sb-2", "tok:F1:TokenCreate", "es-old", none⟩,
      ⟨"sb-3", "tok:F1:TransferSingle", "es-old", none⟩]

/-- The baseline that is made in its place. -/
def renewedStore : Store where
  streams := [⟨"es-new", "tok", some 50, some 500⟩]
  subscriptions := [⟨"sb-4", "tok:base", "es-new", some "0"⟩]

/-- How a connector answers while a stream is deleted and made anew. -/
def renewal : List Outcome :=
  [.carrying (.list EventStream.codec) lackingStore.streams,
    .carrying (.list Subscription.codec) lackingStore.subscriptions,
    .ok ⟨204, .null⟩,
    .carrying (.list EventStream.codec) [],
    .carrying EventStream.codec ⟨"es-new", "tok", some 50, some 500⟩,
    .carrying (.list Subscription.codec) [],
    .carrying Subscription.codec ⟨"sb-4", "tok:base", "es-new", some "0"⟩]

theorem serves_renewal :
    lackingStore.Serves ((through onceClient "tok" "/contracts/0xabc").calls
      Client.prepared () renewal) renewedStore := by
  refine .perform_call rfl (.streams ⟨_, rfl, rfl, rfl⟩) ?_
  refine .perform_call rfl (.subscriptions ⟨_, rfl, rfl, rfl⟩) ?_
  refine .perform_call rfl (.deleted "es-old" ⟨_, rfl, rfl⟩) ?_
  refine .perform_call rfl (.streams ⟨_, rfl, rfl, rfl⟩) ?_
  refine .perform_call rfl (@Store.Answers.created _ _ ⟨"es-new", "tok", some 50, some 500⟩
    ⟨nofun, nofun⟩ ⟨_, rfl, rfl, rfl⟩) ?_
  refine .perform_call rfl (.subscriptions ⟨_, rfl, rfl, rfl⟩) ?_
  refine .perform_call rfl (.subscribed
    (Stream.baseWish "tok" "/contracts/0xabc" "es-new") "sb-4" nofun ⟨_, rfl, rfl, rfl⟩) ?_
  exact .nil _

/-- A stream whose only pool lacks an event is deleted, and its baseline is made anew. -/
theorem left_or_recreated_of_lacking :
    lackingStore.topicStream? "tok" = some ⟨"es-old", "tok", none, none⟩ ∧
      (lackingStore.Names "es-old").Nonempty ∧
      ((through onceClient "tok" "/contracts/0xabc").against Client.prepared () renewal).1 =
        .ok .recreated ∧
      ∃ baseline, renewedStore.topicStream? "tok" = some baseline ∧
        pack "tok" basePool none ∈ renewedStore.Names baseline.id := by
  have nonempty : (lackingStore.Names "es-old").Nonempty :=
    ⟨"tok:base", _, List.mem_cons_self, rfl, rfl⟩
  refine ⟨rfl, nonempty, ?_⟩
  obtain ⟨result, comes, ⟨-, -, unchanged⟩ | ⟨rfl, -, baseline, -, -, -, there, base⟩⟩ :=
    left_or_recreated Client.prepared () renewal
      (rfl : lackingStore.topicStream? "tok" = some ⟨"es-old", "tok", none, none⟩)
      nonempty serves_renewal
  · exact absurd (congrArg Store.streams unchanged) (by decide)
  · exact ⟨comes, baseline, there, base⟩

/-- A store with all events of one pool, a single one of another, and an older name. -/
def mixedStore : Store where
  streams := [⟨"es-old", "tok", none, none⟩]
  subscriptions :=
    [⟨"sb-1", "tok:base", "es-old", none⟩,
      ⟨"sb-2", "tok:F1:TokenCreate", "es-old", none⟩,
      ⟨"sb-3", "tok:F1:TransferSingle", "es-old", none⟩,
      ⟨"sb-4", "tok:F1:TransferBatch", "es-old", none⟩,
      ⟨"sb-5", "tok:F2:TokenCreate", "es-old", none⟩,
      ⟨"sb-6", "TransferSingle", "es-old", none⟩]

/-- How a connector lists what it holds. -/
def listings (store : Store) : List Outcome :=
  [.carrying (.list EventStream.codec) store.streams,
    .carrying (.list Subscription.codec) store.subscriptions]

/--
A stream is left although a pool on it lacks events, which another pool has, and although
one of its names is not of this service.
-/
theorem left_of_mixed :
    mixedStore.topicStream? "tok" = some ⟨"es-old", "tok", none, none⟩ ∧
      (mixedStore.Names "es-old").Nonempty ∧
      mixedStore.Serves ((through onceClient "tok" "/contracts/0xabc").calls
        Client.prepared () (listings mixedStore)) mixedStore ∧
      ((through onceClient "tok" "/contracts/0xabc").against Client.prepared ()
        (listings mixedStore)).1 = .ok .consistent ∧
      ¬ Complete "tok" (mixedStore.Names "es-old") ∧
      ¬ ∀ name ∈ mixedStore.Names "es-old", Named "tok" name := by
  refine ⟨rfl, ⟨"tok:base", _, List.mem_cons_self, rfl, rfl⟩, ?_, ?_, ?_, ?_⟩
  · refine .perform_call rfl (.streams ⟨_, rfl, rfl, rfl⟩) ?_
    refine .perform_call rfl (.subscriptions ⟨_, rfl, rfl, rfl⟩) ?_
    exact .nil _
  · refine (congrArg Prod.fst (Client.against_perform_call () rfl rfl)).trans ?_
    refine (congrArg Prod.fst (Client.against_perform_call () rfl rfl)).trans ?_
    rfl
  · intro complete
    have create : pack "tok" "F2" (some PoolEvent.create.name) ∈ mixedStore.Names "es-old" :=
      ⟨⟨"sb-5", "tok:F2:TokenCreate", "es-old", none⟩, by decide, rfl, by decide⟩
    have absent : ∀ other ∈ mixedStore.subscriptions,
        other.name ≠ pack "tok" "F2" (some PoolEvent.batch.name) := by
      decide
    obtain ⟨subscription, there, -, named⟩ :=
      complete "F2" ⟨by decide, by decide⟩ .create create .batch
    exact absent subscription there named
  · intro named
    have older : "TransferSingle" ∈ mixedStore.Names "es-old" :=
      ⟨⟨"sb-6", "TransferSingle", "es-old", none⟩, by decide, rfl, rfl⟩
    exact absurd (named _ older).isForeign (by decide)

end TokenRelay.Reconcile
