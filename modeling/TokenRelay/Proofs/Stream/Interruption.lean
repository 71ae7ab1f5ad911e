import TokenRelay.Proofs.Stream.Outage
import TokenRelay.Proofs.Stream.Renewal

/-!
# Reconciliation that was interrupted

A request that fails ends a reconciliation wherever it stands.  Before its deletion took
effect nothing has changed, and a later reconciliation finds the same stream and makes the
baseline anew.  After that it is too late: what is left is no stream, or one without
subscriptions, and a later reconciliation has nothing to assess and leaves that as it is.
Making the baseline, which a start does after reconciliation, repairs either.
-/

namespace TokenRelay.Reconcile

open SubscriptionName (pack basePool)

variable {σ ε : Type} {client : Client} {store middle after : Store}
  {topic instancePath : String} {stream : EventStream}

/-- The topic has a stream, and that has the base subscription. -/
def Carries (store : Store) (topic : String) : Prop :=
  ∃ stream, store.topicStream? topic = some stream ∧
    pack topic basePool none ∈ store.Names stream.id

/-- What any later reconciliation comes to that is answered normally. -/
def Later (store : Store) (topic instancePath : String) (comes : Result → Store → Prop) :
    Prop :=
  ∀ ⦃σ ε : Type⦄ (client : Client) (answer : Request → ε → Outcome × ε) (memory : σ)
    (state : ε) (after : Store),
    store.Serves ((through client topic instancePath).calls answer memory state) after →
    ∃ result,
      ((through client topic instancePath).against answer memory state).1 = .ok result ∧
      comes result after

/-- A store whose baseline is made by anyone who is answered normally. -/
def Repairable (store : Store) (topic instancePath : String) : Prop :=
  ∀ ⦃σ ε : Type⦄ (client : Client) (answer : Request → ε → Outcome × ε) (memory : σ)
    (state : ε) (after : Store),
    store.Serves ((client.perform (Stream.init topic instancePath).run).calls answer memory
      state) after →
    (∃ stream, ((client.perform (Stream.init topic instancePath).run).against answer memory
      state).1 = .ok stream) ∧ Carries after topic

theorem repairable (store : Store) (topic instancePath : String) :
    Repairable store topic instancePath := by
  intro σ ε client answer memory state after serves
  have performs : client.Performs (Stream.init topic instancePath : Task σ _) store _ _ after :=
    ⟨⟨Procedure.runs_calls answer _ memory state, serves.succeeds⟩, serves⟩
  rcases Stream.performs_init performs with ⟨stream, made, begins⟩
  exact ⟨⟨stream, made⟩, stream, begins.topicStream?,
    (begins.mem_names_iff _ _).2 (.inr ⟨rfl, rfl⟩)⟩

/-- A later reconciliation makes the baseline anew, or leaves what there is. -/
theorem later (store : Store) (topic instancePath : String) :
    Later store topic instancePath fun result after =>
      result = verdict store topic ∧
        (result = .recreated ∧ Carries after topic ∨ result ≠ .recreated ∧ after = store) := by
  intro σ ε client answer memory state after serves
  rcases comesTo_of_serves answer memory state serves with ⟨result, comes, comesTo⟩
  refine ⟨result, comes, comesTo.result_eq, ?_⟩
  rcases comesTo.cases with ⟨left, -, unchanged⟩ | ⟨anew, _, baseline, _, -, -, begins⟩
  · exact .inr ⟨left, unchanged⟩
  · exact .inl ⟨anew, baseline, begins.topicStream?,
      (begins.mem_names_iff _ _).2 (.inr ⟨rfl, rfl⟩)⟩

/-- That a deletion was asked for and succeeded. -/
def Deletes (calls : List (Request × Outcome)) : Prop :=
  ∃ call ∈ calls, call.1.method = .delete ∧ call.2.Succeeds

/-- A deletion is done where the subscriptions of the topic's stream are gone. -/
theorem deletes_of_removed {calls : List (Request × Outcome)}
    (unsound : assess topic (bound store stream) = none)
    (endures : store.Endures calls middle)
    (removed : middle.subscriptions = (store.removeStream stream.id).subscriptions) :
    Deletes calls := by
  by_contra spared
  have kept : store.subscriptions ⊆ middle.subscriptions := by
    apply Store.subscriptions_subset endures
    intro call member asked succeeds
    exact spared ⟨call, member, asked, succeeds⟩
  have some : bound store stream ≠ [] := by
    intro empty
    rw [empty] at unsound
    cases unsound
  rcases List.exists_mem_of_ne_nil _ some with ⟨subscription, there⟩
  rw [bound, List.mem_filter, decide_eq_true_iff] at there
  have stays := kept there.1
  rw [removed, Store.removeStream, List.mem_filter, decide_eq_true_iff] at stays
  exact stays.2 there.2

theorem verdict_of_unsound (found : store.topicStream? topic = some stream)
    (unsound : assess topic (bound store stream) = none) :
    verdict store topic = .recreated := by
  simp [verdict, found, unsound]

theorem verdict_of_vacant (vacant : ∀ other ∈ store.streams, other.name ≠ topic) :
    verdict store topic = .noStream := by
  have none : store.topicStream? topic = none := by
    simpa [Store.topicStream?] using vacant
  simp [verdict, none]

/-- A stream that was just created has no subscriptions. -/
theorem verdict_of_created {created : EventStream}
    (vacant : store.topicStream? topic = none) (fresh : store.Fresh created.id)
    (named : created.name = topic) :
    verdict (store.addStream created) topic = .noSubscriptions := by
  have empty : bound (store.addStream created) created = [] := by
    simpa [bound, Store.addStream] using fresh.ofSubscriptions
  rw [verdict, Store.topicStream?_addStream vacant named]
  simp [assess, empty]

/--
A reconciliation that fails although the topic's stream is not sound has changed nothing, and
a later one makes the baseline anew; or it has deleted that stream, and where the topic had
no other one a later reconciliation leaves what it finds, which is no stream, or a new one to
which nothing is bound.  Whatever is left, anyone who makes the baseline repairs it.
-/
theorem rerun_after_failure (answer : Request → ε → Outcome × ε) (memory : σ) (state : ε)
    {error : BridgeError} (found : store.topicStream? topic = some stream)
    (unsound : assess topic (bound store stream) = none)
    (endures : store.Endures ((through client topic instancePath).calls answer memory state)
      middle)
    (fails : ((through client topic instancePath).against answer memory state).1 =
      .error error) :
    (middle = store ∧ verdict middle topic = .recreated ∨
      Deletes ((through client topic instancePath).calls answer memory state) ∧
        middle = store.removeStream stream.id ∧
        ((store.streams.filter (·.name = topic)).length ≤ 1 →
          verdict middle topic = .noStream) ∨
      Deletes ((through client topic instancePath).calls answer memory state) ∧
        (∃ id, (store.removeStream stream.id).Provides topic id middle) ∧
        ((store.streams.filter (·.name = topic)).length ≤ 1 →
          verdict middle topic = .noSubscriptions)) ∧
      Later middle topic instancePath (fun result after =>
        result = verdict middle topic ∧
          (result = .recreated ∧ Carries after topic ∨
            result ≠ .recreated ∧ after = middle)) ∧
      Repairable middle topic instancePath := by
  refine ⟨?_, later middle topic instancePath, repairable middle topic instancePath⟩
  have ends : EndsIn store topic instancePath (.error error) middle := by
    have runs := Procedure.runs_calls answer (through client topic instancePath) memory state
    rw [fails] at runs
    exact (assures_run topic instancePath).of_runs runs endures
  generalize comes : (Except.error error : Except BridgeError Result) = outcome at ends
  -- a failure leaves one of three stores; the other ends come to a result
  cases ends with
  | undone => exact .inl ⟨rfl, verdict_of_unsound found unsound⟩
  | left => cases comes
  | @removed other made _ there begun =>
      obtain rfl : stream = other := Option.some.inj (found.symm.trans there)
      cases begun with
      | undone =>
          refine .inr (.inl ⟨deletes_of_removed unsound endures rfl, rfl, ?_⟩)
          intro single
          exact verdict_of_vacant (vacant_removeStream single found)
      | @bare id _ provides =>
          refine .inr (.inr ⟨deletes_of_removed unsound endures provides.subscriptions,
            ⟨id, provides⟩, ?_⟩)
          intro single
          have vacant := vacant_removeStream single found
          cases provides with
          | renewed present named => exact (vacant _ present named).elim
          | created none fresh named => exact verdict_of_created none fresh named
      | based => cases comes

/-- How a connector answers until it refuses to delete the stream. -/
def refusedDeletion : List Outcome :=
  listings lackingStore ++ [.error (.other "down")]

/-- A stream whose deletion was refused is made anew by a later reconciliation. -/
theorem rerun_after_failure_of_refused_deletion :
    lackingStore.topicStream? "tok" = some ⟨"es-old", "tok", none, none⟩ ∧
      assess "tok" (bound lackingStore ⟨"es-old", "tok", none, none⟩) = none ∧
      ((through onceClient "tok" "/contracts/0xabc").against Client.prepared ()
        refusedDeletion).1 = .error (.rejected (.other "down")) ∧
      verdict lackingStore "tok" = .recreated ∧
      Later lackingStore "tok" "/contracts/0xabc" (fun result after =>
        result = verdict lackingStore "tok" ∧
          (result = .recreated ∧ Carries after "tok" ∨
            result ≠ .recreated ∧ after = lackingStore)) ∧
      Repairable lackingStore "tok" "/contracts/0xabc" := by
  have unsound : assess "tok" (bound lackingStore ⟨"es-old", "tok", none, none⟩) = none := by
    decide
  have fails : ((through onceClient "tok" "/contracts/0xabc").against Client.prepared ()
      refusedDeletion).1 = .error (.rejected (.other "down")) := by
    refine Client.comes_perform_call rfl rfl ?_
    refine Client.comes_perform_call rfl rfl ?_
    refine Client.comes_perform_refused rfl (by decide) rfl ?_
    rfl
  have endures : lackingStore.Endures ((through onceClient "tok" "/contracts/0xabc").calls
      Client.prepared () refusedDeletion) lackingStore := by
    refine .perform_call rfl (.streams ⟨_, rfl, rfl, rfl⟩) ?_
    refine .perform_call rfl (.subscriptions ⟨_, rfl, rfl, rfl⟩) ?_
    refine .perform_refused rfl (by decide) rfl ?_
    exact .nil _
  refine ⟨rfl, unsound, fails, ?_⟩
  rcases rerun_after_failure Client.prepared () refusedDeletion rfl unsound endures fails with
    ⟨⟨-, anew⟩ | ⟨-, removed, -⟩ | ⟨-, ⟨id, provides⟩, -⟩, reruns⟩
  · exact ⟨anew, reruns⟩
  · exact absurd (congrArg Store.streams removed) (by decide)
  · exact absurd provides.subscriptions (by decide)

/-- How a connector answers until it refuses to make a stream. -/
def refusedCreation : List Outcome :=
  listings lackingStore ++
    [.ok ⟨204, .null⟩, .carrying (.list EventStream.codec) [], .error (.other "down")]

/-- What is left then. -/
def bareStore : Store :=
  ⟨[], []⟩

/--
After a deletion whose stream was not made again a later reconciliation, answered normally,
finds no stream and leaves the topic without one.
-/
theorem bare_after_refused_creation :
    lackingStore.topicStream? "tok" = some ⟨"es-old", "tok", none, none⟩ ∧
      assess "tok" (bound lackingStore ⟨"es-old", "tok", none, none⟩) = none ∧
      lackingStore.Endures ((through onceClient "tok" "/contracts/0xabc").calls
        Client.prepared () refusedCreation) bareStore ∧
      ((through onceClient "tok" "/contracts/0xabc").against Client.prepared ()
        refusedCreation).1 = .error (.rejected (.other "down")) ∧
      bareStore.Serves ((through onceClient "tok" "/contracts/0xabc").calls
        Client.prepared () (listings bareStore)) bareStore ∧
      ((through onceClient "tok" "/contracts/0xabc").against Client.prepared ()
        (listings bareStore)).1 = .ok .noStream ∧
      ¬ Carries bareStore "tok" := by
  refine ⟨rfl, by decide, ?_, ?_, ?_, ?_, ?_⟩
  · refine .perform_call rfl (.streams ⟨_, rfl, rfl, rfl⟩) ?_
    refine .perform_call rfl (.subscriptions ⟨_, rfl, rfl, rfl⟩) ?_
    refine .perform_call rfl (.deleted "es-old" ⟨_, rfl, rfl⟩) ?_
    refine .perform_call rfl (.streams ⟨_, rfl, rfl, rfl⟩) ?_
    refine .perform_refused rfl (by decide) rfl ?_
    exact .nil _
  · refine Client.comes_perform_call rfl rfl ?_
    refine Client.comes_perform_call rfl rfl ?_
    refine Client.comes_perform_call rfl rfl ?_
    refine Client.comes_perform_call rfl rfl ?_
    refine Client.comes_perform_refused rfl (by decide) rfl ?_
    rfl
  · refine .perform_call rfl (.streams ⟨_, rfl, rfl, rfl⟩) ?_
    exact .nil _
  · refine Client.comes_perform_call rfl rfl ?_
    rfl
  · rintro ⟨stream, found, -⟩
    cases found

end TokenRelay.Reconcile
