import TokenRelay.Connector.Client
import TokenRelay.Proofs.Connector.Procedure

/-!
# The attempts of a call

A call makes one attempt after another, each with the same request, and pauses in between
as the schedule says.  It ends with the first attempt that succeeds, finds nothing, fails in
a way that is not worth another attempt, or is the last that the schedule permits; which of
these decides what the caller is told is settled in this order.

The outcomes of the attempts are any sequence, finite or infinite.  A sequence that is used
up before the call has ended leaves the call waiting for an outcome, and that happens only
before the last permitted attempt: no sequence keeps a call going for ever.
-/

namespace TokenRelay

/-- What others see of a procedure. -/
inductive Effect where
  | call (request : Request)
  | wait (duration : Nat)

namespace Procedure

variable {ρ σ α : Type}

/--
What a procedure shows when its calls get these replies in order, and its value if it
ends.  Where no reply is left it stays at its call.
-/
def scripted : Procedure ρ σ α → Stream'.Seq ρ → σ → List Effect × Option α
  | .done value, _, _ => ([], some value)
  | .call request next, replies, memory =>
    match replies.get? 0 with
    | none => ([.call request], none)
    | some reply =>
      let (effects, value) := (next reply).scripted replies.tail memory
      (.call request :: effects, value)
  | .pause duration rest, replies, memory =>
    let (effects, value) := rest.scripted replies memory
    (.wait duration :: effects, value)
  | .recall next, replies, memory => (next memory).scripted replies memory
  | .remember change rest, replies, memory => rest.scripted replies (change memory)

end Procedure

/-- The failure that an outcome comes to: its own, or the status of a bad response. -/
inductive Outcome.Fails : Outcome → TransportError → Prop where
  | failure (error : TransportError) : Fails (.error error) error
  | status {response : Response} (bad : response.isSuccess = false) :
      Fails (.ok response) (.status response.status response.bodyText)

theorem Outcome.judged_cases (outcome : Outcome) :
    (∃ response, outcome = .ok response ∧ response.isSuccess = true ∧
        outcome.judged = .ok response) ∨
      ∃ failure, outcome.Fails failure ∧ outcome.judged = .error failure := by
  rcases outcome with error | response
  · exact .inr ⟨error, .failure error, rfl⟩
  · by_cases good : response.isSuccess = true
    · exact .inl ⟨response, rfl, good, if_pos good⟩
    · exact .inr ⟨_, .status (Bool.eq_false_iff.2 good), if_neg good⟩

theorem Outcome.Fails.unique {outcome : Outcome} {first second : TransportError}
    (fails : outcome.Fails first) (again : outcome.Fails second) : first = second := by
  cases fails <;> cases again <;> rfl

theorem Outcome.Fails.not_isSuccess {response : Response} {failure : TransportError}
    (fails : Outcome.Fails (.ok response) failure) : response.isSuccess ≠ true := by
  cases fails with
  | status bad => rw [bad]; exact Bool.false_ne_true

/-- A pause follows an attempt exactly if it is not the last permitted one. -/
theorem Schedule.isSome_nextDelay_iff (schedule : Schedule Float) (attempt : Nat) :
    (schedule.nextDelay attempt).isSome ↔ attempt < schedule.attempts := by
  unfold nextDelay delayBy permits
  split <;> simp_all

namespace Client

variable {σ : Type}

/-- That a call ends with an attempt of this number, counted from one, and outcome. -/
inductive Ends (client : Client) (attempt : Nat) : Outcome → Prop where
  | succeeded {response : Response} (good : response.isSuccess = true) :
      Ends client attempt (.ok response)
  | absent {outcome : Outcome} {failure : TransportError} (fails : outcome.Fails failure)
      (notFound : failure.statusCode? = some 404) : Ends client attempt outcome
  | refused {outcome : Outcome} {failure : TransportError} (fails : outcome.Fails failure)
      (unfit : client.permits failure = false) : Ends client attempt outcome
  | spent (outcome : Outcome) (last : max 1 client.schedule.attempts ≤ attempt) :
      Ends client attempt outcome

/-- What the caller is told when a call ends with an attempt. -/
inductive Concludes (client : Client) (request : Request) (attempt : Nat) :
    Outcome → Answer → Prop where
  | succeeded {response : Response} (good : response.isSuccess = true) :
      Concludes client request attempt (.ok response) (.ok response)
  | absent {outcome : Outcome} {failure : TransportError} (fails : outcome.Fails failure)
      (notFound : failure.statusCode? = some 404) :
      Concludes client request attempt outcome (.error (.notFound request.path))
  | refused {outcome : Outcome} {failure : TransportError} (fails : outcome.Fails failure)
      (present : failure.statusCode? ≠ some 404) (unfit : client.permits failure = false) :
      Concludes client request attempt outcome (.error (.rejected failure))
  | exhausted {outcome : Outcome} {failure : TransportError} (fails : outcome.Fails failure)
      (present : failure.statusCode? ≠ some 404) (fit : client.permits failure = true) :
      Concludes client request attempt outcome (.error (.unavailable attempt failure))

/-- What a call shows that ends so many attempts after the given one. -/
def effectsFrom (client : Client) (request : Request) (attempt : Nat) : Nat → List Effect
  | 0 => [.call request]
  | others + 1 =>
    .call request :: ((client.schedule.nextDelay attempt).toList.map .wait ++
      client.effectsFrom request (attempt + 1) others)

/-! ## One attempt -/

/-- An attempt either ends its call or is followed by the schedule's pause. -/
theorem judge_cases (client : Client) (request : Request) {attempt : Nat}
    (counted : 1 ≤ attempt) (outcome : Outcome) :
    (∃ answer, client.judge request attempt outcome = .final answer ∧
        client.Ends attempt outcome ∧ client.Concludes request attempt outcome answer) ∨
      ∃ delay, client.judge request attempt outcome = .again delay ∧
        client.schedule.nextDelay attempt = some delay ∧ ¬ client.Ends attempt outcome := by
  unfold judge
  rcases outcome.judged_cases with ⟨response, rfl, good, judged⟩ | ⟨failure, fails, judged⟩
  · rw [judged]
    exact .inl ⟨_, rfl, .succeeded good, .succeeded good⟩
  · rw [judged]
    by_cases notFound : failure.statusCode? = some 404
    · simp only [TransportError.isNotFound, notFound, decide_true, if_true]
      exact .inl ⟨_, rfl, .absent fails notFound, .absent fails notFound⟩
    cases fit : client.permits failure with
    | false =>
        simp only [TransportError.isNotFound, notFound, decide_false, fit, Bool.not_false,
          if_true, Bool.false_eq_true, if_false]
        exact .inl ⟨_, rfl, .refused fails fit, .refused fails notFound fit⟩
    | true =>
        simp only [TransportError.isNotFound, notFound, decide_false, fit, Bool.not_true,
          Bool.false_eq_true, if_false]
        have permitted := client.schedule.isSome_nextDelay_iff attempt
        cases paused : client.schedule.nextDelay attempt with
        | none =>
            rw [paused] at permitted
            have last : max 1 client.schedule.attempts ≤ attempt := by
              have := permitted.not.1 Bool.false_ne_true
              omega
            exact .inl ⟨_, rfl, .spent outcome last, .exhausted fails notFound fit⟩
        | some delay =>
            rw [paused] at permitted
            have early : attempt < client.schedule.attempts := permitted.1 rfl
            refine .inr ⟨delay, rfl, rfl, ?_⟩
            intro ends
            cases ends with
            | succeeded good => exact fails.not_isSuccess good
            | absent again found => exact notFound (fails.unique again ▸ found)
            | refused again unfit =>
                rw [← fails.unique again, fit] at unfit
                cases unfit
            | spent _ last => omega

/-- How a call goes on after an attempt. -/
def follow (client : Client) (request : Request) (attempt : Nat) :
    Verdict → Procedure Outcome σ Answer
  | .final answer => .done answer
  | .again delay => .pause delay (client.attemptFrom request (attempt + 1))

theorem attemptFrom_eq (client : Client) (request : Request) (attempt : Nat) :
    (client.attemptFrom request attempt : Procedure Outcome σ Answer) =
      .call request fun outcome =>
        client.follow request attempt (client.judge request attempt outcome) := by
  rw [attemptFrom]
  congr 1
  funext outcome
  split <;> rename_i judged <;> rw [judged] <;> rfl

/-! ## All attempts -/

/-- So many outcomes of the sequence, from the given attempt on, do not end the call. -/
def Outlasts (client : Client) (attempt : Nat) (outcomes : Stream'.Seq Outcome)
    (count : Nat) : Prop :=
  ∀ earlier < count, ∃ outcome, outcomes.get? earlier = some outcome ∧
    ¬ client.Ends (attempt + earlier) outcome

theorem Outlasts.succ {client : Client} {attempt count : Nat}
    {outcomes : Stream'.Seq Outcome} {outcome : Outcome}
    (first : outcomes.get? 0 = some outcome) (further : ¬ client.Ends attempt outcome)
    (rest : client.Outlasts (attempt + 1) outcomes.tail count) :
    client.Outlasts attempt outcomes (count + 1) := by
  intro earlier below
  cases earlier with
  | zero => exact ⟨outcome, first, further⟩
  | succ earlier =>
      obtain ⟨later, there, goes⟩ := rest earlier (Nat.lt_of_succ_lt_succ below)
      rw [Stream'.Seq.get?_tail] at there
      rw [Nat.add_assoc, Nat.add_comm 1] at goes
      exact ⟨later, there, goes⟩

/-- No call outlasts the last permitted attempt. -/
theorem Outlasts.lt {client : Client} {outcomes : Stream'.Seq Outcome} {count : Nat}
    (outlasts : client.Outlasts 1 outcomes count) :
    count < max 1 client.schedule.attempts := by
  cases count with
  | zero => omega
  | succ count =>
      obtain ⟨outcome, -, goes⟩ := outlasts count (Nat.lt_succ_self count)
      have early := mt (Ends.spent outcome) goes
      omega

theorem Outlasts.isSome_nextDelay {client : Client} {outcomes : Stream'.Seq Outcome}
    {count : Nat} (outlasts : client.Outlasts 1 outcomes count) {earlier : Nat}
    (below : earlier < count) : (client.schedule.nextDelay (earlier + 1)).isSome := by
  obtain ⟨outcome, -, goes⟩ := outlasts earlier below
  have early := mt (Ends.spent outcome) goes
  rw [Schedule.isSome_nextDelay_iff]
  omega

/-- A call that is begun at an attempt ends as stated, or its outcomes are used up before. -/
theorem scripted_attemptFrom (client : Client) (request : Request) (memory : σ)
    (attempt : Nat) (counted : 1 ≤ attempt) (outcomes : Stream'.Seq Outcome) :
    ∃ count, client.Outlasts attempt outcomes count ∧
      ((∃ outcome answer, outcomes.get? count = some outcome ∧
          client.Ends (attempt + count) outcome ∧
          client.Concludes request (attempt + count) outcome answer ∧
          (client.attemptFrom request attempt).scripted outcomes memory =
            (client.effectsFrom request attempt count, some answer)) ∨
        (outcomes.get? count = none ∧
          (client.attemptFrom request attempt).scripted outcomes memory =
            (client.effectsFrom request attempt count, none))) := by
  rw [attemptFrom_eq]
  cases first : outcomes.get? 0 with
  | none =>
      refine ⟨0, nofun, .inr ⟨first, ?_⟩⟩
      simp only [Procedure.scripted, first, effectsFrom]
  | some outcome =>
      rcases client.judge_cases request counted outcome with
        ⟨answer, judged, ends, concludes⟩ | ⟨delay, judged, paused, further⟩
      · refine ⟨0, nofun, .inl ⟨outcome, answer, first, ends, concludes, ?_⟩⟩
        simp only [Procedure.scripted, first, judged, follow, effectsFrom]
      · have early : attempt < client.schedule.attempts := judge_again judged
        obtain ⟨count, outlasts, result⟩ := client.scripted_attemptFrom request memory
          (attempt + 1) (Nat.le_add_left 1 attempt) outcomes.tail
        refine ⟨count + 1, outlasts.succ first further, ?_⟩
        rw [Stream'.Seq.get?_tail, Nat.add_assoc, Nat.add_comm 1] at result
        simp only [Procedure.scripted, first, judged, follow, effectsFrom, paused,
          Option.toList_some, List.map_cons, List.map_nil, List.cons_append, List.nil_append]
        rcases result with ⟨last, answer, there, ends, concludes, shown⟩ | ⟨none, shown⟩
        · exact .inl ⟨last, answer, there, ends, concludes, by rw [shown]⟩
        · exact .inr ⟨none, by rw [shown]⟩
termination_by client.schedule.attempts - attempt

/-- The places of a sequence whose attempts would end a call. -/
def endings (client : Client) (outcomes : Stream'.Seq Outcome) : Set Nat :=
  {place | ∃ outcome, outcomes.get? place = some outcome ∧ client.Ends (place + 1) outcome}

theorem Outlasts.le_of_mem_endings {client : Client} {outcomes : Stream'.Seq Outcome}
    {count place : Nat} (outlasts : client.Outlasts 1 outcomes count)
    (ending : place ∈ client.endings outcomes) : count ≤ place := by
  by_contra below
  obtain ⟨outcome, there, ends⟩ := ending
  obtain ⟨other, same, further⟩ := outlasts place (Nat.lt_of_not_le below)
  obtain rfl := Option.some.inj (there.symm.trans same)
  rw [Nat.add_comm] at further
  exact further ends

/--
A call makes an attempt for each outcome up to the first that ends it, with the schedule's
pauses between them, and what it comes to is decided by that outcome.  Only a sequence that
is used up before leaves it without an answer.
-/
theorem send_attempts (client : Client) (request : Request)
    (outcomes : Stream'.Seq Outcome) (memory : σ) :
    ∃ count, count + 1 ≤ max 1 client.schedule.attempts ∧
      (client.schedule.attempts < 2 ^ 32 → count + 1 < 2 ^ 32) ∧
      (∀ earlier < count, (client.schedule.nextDelay (earlier + 1)).isSome) ∧
      ((∃ outcome answer, IsLeast (client.endings outcomes) count ∧
          outcomes.get? count = some outcome ∧
          client.Concludes request (count + 1) outcome answer ∧
          (client.send request).scripted outcomes memory =
            (client.effectsFrom request 1 count, some answer)) ∨
        (client.endings outcomes = ∅ ∧ outcomes.get? count = none ∧
          (client.send request).scripted outcomes memory =
            (client.effectsFrom request 1 count, none))) := by
  obtain ⟨count, outlasts, result⟩ :=
    client.scripted_attemptFrom request memory 1 le_rfl outcomes
  have bounded : count + 1 ≤ max 1 client.schedule.attempts := outlasts.lt
  refine ⟨count, bounded, fun word => by omega,
    fun earlier below => outlasts.isSome_nextDelay below, ?_⟩
  rw [Nat.add_comm 1] at result
  rcases result with ⟨outcome, answer, there, ends, concludes, shown⟩ | ⟨usedUp, shown⟩
  · have least : IsLeast (client.endings outcomes) count :=
      ⟨⟨outcome, there, ends⟩, fun place ending => outlasts.le_of_mem_endings ending⟩
    exact .inl ⟨outcome, answer, least, there, concludes, shown⟩
  · refine .inr ⟨?_, usedUp, shown⟩
    rw [Set.eq_empty_iff_forall_notMem]
    intro place ending
    obtain ⟨outcome, there, -⟩ := id ending
    have gone := outcomes.le_stable (outlasts.le_of_mem_endings ending) usedUp
    rw [there] at gone
    cases gone

end Client

end TokenRelay
