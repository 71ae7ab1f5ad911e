import TokenRelay.Proofs.Connector.Conduct

/-!
# Procedures that nobody comes between

A procedure that has its memory to itself finds there what it left.  `RunsAlone` relates such
a procedure, begun with a memory, to its calls with whatever they are answered, its value
and its memory at the end.  A run against an answerer is one of these runs.  A procedure that
uses a part of a larger memory leaves the rest of it alone.

A call of a client changes no memory.  Its attempts all make the same request, and the last of
them decides the answer; only that one can succeed, in which case its response is the answer.
-/

namespace TokenRelay

namespace Procedure

variable {ρ σ α β ε : Type}

/-- What a procedure may end with that has its memory to itself. -/
inductive RunsAlone :
    Procedure ρ σ α → σ → List (Request × ρ) → α → σ → Prop where
  | done (value : α) (memory : σ) : RunsAlone (.done value) memory [] value memory
  | call {request : Request} {next : ρ → Procedure ρ σ α} {memory after : σ}
      {later : List (Request × ρ)} {value : α} (reply : ρ)
      (runs : RunsAlone (next reply) memory later value after) :
      RunsAlone (.call request next) memory ((request, reply) :: later) value after
  | pause {rest : Procedure ρ σ α} {memory after : σ} {calls : List (Request × ρ)} {value : α}
      (duration : Nat) (runs : RunsAlone rest memory calls value after) :
      RunsAlone (.pause duration rest) memory calls value after
  | «recall» {next : σ → Procedure ρ σ α} {memory after : σ} {calls : List (Request × ρ)}
      {value : α} (runs : RunsAlone (next memory) memory calls value after) :
      RunsAlone (.recall next) memory calls value after
  | remember {change : σ → σ} {rest : Procedure ρ σ α} {memory after : σ}
      {calls : List (Request × ρ)} {value : α}
      (runs : RunsAlone rest (change memory) calls value after) :
      RunsAlone (.remember change rest) memory calls value after

theorem RunsAlone.of_done {value result : α} {memory after : σ} {calls : List (Request × ρ)}
    (runs : RunsAlone (.done value : Procedure ρ σ α) memory calls result after) :
    calls = [] ∧ result = value ∧ after = memory := by
  cases runs
  exact ⟨rfl, rfl, rfl⟩

/-- A composed procedure runs through its first part, and goes on with what that left. -/
theorem RunsAlone.of_bind {procedure : Procedure ρ σ α} {follow : α → Procedure ρ σ β}
    {memory after : σ} {calls : List (Request × ρ)} {result : β}
    (runs : RunsAlone (procedure.bind follow) memory calls result after) :
    ∃ value middle first later, RunsAlone procedure memory first value middle ∧
      RunsAlone (follow value) middle later result after ∧ calls = first ++ later := by
  induction procedure generalizing memory calls with
  | done value => exact ⟨value, memory, [], calls, .done value memory, runs, rfl⟩
  | call request next induction =>
      cases runs with
      | call reply runs =>
          obtain ⟨value, middle, first, later, starts, follows, rfl⟩ := induction reply runs
          exact ⟨value, middle, _, later, .call reply starts, follows, rfl⟩
  | pause duration rest induction =>
      cases runs with
      | pause _ runs =>
          obtain ⟨value, middle, first, later, starts, follows, rfl⟩ := induction runs
          exact ⟨value, middle, first, later, .pause duration starts, follows, rfl⟩
  | «recall» next induction =>
      cases runs with
      | «recall» runs =>
          obtain ⟨value, middle, first, later, starts, follows, rfl⟩ := induction memory runs
          exact ⟨value, middle, first, later, .recall starts, follows, rfl⟩
  | remember change rest induction =>
      cases runs with
      | remember runs =>
          obtain ⟨value, middle, first, later, starts, follows, rfl⟩ := induction runs
          exact ⟨value, middle, first, later, .remember starts, follows, rfl⟩

theorem RunsAlone.bind {procedure : Procedure ρ σ α} {follow : α → Procedure ρ σ β}
    {memory middle after : σ} {first later : List (Request × ρ)} {value : α} {result : β}
    (starts : RunsAlone procedure memory first value middle)
    (follows : RunsAlone (follow value) middle later result after) :
    RunsAlone (procedure.bind follow) memory (first ++ later) result after := by
  induction starts with
  | done value memory => exact follows
  | call reply _ induction => exact .call reply (induction follows)
  | pause duration _ induction => exact .pause duration (induction follows)
  | «recall» _ induction => exact .recall (induction follows)
  | remember _ induction => exact .remember (induction follows)

/-- A part of a memory that can be exchanged, with the rest left as it is. -/
structure IsPart {τ : Type} (get : τ → σ) (set : σ → τ → τ) : Prop where
  get_set : ∀ part memory, get (set part memory) = part
  set_get : ∀ memory, set (get memory) memory = memory
  set_set : ∀ first second memory, set second (set first memory) = set second memory

/-- A procedure that uses a part of a memory leaves the rest as it was. -/
theorem runsAlone_within_iff {τ : Type} {get : τ → σ} {set : σ → τ → τ} (isPart : IsPart get set)
    {procedure : Procedure ρ σ α} {memory after : τ} {calls : List (Request × ρ)} {value : α} :
    RunsAlone (procedure.within get set) memory calls value after ↔
      ∃ part, RunsAlone procedure (get memory) calls value part ∧ after = set part memory := by
  constructor
  · intro runs
    induction procedure generalizing memory calls with
    | done result =>
        obtain ⟨rfl, rfl, rfl⟩ := runs.of_done
        exact ⟨get after, .done value (get after), (isPart.set_get after).symm⟩
    | call request next induction =>
        cases runs with
        | call reply runs =>
            obtain ⟨part, own, rest⟩ := induction reply runs
            exact ⟨part, .call reply own, rest⟩
    | pause duration rest induction =>
        cases runs with
        | pause _ runs =>
            obtain ⟨part, own, rest⟩ := induction runs
            exact ⟨part, .pause duration own, rest⟩
    | «recall» next induction =>
        cases runs with
        | «recall» runs =>
            obtain ⟨part, own, rest⟩ := induction _ runs
            exact ⟨part, .recall own, rest⟩
    | remember change rest induction =>
        cases runs with
        | remember runs =>
            obtain ⟨part, own, rest⟩ := induction runs
            rw [isPart.get_set] at own
            exact ⟨part, .remember own, rest.trans (isPart.set_set _ _ _)⟩
  · rintro ⟨part, runs, rfl⟩
    generalize had : get memory = found at runs
    induction runs generalizing memory with
    | done value part =>
        rw [← had, isPart.set_get]
        exact .done value memory
    | call reply _ induction => exact .call reply (induction had)
    | pause duration _ induction => exact .pause duration (induction had)
    | «recall» _ induction =>
        subst had
        exact .recall (induction rfl)
    | @remember change _ _ part _ _ _ induction =>
        have later := @induction (set (change (get memory)) memory) (by rw [isPart.get_set, had])
        rw [isPart.set_set] at later
        exact .remember later

/-- Against an answerer a procedure has its memory to itself. -/
theorem runsAlone_calls (answer : Request → ε → ρ × ε) (procedure : Procedure ρ σ α)
    (memory : σ) (state : ε) :
    RunsAlone procedure memory (procedure.calls answer memory state)
      (procedure.against answer memory state).1
      (procedure.against answer memory state).2.1 := by
  induction procedure generalizing memory state with
  | done value => exact .done value memory
  | call request next induction => exact .call _ (induction _ memory _)
  | pause duration rest induction => exact .pause duration (induction memory state)
  | «recall» next induction => exact .recall (induction memory memory state)
  | remember change rest induction => exact .remember (induction (change memory) state)

end Procedure

namespace Client

variable {σ : Type} {client : Client} {request : Request}

/-- An attempt at a request that did not succeed. -/
structure Fruitless (request : Request) (call : Request × Outcome) : Prop where
  asks : call.1 = request
  fails : ¬ call.2.Succeeds

/-- The attempts of a call and the answer that they come to. -/
inductive Attempted (request : Request) : List (Request × Outcome) → Answer → Prop where
  | succeeded {before : List (Request × Outcome)} {response : Response}
      (fruitless : ∀ call ∈ before, Fruitless request call)
      (good : response.isSuccess = true) :
      Attempted request (before ++ [(request, .ok response)]) (.ok response)
  | failed {calls : List (Request × Outcome)}
      (fruitless : ∀ call ∈ calls, Fruitless request call) (error : BridgeError) :
      Attempted request calls (.error error)

/-- An attempt at a request that was followed by another one. -/
structure Passed (client : Client) (request : Request) (call : Request × Outcome) : Prop where
  asks : call.1 = request
  further : ∃ attempt, ¬ client.Ends attempt call.2

theorem Passed.fruitless {call : Request × Outcome} (passed : client.Passed request call) :
    Fruitless request call := by
  refine ⟨passed.asks, ?_⟩
  rintro ⟨response, same, good⟩
  obtain ⟨attempt, further⟩ := passed.further
  rw [same] at further
  exact further (.succeeded good)

/-- The attempts of a call, of which the last one decides the answer. -/
inductive Concluded (client : Client) (request : Request) :
    List (Request × Outcome) → Answer → Prop where
  | last {before : List (Request × Outcome)} {attempt : Nat} {outcome : Outcome} {answer : Answer}
      (passed : ∀ call ∈ before, client.Passed request call)
      (concludes : client.Concludes request attempt outcome answer) :
      Concluded client request (before ++ [(request, outcome)]) answer

theorem Concluded.cons {call : Request × Outcome} {later : List (Request × Outcome)}
    {answer : Answer} (head : client.Passed request call)
    (concluded : client.Concluded request later answer) :
    client.Concluded request (call :: later) answer := by
  cases concluded with
  | @last before attempt outcome _ passed concludes =>
      have all : ∀ other ∈ call :: before, client.Passed request other :=
        List.forall_mem_cons.2 ⟨head, passed⟩
      exact .last all concludes

theorem Concluded.attempted {calls : List (Request × Outcome)} {answer : Answer}
    (concluded : client.Concluded request calls answer) : Attempted request calls answer := by
  cases concluded with
  | @last before attempt outcome _ passed concludes =>
      have fruitless : ∀ call ∈ before, Fruitless request call :=
        fun call member => (passed call member).fruitless
      by_cases succeeds : outcome.Succeeds
      · obtain ⟨response, rfl, good⟩ := succeeds
        obtain rfl := concludes.eq_of_isSuccess good
        exact .succeeded fruitless good
      · obtain ⟨error, rfl⟩ := concludes.error_of_not_succeeds succeeds
        refine .failed (List.forall_mem_append.2 ⟨fruitless, ?_⟩) error
        exact List.forall_mem_singleton.2 ⟨rfl, succeeds⟩

/-- What an attempt and those after it conclude; the memory is left as it was. -/
theorem concluded_attemptFrom (attempt : Nat) (counted : 1 ≤ attempt) {memory after : σ}
    {calls : List (Request × Outcome)} {answer : Answer}
    (runs : (client.attemptFrom request attempt).RunsAlone memory calls answer after) :
    after = memory ∧ client.Concluded request calls answer := by
  rw [attemptFrom_eq] at runs
  cases runs with
  | @call _ _ _ _ later _ outcome runs =>
      replace runs : (client.follow request attempt
        (client.judge request attempt outcome)).RunsAlone memory later answer after := runs
      rcases client.judge_cases request counted outcome with
        ⟨reply, judged, -, concludes⟩ | ⟨delay, judged, -, further⟩
      · rw [judged] at runs
        obtain ⟨rfl, rfl, rfl⟩ := runs.of_done
        have none : ∀ other ∈ [], client.Passed request other := List.forall_mem_nil _
        exact ⟨rfl, .last none concludes⟩
      · have early : attempt < client.schedule.attempts := judge_again judged
        rw [judged] at runs
        cases runs with
        | pause _ runs =>
            obtain ⟨rfl, concluded⟩ :=
              concluded_attemptFrom (attempt + 1) (Nat.le_add_left 1 attempt) runs
            exact ⟨rfl, concluded.cons ⟨rfl, attempt, further⟩⟩
termination_by client.schedule.attempts - attempt

/-- What an attempt and those after it come to; the memory is left as it was. -/
theorem attempted_attemptFrom (attempt : Nat) (counted : 1 ≤ attempt) {memory after : σ}
    {calls : List (Request × Outcome)} {answer : Answer}
    (runs : (client.attemptFrom request attempt).RunsAlone memory calls answer after) :
    after = memory ∧ Attempted request calls answer := by
  obtain ⟨rfl, concluded⟩ := concluded_attemptFrom attempt counted runs
  exact ⟨rfl, concluded.attempted⟩

/-! ## Tasks -/

section Tasks

variable {τ α β : Type} {memory after : σ} {calls : List (Request × Outcome)}

/-- Attempts use no memory, so they are the same with any. -/
theorem attemptFrom_within (get : τ → σ) (set : σ → τ → τ) (attempt : Nat) :
    (client.attemptFrom request attempt : Procedure Outcome σ Answer).within get set =
      client.attemptFrom request attempt := by
  rw [attemptFrom_eq, attemptFrom_eq]
  refine congrArg (Procedure.call request) ?_
  funext outcome
  show (client.follow request attempt (client.judge request attempt outcome)).within get set =
    client.follow request attempt (client.judge request attempt outcome)
  cases judged : client.judge request attempt outcome with
  | final answer => rfl
  | again delay =>
      have early : attempt < client.schedule.attempts := judge_again judged
      exact congrArg (Procedure.pause delay) (attemptFrom_within get set (attempt + 1))
termination_by client.schedule.attempts - attempt

/-- A procedure is performed with a part of a memory as with a memory of its own. -/
theorem perform_within (client : Client) (get : τ → σ) (set : σ → τ → τ)
    (procedure : Procedure Answer σ α) :
    client.perform (procedure.within get set) = (client.perform procedure).within get set :=
  Procedure.answeredBy_within get set client.send client.send
    (fun _ => attemptFrom_within get set 1) procedure

/-- A composed task ends well if its parts do. -/
theorem runsAlone_bind_ok_iff (task : Task σ α) (next : α → Task σ β) (result : β) :
    (client.perform (task >>= next).run).RunsAlone memory calls (.ok result) after ↔
      ∃ value middle first later,
        (client.perform task.run).RunsAlone memory first (.ok value) middle ∧
        (client.perform (next value).run).RunsAlone middle later (.ok result) after ∧
        calls = first ++ later := by
  rw [perform_bind]
  constructor
  · intro runs
    obtain ⟨found, middle, first, later, starts, follows, rfl⟩ := runs.of_bind
    cases found with
    | error error =>
        obtain ⟨-, impossible, -⟩ := follows.of_done
        cases impossible
    | ok value => exact ⟨value, middle, first, later, starts, follows, rfl⟩
  · rintro ⟨value, middle, first, later, starts, follows, rfl⟩
    exact starts.bind follows

/-- A composed task fails with its first part, or goes on and fails then. -/
theorem runsAlone_bind_error_iff (task : Task σ α) (next : α → Task σ β) (error : BridgeError) :
    (client.perform (task >>= next).run).RunsAlone memory calls (.error error) after ↔
      (client.perform task.run).RunsAlone memory calls (.error error) after ∨
      ∃ value middle first later,
        (client.perform task.run).RunsAlone memory first (.ok value) middle ∧
        (client.perform (next value).run).RunsAlone middle later (.error error) after ∧
        calls = first ++ later := by
  rw [perform_bind]
  constructor
  · intro runs
    obtain ⟨found, middle, first, later, starts, follows, rfl⟩ := runs.of_bind
    cases found with
    | error failure =>
        obtain ⟨rfl, same, rfl⟩ := follows.of_done
        obtain rfl := Except.error.inj same
        rw [List.append_nil]
        exact .inl starts
    | ok value => exact .inr ⟨value, middle, first, later, starts, follows, rfl⟩
  · rintro (starts | ⟨value, middle, first, later, starts, follows, rfl⟩)
    · rw [← List.append_nil calls]
      exact starts.bind (.done (Except.error error) after)
    · exact starts.bind follows

end Tasks

end Client

end TokenRelay
