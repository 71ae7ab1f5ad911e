import Mathlib
import TokenRelay.Connector.Procedure

/-!
# What procedures come to

A procedure leaves open what its calls are answered with.  Two readings close it.

`against` runs a procedure to its end against something that answers each call and may
change by it, so one theorem over all answerers covers every connector, every failure and
every order of answers.

`Advances` is a single step with any reply and any memory, for a procedure that is
interrupted by others between its steps.  `Runs` relates a procedure to what it may end
with, together with the calls on the way and what they were answered with; a run against an
answerer is one such run, and it makes the calls that `calls` lists.
-/

namespace TokenRelay.Procedure

variable {ρ ρ' σ τ α β ε : Type}

@[simp]
theorem bind_eq (procedure : Procedure ρ σ α) (next : α → Procedure ρ σ β) :
    procedure >>= next = procedure.bind next :=
  rfl

theorem bind_assoc {γ : Type} (procedure : Procedure ρ σ α) (next : α → Procedure ρ σ β)
    (last : β → Procedure ρ σ γ) :
    (procedure.bind next).bind last = procedure.bind fun value => (next value).bind last := by
  induction procedure with
  | done value => rfl
  | call request follow induction => simp only [bind, induction]
  | pause duration rest induction => simp only [bind, induction]
  | «recall» follow induction => simp only [bind, induction]
  | remember change rest induction => simp only [bind, induction]

theorem bind_done (procedure : Procedure ρ σ α) : procedure.bind .done = procedure := by
  induction procedure with
  | done value => rfl
  | call request follow induction => simp only [bind, induction]
  | pause duration rest induction => simp only [bind, induction]
  | «recall» follow induction => simp only [bind, induction]
  | remember change rest induction => simp only [bind, induction]

instance : LawfulMonad (Procedure ρ σ) :=
  LawfulMonad.mk' _ bind_done (fun _ _ => rfl) bind_assoc

/-! ## Parts of a memory -/

/-- A composed procedure uses a part of a memory as its parts do. -/
theorem within_bind (get : τ → σ) (set : σ → τ → τ) (procedure : Procedure ρ σ α)
    (next : α → Procedure ρ σ β) :
    (procedure.bind next).within get set =
      (procedure.within get set).bind fun value => (next value).within get set := by
  induction procedure with
  | done value => rfl
  | call request follow induction => simp only [bind, within, induction]
  | pause duration rest induction => simp only [bind, within, induction]
  | «recall» follow induction => simp only [bind, within, induction]
  | remember change rest induction => simp only [bind, within, induction]

/-- A part of a part is a part. -/
theorem within_within {υ : Type} (get : τ → σ) (set : σ → τ → τ) (outerGet : υ → τ)
    (outerSet : τ → υ → υ) (procedure : Procedure ρ σ α) :
    (procedure.within get set).within outerGet outerSet =
      procedure.within (fun memory => get (outerGet memory))
        fun part memory => outerSet (set part (outerGet memory)) memory := by
  induction procedure with
  | done value => rfl
  | call request follow induction => simp only [within, induction]
  | pause duration rest induction => simp only [within, induction]
  | «recall» follow induction => simp only [within, induction]
  | remember change rest induction => simp only [within, induction]

/-- Where replies come without a look at the memory, they come as well from a larger one. -/
theorem answeredBy_within (get : τ → σ) (set : σ → τ → τ)
    (send : Request → Procedure ρ' σ ρ) (sendWithin : Request → Procedure ρ' τ ρ)
    (same : ∀ request, (send request).within get set = sendWithin request)
    (procedure : Procedure ρ σ α) :
    (procedure.within get set).answeredBy sendWithin =
      (procedure.answeredBy send).within get set := by
  induction procedure with
  | done value => rfl
  | call request follow induction => simp only [within, answeredBy, within_bind, induction, same]
  | pause duration rest induction => simp only [within, answeredBy, induction]
  | «recall» follow induction => simp only [within, answeredBy, induction]
  | remember change rest induction => simp only [within, answeredBy, induction]

/-! ## Against an answerer -/

/-- Run a procedure to its end: its value, its memory then, and the answerer then. -/
def against (answer : Request → ε → ρ × ε) :
    Procedure ρ σ α → σ → ε → α × σ × ε
  | .done value, memory, state => (value, memory, state)
  | .call request next, memory, state =>
    (next (answer request state).1).against answer memory (answer request state).2
  | .pause _ rest, memory, state => rest.against answer memory state
  | .recall next, memory, state => (next memory).against answer memory state
  | .remember change rest, memory, state => rest.against answer (change memory) state

/-- A procedure that goes on with a value runs on from where the first part ended. -/
theorem against_bind (answer : Request → ε → ρ × ε) (procedure : Procedure ρ σ α)
    (next : α → Procedure ρ σ β) (memory : σ) (state : ε) :
    (procedure.bind next).against answer memory state =
      (next (procedure.against answer memory state).1).against answer
        (procedure.against answer memory state).2.1
        (procedure.against answer memory state).2.2 := by
  induction procedure generalizing memory state with
  | done value => rfl
  | call request follow induction => exact induction _ memory _
  | pause duration rest induction => exact induction memory state
  | «recall» follow induction => exact induction memory memory state
  | remember change rest induction => exact induction (change memory) state

/-! ## Step by step -/

/-- A step, with the calls that it makes; the memory is whatever others have left. -/
inductive Advances :
    Procedure ρ σ α → List (Request × ρ) → Procedure ρ σ α → Prop where
  | call (request : Request) (next : ρ → Procedure ρ σ α) (reply : ρ) :
      Advances (.call request next) [(request, reply)] (next reply)
  | pause (duration : Nat) (rest : Procedure ρ σ α) :
      Advances (.pause duration rest) [] rest
  | «recall» (next : σ → Procedure ρ σ α) (memory : σ) :
      Advances (.recall next) [] (next memory)
  | remember (change : σ → σ) (rest : Procedure ρ σ α) :
      Advances (.remember change rest) [] rest

/-- What a procedure may end with, and the calls that it makes before. -/
inductive Runs : Procedure ρ σ α → List (Request × ρ) → α → Prop where
  | done (value : α) : Runs (.done value) [] value
  | step {procedure next : Procedure ρ σ α} {calls later : List (Request × ρ)}
      {value : α} (advances : Advances procedure calls next)
      (runs : Runs next later value) : Runs procedure (calls ++ later) value

@[simp]
theorem runs_done_iff (value result : α) (calls : List (Request × ρ)) :
    Runs (.done value : Procedure ρ σ α) calls result ↔ calls = [] ∧ result = value := by
  constructor
  · intro runs
    cases runs with
    | done => exact ⟨rfl, rfl⟩
    | step advances _ => cases advances
  · rintro ⟨rfl, rfl⟩
    exact .done result

@[simp]
theorem runs_call_iff (request : Request) (next : ρ → Procedure ρ σ α)
    (calls : List (Request × ρ)) (result : α) :
    Runs (.call request next) calls result ↔
      ∃ reply later, Runs (next reply) later result ∧ calls = (request, reply) :: later := by
  constructor
  · intro runs
    cases runs with
    | step advances runs =>
        cases advances with
        | call _ _ reply => exact ⟨reply, _, runs, rfl⟩
  · rintro ⟨reply, later, runs, rfl⟩
    exact .step (.call request next reply) runs

@[simp]
theorem runs_pause_iff (duration : Nat) (rest : Procedure ρ σ α)
    (calls : List (Request × ρ)) (result : α) :
    Runs (.pause duration rest) calls result ↔ Runs rest calls result := by
  constructor
  · intro runs
    cases runs with
    | step advances runs =>
        cases advances with
        | pause => exact runs
  · exact .step (.pause duration rest)

@[simp]
theorem runs_recall_iff (next : σ → Procedure ρ σ α)
    (calls : List (Request × ρ)) (result : α) :
    Runs (.recall next) calls result ↔ ∃ memory, Runs (next memory) calls result := by
  constructor
  · intro runs
    cases runs with
    | step advances runs =>
        cases advances with
        | «recall» _ memory => exact ⟨memory, runs⟩
  · rintro ⟨memory, runs⟩
    exact .step (.recall next memory) runs

@[simp]
theorem runs_remember_iff (change : σ → σ) (rest : Procedure ρ σ α)
    (calls : List (Request × ρ)) (result : α) :
    Runs (.remember change rest) calls result ↔ Runs rest calls result := by
  constructor
  · intro runs
    cases runs with
    | step advances runs =>
        cases advances with
        | remember => exact runs
  · exact .step (.remember change rest)

theorem Advances.bind {procedure next : Procedure ρ σ α} {calls : List (Request × ρ)}
    (advances : Advances procedure calls next) (follow : α → Procedure ρ σ β) :
    Advances (procedure.bind follow) calls (next.bind follow) := by
  cases advances with
  | call request next reply => exact .call request _ reply
  | pause duration rest => exact .pause duration _
  | «recall» next memory => exact .recall _ memory
  | remember change rest => exact .remember change _

/-- A composed procedure runs through its first part, and goes on with its value. -/
theorem runs_bind_iff (procedure : Procedure ρ σ α) (follow : α → Procedure ρ σ β)
    (calls : List (Request × ρ)) (result : β) :
    Runs (procedure.bind follow) calls result ↔
      ∃ value first later, Runs procedure first value ∧
        Runs (follow value) later result ∧ calls = first ++ later := by
  induction procedure generalizing calls with
  | done value => simp [bind]
  | call request next induction =>
      simp only [bind, runs_call_iff, induction]
      constructor
      · rintro ⟨reply, _, ⟨value, first, later, runs, follows, rfl⟩, rfl⟩
        exact ⟨value, _, later, ⟨reply, first, runs, rfl⟩, follows, rfl⟩
      · rintro ⟨value, _, later, ⟨reply, first, runs, rfl⟩, follows, rfl⟩
        exact ⟨reply, _, ⟨value, first, later, runs, follows, rfl⟩, rfl⟩
  | pause duration rest induction => simp only [bind, runs_pause_iff, induction]
  | «recall» next induction =>
      simp only [bind, runs_recall_iff, induction]
      constructor
      · rintro ⟨memory, value, first, later, runs, follows, rfl⟩
        exact ⟨value, first, later, ⟨memory, runs⟩, follows, rfl⟩
      · rintro ⟨value, first, later, ⟨memory, runs⟩, follows, rfl⟩
        exact ⟨memory, value, first, later, runs, follows, rfl⟩
  | remember change rest induction => simp only [bind, runs_remember_iff, induction]

/-- Giving the replies of a composed procedure is giving those of its parts. -/
theorem answeredBy_bind (send : Request → Procedure ρ' σ ρ) (procedure : Procedure ρ σ α)
    (follow : α → Procedure ρ σ β) :
    (procedure.bind follow).answeredBy send =
      (procedure.answeredBy send).bind fun value => (follow value).answeredBy send := by
  induction procedure with
  | done value => rfl
  | call request next induction =>
      simp only [bind, answeredBy, induction, bind_assoc]
  | pause duration rest induction => simp only [bind, answeredBy, induction]
  | «recall» next induction => simp only [bind, answeredBy, induction]
  | remember change rest induction => simp only [bind, answeredBy, induction]

/-! ## The calls of a run -/

/-- The calls that a procedure makes against an answerer, and what they are answered with. -/
def calls (answer : Request → ε → ρ × ε) :
    Procedure ρ σ α → σ → ε → List (Request × ρ)
  | .done _, _, _ => []
  | .call request next, memory, state =>
    (request, (answer request state).1) ::
      (next (answer request state).1).calls answer memory (answer request state).2
  | .pause _ rest, memory, state => rest.calls answer memory state
  | .recall next, memory, state => (next memory).calls answer memory state
  | .remember change rest, memory, state => rest.calls answer (change memory) state

/-- A procedure that goes on with a value makes its calls after those of the first part. -/
theorem calls_bind (answer : Request → ε → ρ × ε) (procedure : Procedure ρ σ α)
    (next : α → Procedure ρ σ β) (memory : σ) (state : ε) :
    (procedure.bind next).calls answer memory state =
      procedure.calls answer memory state ++
        (next (procedure.against answer memory state).1).calls answer
          (procedure.against answer memory state).2.1
          (procedure.against answer memory state).2.2 := by
  induction procedure generalizing memory state with
  | done value => rfl
  | call request follow induction => exact congrArg (List.cons _) (induction _ memory _)
  | pause duration rest induction => exact induction memory state
  | «recall» follow induction => exact induction memory memory state
  | remember change rest induction => exact induction (change memory) state

/-- A run against an answerer is one of the runs that a procedure may have. -/
theorem runs_calls (answer : Request → ε → ρ × ε) (procedure : Procedure ρ σ α)
    (memory : σ) (state : ε) :
    procedure.Runs (procedure.calls answer memory state)
      (procedure.against answer memory state).1 := by
  induction procedure generalizing memory state with
  | done value => exact .done value
  | call request next induction =>
      exact .step (.call request next _) (induction _ memory _)
  | pause duration rest induction => exact .step (.pause duration rest) (induction memory state)
  | «recall» next induction =>
      exact .step (.recall next memory) (induction memory memory state)
  | remember change rest induction =>
      exact .step (.remember change rest) (induction (change memory) state)

end TokenRelay.Procedure
