import TokenRelay.Proofs.Connector.Completion

/-!
# Procedures among others

Whoever answers calls has a state, which the calls change and which others may change in
between.  A `Conduct` says what a procedure relies on the others to do and what they may
rely on it to do.  `Procedure.Ensures` says that a procedure, whatever it is answered, does
with each call only what its conduct guarantees, and ends with a property of its value and
of the state then.

`Proceeds` lets procedures run side by side and stop at any moment.  One that makes no step
any more may have ended, may still wait for the others, or may have been given up, with its
last call answered, and its effect made, or not.
-/

namespace TokenRelay

/-- What a procedure relies on from others, and what it guarantees to them. -/
structure Conduct (S : Type) where
  relies : S → S → Prop
  guarantees : S → S → Prop
  refl : ∀ state, relies state state
  trans : ∀ {first second third}, relies first second → relies second third →
    relies first third

/-- What one guarantees is no more than the other relies on. -/
def Conduct.Suits {S : Type} (own other : Conduct S) : Prop :=
  ∀ before after, own.guarantees before after → other.relies before after

namespace Procedure

variable {ρ σ α β S : Type} {answers : S → Request → ρ → S → Prop} {conduct : Conduct S}
  {procedure next : Procedure ρ σ α} {post post' : α → S → Prop}
  {calls : List (Request × ρ)} {state now after : S}

/-- A log of calls that are answered one after the other. -/
inductive Logs (answers : S → Request → ρ → S → Prop) : S → List (Request × ρ) → S → Prop
    where
  | nil (state : S) : Logs answers state [] state
  | cons {state middle after : S} {request : Request} {reply : ρ}
      {later : List (Request × ρ)} (answered : answers state request reply middle)
      (logs : Logs answers middle later after) :
      Logs answers state ((request, reply) :: later) after

/--
That a procedure keeps to a conduct from a state on, and that its value and the state are
as stated when it ends.
-/
def Ensures (answers : S → Request → ρ → S → Prop) (conduct : Conduct S)
    (post : α → S → Prop) : Procedure ρ σ α → S → Prop
  | .done value, state => post value state
  | .call request next, state =>
    ∀ now, conduct.relies state now → ∀ reply after, answers now request reply after →
      conduct.guarantees now after ∧ (next reply).Ensures answers conduct post after
  | .pause _ rest, state => rest.Ensures answers conduct post state
  | .recall next, state => ∀ memory, (next memory).Ensures answers conduct post state
  | .remember _ rest, state => rest.Ensures answers conduct post state

theorem Ensures.mono (ensures : procedure.Ensures answers conduct post state)
    (weaker : ∀ value now, post value now → post' value now) :
    procedure.Ensures answers conduct post' state := by
  induction procedure generalizing state with
  | done value => exact weaker value state ensures
  | call request next induction =>
      intro now others reply after answered
      have goes := ensures now others reply after answered
      exact ⟨goes.1, induction reply goes.2⟩
  | pause duration rest induction => exact induction ensures
  | «recall» next induction => exact fun memory => induction memory (ensures memory)
  | remember change rest induction => exact induction ensures

/-- A composed procedure ensures what its second part does from the end of the first. -/
theorem ensures_bind_iff (procedure : Procedure ρ σ α) (follow : α → Procedure ρ σ β)
    (post : β → S → Prop) (state : S) :
    (procedure.bind follow).Ensures answers conduct post state ↔
      procedure.Ensures answers conduct
        (fun value now => (follow value).Ensures answers conduct post now) state := by
  induction procedure generalizing state with
  | done value => exact Iff.rfl
  | call request next induction => simp only [bind, Ensures, induction]
  | pause duration rest induction => exact induction state
  | «recall» next induction => simp only [bind, Ensures, induction]
  | remember change rest induction => exact induction state

/-- What others are relied on to do changes nothing for a procedure whose end they leave. -/
theorem Ensures.later (ensures : procedure.Ensures answers conduct post state)
    (others : conduct.relies state now) (stays : ∀ value, post value state → post value now) :
    procedure.Ensures answers conduct post now := by
  induction procedure with
  | done value => exact stays value ensures
  | call request next _ =>
      intro then' more
      exact ensures then' (conduct.trans others more)
  | pause duration rest induction => exact induction ensures
  | «recall» next induction => exact fun memory => induction memory (ensures memory)
  | remember change rest induction => exact induction ensures

/-- A step changes nothing or what is guaranteed, and what is ensured stays so. -/
theorem Ensures.advance (ensures : procedure.Ensures answers conduct post state)
    (advances : Advances procedure calls next) (logs : Logs answers state calls after) :
    (after = state ∨ conduct.guarantees state after) ∧
      next.Ensures answers conduct post after := by
  cases advances with
  | call request follow reply =>
      cases logs with
      | cons answered rest =>
          cases rest
          have goes := ensures state (conduct.refl state) reply _ answered
          exact ⟨.inr goes.1, goes.2⟩
  | pause duration rest =>
      cases logs
      exact ⟨.inl rfl, ensures⟩
  | «recall» follow memory =>
      cases logs
      exact ⟨.inl rfl, ensures memory⟩
  | remember change rest =>
      cases logs
      exact ⟨.inl rfl, ensures⟩

theorem logs_append_iff {later : List (Request × ρ)} :
    Logs answers state (calls ++ later) after ↔
      ∃ middle, Logs answers state calls middle ∧ Logs answers middle later after := by
  induction calls generalizing state with
  | nil =>
      constructor
      · intro logs
        exact ⟨state, .nil state, logs⟩
      · rintro ⟨middle, ⟨⟩, logs⟩
        exact logs
  | cons call calls induction =>
      constructor
      · intro logs
        cases logs with
        | cons answered logs =>
            rcases induction.1 logs with ⟨middle, first, second⟩
            exact ⟨middle, .cons answered first, second⟩
      · rintro ⟨middle, first, second⟩
        cases first with
        | cons answered first => exact .cons answered (induction.2 ⟨middle, first, second⟩)

/-- What is ensured holds at the end of every run that nobody comes in between. -/
theorem Ensures.of_runs {value : α} (ensures : procedure.Ensures answers conduct post state)
    (runs : procedure.Runs calls value) (logs : Logs answers state calls after) :
    post value after := by
  induction runs generalizing state with
  | done value =>
      cases logs
      exact ensures
  | step advances _ induction =>
      rcases logs_append_iff.1 logs with ⟨middle, first, rest⟩
      exact induction (ensures.advance advances first).2 rest

/-! ## Side by side -/

/-- Procedures that run side by side, each for as long as it likes, and the state then. -/
inductive Proceeds (answers : S → Request → ρ → S → Prop) :
    List (Procedure ρ σ α) → S → S → Prop where
  | stop (procedures : List (Procedure ρ σ α)) (state : S) :
      Proceeds answers procedures state state
  | advance {procedure next : Procedure ρ σ α} {calls : List (Request × ρ)}
      {state middle after : S} (before others : List (Procedure ρ σ α))
      (advances : Advances procedure calls next) (logs : Logs answers state calls middle)
      (proceeds : Proceeds answers (before ++ next :: others) middle after) :
      Proceeds answers (before ++ procedure :: others) state after

/-- A procedure and its conduct. -/
abbrev Party (ρ σ α S : Type) := Conduct S × Procedure ρ σ α

/-- Parties that suit each other and keep to their conducts from a state on. -/
structure Agree (answers : S → Request → ρ → S → Prop) (parties : List (Party ρ σ α S))
    (state : S) : Prop where
  suited : (parties.map Prod.fst).Pairwise fun own other => own.Suits other ∧ other.Suits own
  ensures : ∀ party ∈ parties, party.2.Ensures answers party.1 (fun _ _ => True) state

end Procedure

namespace Client

variable {σ α β S : Type} {client : Client} {answers : S → Request → Outcome → S → Prop}
  {conduct : Conduct S} {request : Request} {ready : S → Prop} {state : S}

/-! ## Calls and tasks -/

/--
What a call needs: the others leave it ready, its attempts guarantee what they do, and one
that fails leaves it ready while one that succeeds meets the demand.
-/
structure Handles (answers : S → Request → Outcome → S → Prop) (conduct : Conduct S)
    (request : Request) (ready : S → Prop) (accepts : Outcome → S → Prop) : Prop where
  steady : ∀ before after, ready before → conduct.relies before after → ready after
  guaranteed : ∀ before outcome after, ready before → answers before request outcome after →
    conduct.guarantees before after
  settles : ∀ before outcome after, ready before → answers before request outcome after →
    (¬ outcome.Succeeds ∧ ready after) ∨ (outcome.Succeeds ∧ accepts outcome after)

/-- A call whose last attempt succeeded is answered with its response. -/
theorem Concludes.eq_of_isSuccess {attempt : Nat} {response : Response} {reply : Answer}
    (concludes : client.Concludes request attempt (.ok response) reply)
    (good : response.isSuccess = true) : reply = .ok response := by
  cases concludes with
  | succeeded => rfl
  | absent fails => exact (fails.not_isSuccess good).elim
  | refused fails => exact (fails.not_isSuccess good).elim
  | exhausted fails => exact (fails.not_isSuccess good).elim

/-- A call that was refused for good tells its caller of a failure. -/
theorem Concludes.error_of_not_succeeds {attempt : Nat} {outcome : Outcome}
    {reply : Answer} (concludes : client.Concludes request attempt outcome reply)
    (fails : ¬ outcome.Succeeds) : ∃ error, reply = .error error := by
  cases concludes with
  | succeeded good => exact (fails ⟨_, rfl, good⟩).elim
  | absent => exact ⟨_, rfl⟩
  | refused => exact ⟨_, rfl⟩
  | exhausted => exact ⟨_, rfl⟩

/-- All attempts of a call keep to its conduct, and the last one decides. -/
theorem ensures_attemptFrom {accepts : Outcome → S → Prop} {post : Answer → S → Prop}
    (handles : Handles answers conduct request ready accepts)
    (refused : ∀ error now, ready now → post (.error error) now)
    (accepted : ∀ response now, response.isSuccess = true → accepts (.ok response) now →
      post (.ok response) now)
    (attempt : Nat) (counted : 1 ≤ attempt) {state : S} (holds : ready state) :
    (client.attemptFrom request attempt : Procedure Outcome σ Answer).Ensures answers conduct
      post state := by
  rw [attemptFrom_eq]
  intro now others outcome after answered
  have prepared := handles.steady _ _ holds others
  refine ⟨handles.guaranteed _ _ _ prepared answered, ?_⟩
  show (client.follow request attempt (client.judge request attempt outcome)).Ensures answers
    conduct post after
  rcases handles.settles _ _ _ prepared answered with ⟨fails, stays⟩ | ⟨⟨response, rfl, good⟩, met⟩
  · rcases client.judge_cases request counted outcome with
      ⟨reply, judged, -, concludes⟩ | ⟨delay, judged, -, -⟩
    · rcases concludes.error_of_not_succeeds fails with ⟨error, rfl⟩
      rw [judged]
      exact refused error after stays
    · -- the attempt that failed has left everything ready for the next one
      have early : attempt < client.schedule.attempts := judge_again judged
      rw [judged]
      exact ensures_attemptFrom handles refused accepted (attempt + 1) (Nat.le_add_left 1 attempt)
        stays
  · rw [client.judge_of_isSuccess request attempt good]
    exact accepted response after good met
termination_by client.schedule.attempts - attempt

/-- That a task, single attempts included, keeps to a conduct and ends as stated. -/
def Assures (client : Client) (answers : S → Request → Outcome → S → Prop)
    (conduct : Conduct S) (task : Task σ α) (post : Except BridgeError α → S → Prop)
    (state : S) : Prop :=
  (client.perform task.run).Ensures answers conduct post state

@[simp]
theorem assures_pure_iff (value : α) (post : Except BridgeError α → S → Prop) :
    client.Assures answers conduct (pure value : Task σ α) post state ↔
      post (.ok value) state :=
  Iff.rfl

@[simp]
theorem assures_throw_iff (error : BridgeError) (post : Except BridgeError α → S → Prop) :
    client.Assures answers conduct (throw error : Task σ α) post state ↔
      post (.error error) state :=
  Iff.rfl

theorem assures_bind_iff (task : Task σ α) (next : α → Task σ β)
    (post : Except BridgeError β → S → Prop) :
    client.Assures answers conduct (task >>= next) post state ↔
      client.Assures answers conduct task
        (fun found now => client.Assures answers conduct (Task.resume next found) post now)
        state := by
  rw [Assures, perform_bind, Procedure.ensures_bind_iff]
  rfl

theorem assures_send {accepts : Outcome → S → Prop}
    {post : Except BridgeError Response → S → Prop}
    (handles : Handles answers conduct request ready accepts)
    (refused : ∀ error now, ready now → post (.error error) now)
    (accepted : ∀ response now, response.isSuccess = true → accepts (.ok response) now →
      post (.ok response) now)
    (holds : ready state) :
    client.Assures answers conduct (Task.send request : Task σ Response) post state := by
  have whole : client.perform (Task.send request : Task σ Response).run =
      (client.attemptFrom request 1).bind fun reply => client.perform (.done reply) := rfl
  rw [Assures, whole, Procedure.ensures_bind_iff]
  exact ensures_attemptFrom handles refused accepted 1 le_rfl holds

/-- A call for something that is answered with something readable comes to that. -/
theorem assures_sendFor {codec : Codec α} {accepts : α → S → Prop}
    {post : Except BridgeError α → S → Prop}
    (handles : Handles answers conduct request ready fun outcome now =>
      ∃ value, outcome.Gives codec value ∧ accepts value now)
    (refused : ∀ error now, ready now → post (.error error) now)
    (accepted : ∀ value now, accepts value now → post (.ok value) now)
    (holds : ready state) :
    client.Assures answers conduct (Task.sendFor codec request : Task σ α) post state := by
  rw [Task.sendFor, assures_bind_iff]
  refine assures_send handles (fun error now stays => refused error now stays) ?_ holds
  rintro response now - ⟨value, ⟨_, equal, -, reads⟩, met⟩
  obtain rfl := Except.ok.inj equal
  have read : client.Assures answers conduct (Task.read codec response : Task σ α) post now ↔
      post ((codec.read response.body).mapError .deserialization) now := Iff.rfl
  rw [Task.resume, read, reads]
  exact accepted value now met

end Client

end TokenRelay
