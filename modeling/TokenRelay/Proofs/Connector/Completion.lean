import TokenRelay.Proofs.Connector.Attempts

/-!
# Tasks whose calls succeed

Where every attempt succeeds a call is a single attempt, whatever the schedule, and a task
makes the calls of its parts one after another.  `Client.Completes` says what a task comes
to then; there is one rule for each way in which tasks are put together.
-/

namespace TokenRelay

variable {σ α β ε : Type}

/-- A response that counts as a success. -/
def Outcome.Succeeds (outcome : Outcome) : Prop :=
  ∃ response, outcome = .ok response ∧ response.isSuccess = true

/-- A success whose body reads as a value. -/
def Outcome.Gives (codec : Codec α) (outcome : Outcome) (value : α) : Prop :=
  ∃ response, outcome = .ok response ∧ response.isSuccess = true ∧
    codec.read response.body = .ok value

/-- The outcome whose body is a written value. -/
def Outcome.carrying (codec : Codec α) (value : α) : Outcome :=
  .ok ⟨200, codec.encode value⟩

theorem Outcome.Gives.succeeds {codec : Codec α} {outcome : Outcome} {value : α}
    (gives : outcome.Gives codec value) : outcome.Succeeds := by
  rcases gives with ⟨response, rfl, good, -⟩
  exact ⟨response, rfl, good⟩

theorem Outcome.Gives.unique {codec : Codec α} {outcome : Outcome} {first second : α}
    (gives : outcome.Gives codec first) (again : outcome.Gives codec second) :
    first = second := by
  rcases gives with ⟨response, rfl, -, reads⟩
  rcases again with ⟨_, equal, -, readsAgain⟩
  obtain rfl := Except.ok.inj equal
  exact Except.ok.inj (reads.symm.trans readsAgain)

/-- Go on with what a task came to; a failure ends it. -/
def Task.resume (next : α → Task σ β) : Except BridgeError α → Task σ β
  | .ok value => next value
  | .error error => throw error

namespace Client

/-! ## A call whose first attempt succeeds -/

section Call

variable {client : Client} {request : Request} {next : Answer → Procedure Answer σ α}
  {answer : Request → ε → Outcome × ε} {state : ε} {response : Response}
  {later : List (Request × Outcome)} {value : α}

theorem judge_of_isSuccess (client : Client) (request : Request) (attempt : Nat)
    (good : response.isSuccess = true) :
    client.judge request attempt (.ok response) = .final (.ok response) := by
  simp [judge, Outcome.judged, good]

theorem perform_call (client : Client) (request : Request)
    (next : Answer → Procedure Answer σ α) :
    client.perform (.call request next) =
      .call request fun outcome =>
        (client.follow request 1 (client.judge request 1 outcome)).bind
          fun reply => client.perform (next reply) :=
  congrArg (Procedure.bind · _) (client.attemptFrom_eq request 1)

theorem runs_perform_call_iff (good : response.isSuccess = true) :
    (client.perform (.call request next)).Runs ((request, .ok response) :: later) value ↔
      (client.perform (next (.ok response))).Runs later value := by
  rw [perform_call, Procedure.runs_call_iff]
  constructor
  · rintro ⟨_, _, runs, equal⟩
    cases equal
    rw [client.judge_of_isSuccess request 1 good] at runs
    exact runs
  · intro runs
    refine ⟨.ok response, later, ?_, rfl⟩
    rw [client.judge_of_isSuccess request 1 good]
    exact runs

theorem advances_perform_call (good : response.isSuccess = true) :
    (client.perform (.call request next)).Advances [(request, .ok response)]
      (client.perform (next (.ok response))) := by
  have goes : client.perform (next (.ok response)) =
      (client.follow request 1 (client.judge request 1 (.ok response))).bind
        fun reply => client.perform (next reply) := by
    rw [client.judge_of_isSuccess request 1 good]
    rfl
  rw [perform_call, goes]
  exact .call request _ (Except.ok response)

theorem against_perform_call (memory : σ) (replies : (answer request state).1 = .ok response)
    (good : response.isSuccess = true) :
    (client.perform (.call request next)).against answer memory state =
      (client.perform (next (.ok response))).against answer memory (answer request state).2 := by
  rw [perform_call, Procedure.against, replies, client.judge_of_isSuccess request 1 good]
  rfl

theorem calls_perform_call (memory : σ) (replies : (answer request state).1 = .ok response)
    (good : response.isSuccess = true) :
    (client.perform (.call request next)).calls answer memory state =
      (request, .ok response) ::
        (client.perform (next (.ok response))).calls answer memory
          (answer request state).2 := by
  rw [perform_call, Procedure.calls, replies, client.judge_of_isSuccess request 1 good]
  rfl

/-- An answerer that gives prepared outcomes in order. -/
def prepared (_ : Request) : List Outcome → Outcome × List Outcome
  | [] => (.error (.other "nothing is prepared"), [])
  | outcome :: rest => (outcome, rest)

end Call

/-! ## Tasks -/

/-- What a task may come to, and its calls, where every attempt succeeds. -/
structure Completes (client : Client) (task : Task σ α) (calls : List (Request × Outcome))
    (result : Except BridgeError α) : Prop where
  runs : (client.perform task.run).Runs calls result
  succeeds : ∀ call ∈ calls, call.2.Succeeds

variable (client : Client) (calls : List (Request × Outcome))

@[simp]
theorem completes_pure_iff (value : α) (result : Except BridgeError α) :
    client.Completes (pure value : Task σ α) calls result ↔
      calls = [] ∧ result = .ok value := by
  constructor
  · intro completes
    exact (Procedure.runs_done_iff _ _ _).1 completes.runs
  · rintro ⟨rfl, rfl⟩
    exact ⟨.done _, nofun⟩

@[simp]
theorem completes_throw_iff (error : BridgeError) (result : Except BridgeError α) :
    client.Completes (throw error : Task σ α) calls result ↔
      calls = [] ∧ result = .error error := by
  constructor
  · intro completes
    exact (Procedure.runs_done_iff _ _ _).1 completes.runs
  · rintro ⟨rfl, rfl⟩
    exact ⟨.done _, nofun⟩

theorem perform_bind (task : Task σ α) (next : α → Task σ β) :
    client.perform (task >>= next).run =
      (client.perform task.run).bind fun found =>
        client.perform (Task.resume next found).run := by
  refine (Procedure.answeredBy_bind client.send task.run _).trans ?_
  congr 1
  funext found
  cases found <;> rfl

/-- A task that sends for something and reads it makes the attempts of one call alone. -/
theorem perform_sendFor_map (codec : Codec α) (request : Request) (f : α → β) :
    client.perform (Task.sendFor codec request >>= fun value => pure (f value) : Task σ β).run =
      (client.send request).bind fun answer => .done
        ((answer.bind fun response =>
          (codec.read response.body).mapError BridgeError.deserialization).map f) := by
  have sends : client.perform (Task.sendFor codec request : Task σ α).run =
      (client.send request).bind fun answer => .done
        (answer.bind fun response =>
          (codec.read response.body).mapError BridgeError.deserialization) := by
    have whole : client.perform (Task.send request : Task σ Response).run = client.send request :=
      Procedure.bind_done _
    rw [Task.sendFor, perform_bind, whole]
    congr 1
    funext answer
    cases answer <;> rfl
  rw [perform_bind, sends, Procedure.bind_assoc]
  congr 1
  funext answer
  generalize (answer.bind fun response =>
    (codec.read response.body).mapError BridgeError.deserialization) = found
  cases found <;> rfl

/-- A composed task makes the calls of its first part, then those of what follows. -/
theorem completes_bind_iff (task : Task σ α) (next : α → Task σ β)
    (result : Except BridgeError β) :
    client.Completes (task >>= next) calls result ↔
      ∃ found first later, client.Completes task first found ∧
        client.Completes (Task.resume next found) later result ∧ calls = first ++ later := by
  constructor
  · rintro ⟨runs, succeeds⟩
    rw [perform_bind, Procedure.runs_bind_iff] at runs
    rcases runs with ⟨found, first, later, runs, follows, rfl⟩
    rw [List.forall_mem_append] at succeeds
    exact ⟨found, first, later, ⟨runs, succeeds.1⟩, ⟨follows, succeeds.2⟩, rfl⟩
  · rintro ⟨found, first, later, ⟨runs, firsts⟩, ⟨follows, others⟩, rfl⟩
    refine ⟨?_, List.forall_mem_append.2 ⟨firsts, others⟩⟩
    rw [perform_bind, Procedure.runs_bind_iff]
    exact ⟨found, first, later, runs, follows, rfl⟩

/-- A composed task that succeeds goes on with what its first part gave. -/
theorem completes_bind_ok_iff (task : Task σ α) (next : α → Task σ β) (result : β) :
    client.Completes (task >>= next) calls (.ok result) ↔
      ∃ value first later, client.Completes task first (.ok value) ∧
        client.Completes (next value) later (.ok result) ∧ calls = first ++ later := by
  rw [completes_bind_iff]
  constructor
  · rintro ⟨found, first, later, starts, follows, rfl⟩
    cases found with
    | ok value => exact ⟨value, first, later, starts, follows, rfl⟩
    | error error =>
        rcases (completes_throw_iff _ _ _ _).1 follows with ⟨-, impossible⟩
        cases impossible
  · rintro ⟨value, first, later, starts, follows, rfl⟩
    exact ⟨.ok value, first, later, starts, follows, rfl⟩

/-- A call is a single attempt. -/
theorem completes_send_iff (request : Request) (result : Except BridgeError Response) :
    client.Completes (Task.send request : Task σ Response) calls result ↔
      ∃ response, response.isSuccess = true ∧ calls = [(request, .ok response)] ∧
        result = .ok response := by
  constructor
  · rintro ⟨runs, succeeds⟩
    have called := runs
    rw [show (Task.send request : Task σ Response).run = .call request .done from rfl,
      perform_call, Procedure.runs_call_iff] at called
    rcases called with ⟨outcome, later, -, rfl⟩
    rcases succeeds _ List.mem_cons_self with ⟨response, rfl, good⟩
    rcases (Procedure.runs_done_iff _ _ _).1 ((runs_perform_call_iff good).1 runs) with ⟨rfl, rfl⟩
    exact ⟨response, good, rfl, rfl⟩
  · rintro ⟨response, good, rfl, rfl⟩
    exact ⟨(runs_perform_call_iff good).2 (.done _), by simpa using ⟨response, rfl, good⟩⟩

/-- A call for something comes to what the body reads as. -/
theorem completes_sendFor_iff (codec : Codec α) (request : Request)
    (result : Except BridgeError α) :
    client.Completes (Task.sendFor codec request : Task σ α) calls result ↔
      ∃ response, response.isSuccess = true ∧ calls = [(request, .ok response)] ∧
        result = (codec.read response.body).mapError .deserialization := by
  have read_iff : ∀ later response, client.Completes
      (Task.read codec response : Task σ α) later result ↔
        later = [] ∧ result = (codec.read response.body).mapError .deserialization := by
    intro later response
    constructor
    · intro completes
      exact (Procedure.runs_done_iff _ _ _).1 completes.runs
    · rintro ⟨rfl, rfl⟩
      exact ⟨.done _, nofun⟩
  rw [Task.sendFor, completes_bind_iff]
  constructor
  · rintro ⟨found, first, later, sends, reads, rfl⟩
    rcases (completes_send_iff _ _ _ _).1 sends with ⟨response, good, rfl, rfl⟩
    rcases (read_iff _ _).1 reads with ⟨rfl, rfl⟩
    exact ⟨response, good, rfl, rfl⟩
  · rintro ⟨response, good, rfl, rfl⟩
    exact ⟨.ok response, _, [], (completes_send_iff _ _ _ _).2 ⟨response, good, rfl, rfl⟩,
      (read_iff _ _).2 ⟨rfl, rfl⟩, rfl⟩

/-- A call for something that succeeds is answered with what it comes to. -/
theorem completes_sendFor_ok_iff (codec : Codec α) (request : Request) (value : α) :
    client.Completes (Task.sendFor codec request : Task σ α) calls (.ok value) ↔
      ∃ outcome : Outcome, outcome.Gives codec value ∧ calls = [(request, outcome)] := by
  rw [completes_sendFor_iff]
  constructor
  · rintro ⟨response, good, rfl, equal⟩
    cases reads : codec.read response.body with
    | error fault =>
        rw [reads] at equal
        cases equal
    | ok found =>
        rw [reads] at equal
        cases equal
        exact ⟨.ok response, ⟨response, rfl, good, reads⟩, rfl⟩
  · rintro ⟨_, ⟨response, rfl, good, reads⟩, rfl⟩
    exact ⟨response, good, rfl, by rw [reads]; rfl⟩

end Client

end TokenRelay
