import TokenRelay.Proofs.Connector.Completion
import TokenRelay.Proofs.Retry.Condition
import TokenRelay.Token.Service

/-!
# Transactions whose replies are lost

A connector may accept a transaction and its reply be lost on the way.  All attempts of a
submission make the same request, so a connector that does not look at the request's id takes
each that it accepts for a transaction of its own.  It accepts one, and one more for each lost
reply that the client takes to be worth another attempt.  Under the standard settings that is
every reply that is reported as a timeout, and fifteen transactions are the most.
-/

namespace TokenRelay

/-! ## A connector that loses replies -/

/-- What becomes of a request that was sent. -/
inductive Fate where
  | answered (response : Response)
  /-- It is accepted, and the reply is lost. -/
  | lost (failure : TransportError)
  /-- It is not accepted. -/
  | failed (failure : TransportError)

namespace Fate

/-- What the client learns. -/
def outcome : Fate → Outcome
  | .answered response => .ok response
  | .lost failure => .error failure
  | .failed failure => .error failure

def isAccepted : Fate → Bool
  | .answered response => response.isSuccess
  | .lost _ => true
  | .failed _ => false

/-- Whether a request is accepted and yet taken to be worth another attempt. -/
def isRepeated (client : Client) : Fate → Bool
  | .lost failure => client.permits failure
  | _ => false

variable (fates : Nat → Fate)

/-- A connector whose requests have given fates, one after another. -/
def answering (_ : Request) (place : Nat) : Outcome × Nat :=
  ((fates place).outcome, place + 1)

/-- The outcomes of all requests from a place on. -/
def outcomesFrom (place : Nat) : Stream'.Seq Outcome :=
  .ofStream fun later => (fates (place + later)).outcome

/-- How many of the first requests are accepted. -/
def accepted (count : Nat) : Nat :=
  (List.range count).countP fun place => (fates place).isAccepted

/-- How many of the first requests are accepted and yet taken to be worth another attempt. -/
def repeated (client : Client) (count : Nat) : Nat :=
  (List.range count).countP fun place => (fates place).isRepeated client

theorem get?_outcomesFrom (place later : Nat) :
    (outcomesFrom fates place).get? later = some (fates (place + later)).outcome :=
  rfl

theorem tail_outcomesFrom (place : Nat) :
    (outcomesFrom fates place).tail = outcomesFrom fates (place + 1) := by
  apply Stream'.Seq.ext
  intro later
  rw [Stream'.Seq.get?_tail, get?_outcomesFrom, get?_outcomesFrom, Nat.add_assoc,
    Nat.add_comm 1]

end Fate

/-! ## The requests of a call -/

def Effect.request? : Effect → Option Request
  | .call request => some request
  | .wait _ => none

variable {σ α : Type} {client : Client} {fates : Nat → Fate} {request : Request}

/-- A procedure shows the requests that it makes of a connector with these fates. -/
theorem Procedure.requests_scripted (fates : Nat → Fate) (procedure : Procedure Outcome σ α)
    (memory : σ) (place : Nat) :
    (procedure.scripted (Fate.outcomesFrom fates place) memory).1.filterMap Effect.request? =
      (procedure.calls (Fate.answering fates) memory place).map Prod.fst := by
  induction procedure generalizing memory place with
  | done value => rfl
  | call request next induction =>
      rw [scripted, Fate.get?_outcomesFrom, Fate.tail_outcomesFrom]
      exact congrArg (List.cons request) (induction _ memory (place + 1))
  | pause duration rest induction => exact induction memory place
  | «recall» next induction => exact induction memory memory place
  | remember change rest induction => exact induction (change memory) place

namespace Client

theorem requests_effectsFrom (client : Client) (request : Request) (attempt others : Nat) :
    (client.effectsFrom request attempt others).filterMap Effect.request? =
      List.replicate (others + 1) request := by
  induction others generalizing attempt with
  | zero => rfl
  | succ others induction =>
      rw [effectsFrom, List.replicate_succ, ← induction (attempt + 1)]
      cases client.schedule.nextDelay attempt <;> rfl

/-- So many attempts that a call makes at a connector with these fates. -/
structure Makes (client : Client) (fates : Nat → Fate) (count : Nat) : Prop where
  bounded : count ≤ max 1 client.schedule.attempts
  goesOn : ∀ place, place + 1 < count → ¬ client.Ends (place + 1) (fates place).outcome
  ended : ∃ last, count = last + 1 ∧ client.Ends count (fates last).outcome

/-- A call makes so many attempts, each with its one request. -/
theorem exists_makes (client : Client) (fates : Nat → Fate) (request : Request) (memory : σ) :
    ∃ count, client.Makes fates count ∧
      ((client.send request).calls (Fate.answering fates) memory 0).map Prod.fst =
        List.replicate count request := by
  obtain ⟨last, outlasts, ⟨outcome, answer, there, ends, -, shown⟩ | ⟨none, -⟩⟩ :=
    client.scripted_attemptFrom request memory 1 le_rfl (Fate.outcomesFrom fates 0)
  · rw [Fate.get?_outcomesFrom, Nat.zero_add, Option.some.injEq] at there
    subst there
    refine ⟨last + 1, ⟨outlasts.lt, ?_, last, rfl, by rwa [Nat.add_comm] at ends⟩, ?_⟩
    · intro place before
      obtain ⟨outcome, there, goesOn⟩ := outlasts place (Nat.lt_of_succ_lt_succ before)
      rw [Fate.get?_outcomesFrom, Nat.zero_add, Option.some.injEq] at there
      subst there
      rwa [Nat.add_comm] at goesOn
    · rw [← Procedure.requests_scripted, send, shown]
      exact client.requests_effectsFrom request 1 last
  · rw [Fate.get?_outcomesFrom] at none
    cases none

/-- A call goes on only after a failure that is worth another attempt. -/
theorem fails_of_not_ends {attempt : Nat} {outcome : Outcome}
    (goesOn : ¬ client.Ends attempt outcome) :
    ∃ failure, outcome.Fails failure ∧ client.permits failure = true := by
  rcases outcome.judged_cases with ⟨response, rfl, good, -⟩ | ⟨failure, fails, -⟩
  · exact absurd (.succeeded good) goesOn
  · cases fit : client.permits failure with
    | false => exact absurd (.refused fails fit) goesOn
    | true => exact ⟨failure, fails, fit⟩

/-- What is accepted and goes on was lost and taken to be worth another attempt. -/
theorem isRepeated_of_goesOn {fate : Fate} {attempt : Nat}
    (goesOn : ¬ client.Ends attempt fate.outcome) (accepted : fate.isAccepted = true) :
    fate.isRepeated client = true := by
  obtain ⟨failure, fails, fit⟩ := fails_of_not_ends goesOn
  cases fate with
  | answered response => exact absurd accepted fails.not_isSuccess
  | lost failure =>
      cases fails
      exact fit
  | failed failure => cases accepted

namespace Makes

variable {count : Nat}

/-- One transaction is accepted, and one more for each repetition. -/
theorem accepted_le (makes : client.Makes fates count) :
    Fate.accepted fates count ≤ 1 + Fate.repeated fates client (count - 1) := by
  obtain ⟨last, rfl, -⟩ := makes.ended
  have last_le : [last].countP (fun place => (fates place).isAccepted) ≤ 1 :=
    List.countP_le_length
  have others : Fate.accepted fates last ≤ Fate.repeated fates client last := by
    apply List.countP_mono_left
    intro place below accepted
    have goesOn := makes.goesOn place (Nat.succ_lt_succ (List.mem_range.1 below))
    exact isRepeated_of_goesOn goesOn accepted
  rw [Fate.accepted, List.range_succ, List.countP_append, Nat.add_comm]
  exact Nat.add_le_add last_le others

/-- Where every reply is lost and worth another attempt, all attempts are made. -/
theorem count_eq (makes : client.Makes fates count)
    (lost : ∀ place, ∃ failure, fates place = .lost failure ∧ client.permits failure = true ∧
      failure.statusCode? ≠ some 404) :
    count = max 1 client.schedule.attempts := by
  obtain ⟨last, rfl, ends⟩ := makes.ended
  obtain ⟨failure, same, fit, present⟩ := lost last
  rw [same] at ends
  cases ends with
  | absent fails found =>
      cases fails
      exact absurd found present
  | refused fails unfit =>
      cases fails
      rw [fit] at unfit
      cases unfit
  | spent outcome spent => exact le_antisymm makes.bounded spent

end Makes

end Client

theorem Fate.accepted_eq (lost : ∀ place, ∃ failure, fates place = .lost failure)
    (count : Nat) : accepted fates count = count := by
  have all : accepted fates count = (List.range count).length := by
    apply List.countP_eq_length.2
    intro place _
    obtain ⟨failure, same⟩ := lost place
    rw [same]
    rfl
  rw [all, List.length_range]

/-! ## Submissions -/

namespace Service

variable {service : Service}

/-- What can be submitted. -/
inductive Transaction where
  | createPool (pool : CreatePool)
  | mint (mint : Mint)
  | burn (burn : Burn)
  | transfer (transfer : Transfer)

namespace Transaction

/-- The operation that submits a transaction. -/
def task (service : Service) : Transaction → Task σ Submitted
  | .createPool order => service.createPool order
  | .mint order => service.mint order
  | .burn order => service.burn order
  | .transfer order => service.transfer order

/-- The request for a transaction, unless it is refused. -/
def asked (config : Config) : Transaction → Except BridgeError Request
  | .createPool order => .ok (createRequest config order)
  | .mint order => mintRequest config order
  | .burn order => burnRequest config order
  | .transfer order => transferRequest config order

theorem task_eq (service : Service) (transaction : Transaction) :
    (transaction.task service : Task σ Submitted) =
      submit (transaction.asked service.config) := by
  cases transaction <;> rfl

end Transaction

/-- The requests that a connector with these fates receives of one submission. -/
def received (client : Client) (service : Service) (transaction : Transaction)
    (fates : Nat → Fate) (memory : σ) : List Request :=
  ((client.perform (transaction.task service : Task σ Submitted).run).calls
    (Fate.answering fates) memory 0).map Prod.fst

theorem received_of_asked (client : Client) {transaction : Transaction} {asked : Request}
    (asks : transaction.asked service.config = .ok asked) (fates : Nat → Fate) (memory : σ) :
    received client service transaction fates memory =
      ((client.send asked).calls (Fate.answering fates) memory 0).map Prod.fst := by
  have sends := client.perform_sendFor_map (σ := σ) Submission.codec asked
    fun accepted => Submitted.mk accepted.id
  rw [received, transaction.task_eq, asks, submit, sends, Procedure.calls_bind]
  exact congrArg _ (List.append_nil _)

/-- A submission that is refused makes no request. -/
theorem received_of_refused (client : Client) {transaction : Transaction} {error : BridgeError}
    (refused : transaction.asked service.config = .error error) (fates : Nat → Fate)
    (memory : σ) : received client service transaction fates memory = [] := by
  rw [received, transaction.task_eq, refused]
  rfl

/-- How a connector fares with the requests that it receives of one submission. -/
structure AcceptsFew (client : Client) (asked : Except BridgeError Request)
    (fates : Nat → Fate) (received : List Request) : Prop where
  /-- All of them are the same request, with its id if it has one. -/
  same : ∀ request ∈ received, asked = .ok request
  bounded : received.length ≤ 15
  /-- Another one is made only after a failure that is worth it. -/
  goesOn : ∀ place, place + 1 < received.length →
    ∃ failure, (fates place).outcome.Fails failure ∧ client.permits failure = true
  /-- A timeout and a failure to connect are, other mishaps if their own words are. -/
  reports : ∀ (mishap : Mishap) (detail : String), client.permits (mishap.report detail) =
    (mishap.isKnown || client.permits (.other detail))
  /-- One is accepted, and one more for each that was accepted and is repeated. -/
  accepted : Fate.accepted fates received.length ≤
    1 + Fate.repeated fates client (received.length - 1)
  once : (∀ place failure, fates place = .lost failure → client.permits failure = false) →
    Fate.accepted fates received.length ≤ 1
  /-- Where each reply is lost and reported as a timeout, fifteen are accepted. -/
  all : ∀ request, asked = .ok request →
    (∀ place, ∃ (mishap : Mishap) (detail : String), mishap.isKnown = true ∧
      fates place = .lost (mishap.report detail)) →
      received.length = 15 ∧ Fate.accepted fates received.length = 15

theorem repeated_eq_zero
    (unfit : ∀ place failure, fates place = .lost failure → client.permits failure = false)
    (count : Nat) : Fate.repeated fates client count = 0 := by
  apply List.countP_eq_zero.2
  intro place _ repeated
  cases fate : fates place with
  | lost failure =>
      rw [fate, Fate.isRepeated, unfit place failure fate] at repeated
      cases repeated
  | answered response =>
      rw [fate] at repeated
      cases repeated
  | failed failure =>
      rw [fate] at repeated
      cases repeated

theorem acceptsFew_nil (standard : Client.ofSettings .standard = .ok client)
    (error : BridgeError) : AcceptsFew client (.error error) fates [] where
  same := nofun
  bounded := Nat.zero_le _
  goesOn := nofun
  reports := Client.permits_report standard
  accepted := Nat.zero_le _
  once := fun _ => Nat.zero_le _
  all := nofun

theorem acceptsFew_of_makes (standard : Client.ofSettings .standard = .ok client)
    {count : Nat} (makes : client.Makes fates count) (request : Request) :
    AcceptsFew client (.ok request) fates (List.replicate count request) where
  same := fun other member => congrArg _ (List.eq_of_mem_replicate member).symm
  bounded := by
    rw [List.length_replicate]
    exact makes.bounded.trans (by rw [Client.attempts_of_standard standard]; decide)
  goesOn := by
    rw [List.length_replicate]
    exact fun place before => Client.fails_of_not_ends (makes.goesOn place before)
  reports := Client.permits_report standard
  accepted := by
    rw [List.length_replicate]
    exact makes.accepted_le
  once := by
    intro unfit
    rw [List.length_replicate]
    refine makes.accepted_le.trans ?_
    rw [repeated_eq_zero unfit]
  all := by
    intro _ _ lost
    have count : count = 15 := by
      rw [makes.count_eq, Client.attempts_of_standard standard]
      · rfl
      · intro place
        obtain ⟨mishap, detail, known, same⟩ := lost place
        exact ⟨mishap.report detail, same, Client.permits_of_isKnown standard known detail,
          nofun⟩
    have every : ∀ place, ∃ failure, fates place = .lost failure := by
      intro place
      obtain ⟨mishap, detail, -, same⟩ := lost place
      exact ⟨_, same⟩
    rw [List.length_replicate, Fate.accepted_eq every]
    exact ⟨count, count⟩

/-- A connector accepts few of the requests of any submission under the standard settings. -/
theorem submission_acceptsFew (standard : Client.ofSettings .standard = .ok client)
    (service : Service) (transaction : Transaction) (fates : Nat → Fate) (memory : σ) :
    AcceptsFew client (transaction.asked service.config) fates
      (received client service transaction fates memory) := by
  cases asks : transaction.asked service.config with
  | error error =>
      rw [received_of_refused client asks]
      exact acceptsFew_nil standard error
  | ok request =>
      obtain ⟨count, makes, requests⟩ := client.exists_makes fates request memory
      rw [received_of_asked client asks, requests]
      exact acceptsFew_of_makes standard makes request

/-! ## A mint that is made twice -/

def mintingService : Service :=
  ⟨{ Config.ofUrl "http://connector" with topic := "tok", instancePath := "/contracts/0xabc" },
    ⟨"es-1", "tok", none, none⟩⟩

/-- A mint with a request id. -/
def identifiedMint : Transaction :=
  .mint ⟨"F1", "0xb0b", "10", "0xa11ce", none, some "m-1"⟩

/-- The first reply is lost to a timeout, and all others are acceptances. -/
def lostOnce : Nat → Fate
  | 0 => .lost (Mishap.timeout.report
      "error sending request for url (http://connector/contracts/0xabc/mintFungible)")
  | _ => .answered ⟨202, Submission.codec.encode ⟨true, "op-1"⟩⟩

theorem submission_acceptsFew_of_mint :
    ∃ client, Client.ofSettings .standard = .ok client ∧
      AcceptsFew client (identifiedMint.asked mintingService.config) lostOnce
        (received client mintingService identifiedMint lostOnce ()) := by
  obtain ⟨client, standard, -⟩ := Client.exists_ofSettings_standard
  exact ⟨client, standard, submission_acceptsFew standard _ _ _ _⟩

/-- The mint is accepted twice, though it has an id. -/
theorem accepted_twice :
    ∃ client, Client.ofSettings .standard = .ok client ∧
      Fate.accepted lostOnce
        (received client mintingService identifiedMint lostOnce ()).length = 2 := by
  obtain ⟨client, standard, attempts⟩ := Client.exists_ofSettings_standard
  obtain ⟨request, asks⟩ : ∃ request,
      identifiedMint.asked mintingService.config = .ok request := ⟨_, rfl⟩
  obtain ⟨count, makes, requests⟩ := client.exists_makes lostOnce request ()
  refine ⟨client, standard, ?_⟩
  rw [received_of_asked client asks, requests, List.length_replicate]
  obtain ⟨last, rfl, ends⟩ := makes.ended
  rcases last with - | - | later
  · -- the first attempt does not end the call
    cases ends with
    | absent fails found =>
        cases fails
        cases found
    | refused fails unfit =>
        cases fails
        rw [Client.permits_of_isKnown standard rfl] at unfit
        cases unfit
    | spent outcome spent =>
        rw [attempts] at spent
        exact absurd spent (by decide)
  · rfl
  · exact absurd (.succeeded rfl) (makes.goesOn 1 (by omega))

end Service

end TokenRelay
