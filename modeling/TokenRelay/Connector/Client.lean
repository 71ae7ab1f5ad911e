import TokenRelay.Config
import TokenRelay.Connector.Procedure

/-!
# Calls with several attempts

A client makes attempts one after another, each with the same request.  After an attempt
it judges the outcome: success, absence and failures not worth another attempt end the
call, and so does the last permitted attempt; any other failure is followed by a pause
and the next attempt.
-/

namespace TokenRelay

/-- How calls are made. -/
structure Client where
  schedule : Schedule Float
  /-- Whether a failure is worth another attempt. -/
  permits : TransportError → Bool

/-- What follows from the outcome of an attempt. -/
inductive Verdict where
  | final (answer : Answer)
  | again (delay : Nat)

namespace Client

/-- The client of retry settings, refused when the condition is no pattern. -/
def ofSettings (settings : RetrySettings) : Except ConfigFault Client :=
  match RetryCondition.ofSetting settings.condition with
  | .ok condition => .ok ⟨settings.schedule, condition.permits⟩
  | .error fault => .error fault

/-- Judge the outcome of the given attempt, counted from one. -/
def judge (client : Client) (request : Request) (attempt : Nat) (outcome : Outcome) :
    Verdict :=
  match outcome.judged with
  | .ok response => .final (.ok response)
  | .error failure =>
    if failure.isNotFound then
      .final (.error (.notFound request.path))
    else if !client.permits failure then
      .final (.error (.rejected failure))
    else
      match client.schedule.nextDelay attempt with
      | some delay => .again delay
      | none => .final (.error (.unavailable attempt failure))

/-- Another attempt is made only where the schedule permits one. -/
theorem judge_again {client : Client} {request : Request} {attempt delay : Nat}
    {outcome : Outcome} (again : client.judge request attempt outcome = .again delay) :
    attempt < client.schedule.attempts := by
  unfold judge at again
  split at again
  · cases again
  · split at again
    · cases again
    · split at again
      · cases again
      · split at again
        · rename_i found
          unfold Schedule.nextDelay Schedule.delayBy at found
          split at found
          · rename_i permitted
            simpa [Schedule.permits] using permitted
          · cases found
        · cases again

/-- Attempts at a request from one of a given number on, until an outcome is final. -/
def attemptFrom {σ : Type} (client : Client) (request : Request) (attempt : Nat) :
    Procedure Outcome σ Answer :=
  .call request fun outcome =>
    match judged : client.judge request attempt outcome with
    | .final answer => .done answer
    | .again delay => .pause delay (client.attemptFrom request (attempt + 1))
termination_by client.schedule.attempts - attempt
decreasing_by
  have := judge_again judged
  omega

/-- Make a call with all its attempts. -/
def send {σ : Type} (client : Client) (request : Request) : Procedure Outcome σ Answer :=
  client.attemptFrom request 1

/-- Run a procedure with this client's attempts for each of its calls. -/
def perform {σ α : Type} (client : Client) (procedure : Procedure Answer σ α) :
    Procedure Outcome σ α :=
  procedure.answeredBy client.send

end Client

end TokenRelay
