import TokenRelay.Proofs.Connector.Conduct

/-!
# Procedures that take turns

Procedures run side by side, and the log tells which of them made each request.  A turn is
one step of one of them, and its call is answered at once, so every order in which requests
of several callers can reach the connector is the order of some turns.  Any of them may stop
at any moment.
-/

namespace TokenRelay.Procedure

variable {ρ σ α S : Type}

/-- What is left of procedures after some turns, their requests by place, and the state. -/
inductive Turns (answers : S → Request → ρ → S → Prop) (procedures : List (Procedure ρ σ α))
    (origin : S) : List (Nat × Request) → List (Procedure ρ σ α) → S → Prop where
  | start : Turns answers procedures origin [] procedures origin
  | turn {log : List (Nat × Request)} {left : List (Procedure ρ σ α)} {state after : S}
      {place : Nat} {procedure next : Procedure ρ σ α} {calls : List (Request × ρ)}
      (turns : Turns answers procedures origin log left state)
      (there : left[place]? = some procedure) (advances : Advances procedure calls next)
      (logs : Logs answers state calls after) :
      Turns answers procedures origin (log ++ calls.map fun call => (place, call.1))
        (left.set place next) after

@[simp]
theorem logs_singleton_iff {answers : S → Request → ρ → S → Prop} {state after : S}
    {request : Request} {reply : ρ} :
    Logs answers state [(request, reply)] after ↔ answers state request reply after := by
  constructor
  · intro logs
    cases logs with
    | cons answered rest =>
        cases rest
        exact answered
  · intro answered
    exact .cons answered (.nil after)

end TokenRelay.Procedure

namespace TokenRelay.Client

open Procedure (Advances Turns)

variable {σ α β : Type} {client : Client} {request : Request}
  {calls : List (Request × Outcome)}

/-- A call starts with a request, and goes on with its response if that is a success. -/
theorem of_advances_perform_call {next : Answer → Procedure Answer σ α}
    {following : Procedure Outcome σ α}
    (advances : (client.perform (.call request next)).Advances calls following) :
    ∃ outcome : Outcome, calls = [(request, outcome)] ∧
      ∀ response, outcome = .ok response → response.isSuccess = true →
        following = client.perform (next (.ok response)) := by
  rw [perform_call] at advances
  cases advances with
  | call _ _ outcome =>
      refine ⟨outcome, rfl, ?_⟩
      rintro response rfl good
      dsimp only
      rw [client.judge_of_isSuccess request 1 good]
      rfl

/-- A turn of a procedure whose call is answered with a success. -/
theorem turn_of_call {S : Type} {answers : S → Request → Outcome → S → Prop}
    {procedures left : List (Procedure Outcome σ α)} {origin state after : S}
    {log : List (Nat × Request)} {next : Answer → Procedure Answer σ α} {response : Response}
    (turns : Turns answers procedures origin log left state) (place : Nat)
    (there : left[place]? = some (client.perform (.call request next)))
    (good : response.isSuccess = true)
    (answered : answers state request (.ok response) after) :
    Turns answers procedures origin (log ++ [(place, request)])
      (left.set place (client.perform (next (.ok response)))) after :=
  turns.turn there (advances_perform_call good) (Procedure.logs_singleton_iff.2 answered)

/-- A call for something starts with a request, and goes on with what the response gives. -/
theorem of_advances_sendFor {codec : Codec α} {next : α → Task σ β}
    {following : Procedure Outcome σ (Except BridgeError β)}
    (advances : (client.perform (Task.sendFor codec request >>= next).run).Advances calls
      following) :
    ∃ outcome : Outcome, calls = [(request, outcome)] ∧
      ∀ value, outcome.Gives codec value → following = client.perform (next value).run := by
  obtain ⟨outcome, only, goes⟩ := of_advances_perform_call advances
  refine ⟨outcome, only, ?_⟩
  rintro value ⟨response, same, good, reads⟩
  have read : (codec.read response.body).mapError BridgeError.deserialization = .ok value := by
    rw [reads]
    rfl
  rw [goes response same good]
  show client.perform (Procedure.bind
    (.done ((codec.read response.body).mapError BridgeError.deserialization))
    (ExceptT.bindCont next)) = client.perform (next value).run
  rw [read]
  rfl

end TokenRelay.Client
