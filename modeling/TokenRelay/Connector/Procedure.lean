import TokenRelay.Connector.Message

/-!
# Procedures against the connector

A procedure ends with a value or goes on after one step: a call whose reply it is given,
a pause, or a look at the memory that it shares with other procedures.  It says what is
done and leaves open who does it: a program over the network, a simulation under a
virtual clock, or a proof over all possible replies.

`ρ` is what a call is answered with.  A procedure over answers (`Answer`) calls the
connector without regard to single attempts; `Procedure.answeredBy` turns it into one
over outcomes of single round trips.
-/

namespace TokenRelay

/-- A procedure with replies `ρ`, memory `σ` and result `α`. -/
inductive Procedure (ρ σ α : Type) where
  | done (value : α)
  | call (request : Request) (next : ρ → Procedure ρ σ α)
  | pause (duration : Nat) (rest : Procedure ρ σ α)
  | recall (next : σ → Procedure ρ σ α)
  | remember (change : σ → σ) (rest : Procedure ρ σ α)

namespace Procedure

variable {ρ ρ' σ τ α β : Type}

/-- Go on with the value of a procedure. -/
def bind : Procedure ρ σ α → (α → Procedure ρ σ β) → Procedure ρ σ β
  | .done value, next => next value
  | .call request follow, next => .call request fun reply => (follow reply).bind next
  | .pause duration rest, next => .pause duration (rest.bind next)
  | .recall follow, next => .recall fun memory => (follow memory).bind next
  | .remember change rest, next => .remember change (rest.bind next)

instance : Monad (Procedure ρ σ) where
  pure := .done
  bind := bind

/-- Let another procedure give the reply of each call. -/
def answeredBy (send : Request → Procedure ρ' σ ρ) :
    Procedure ρ σ α → Procedure ρ' σ α
  | .done value => .done value
  | .call request next => (send request).bind fun reply => (next reply).answeredBy send
  | .pause duration rest => .pause duration (rest.answeredBy send)
  | .recall next => .recall fun memory => (next memory).answeredBy send
  | .remember change rest => .remember change (rest.answeredBy send)

/-- Let a procedure use a part of a larger memory. -/
def within (get : τ → σ) (set : σ → τ → τ) : Procedure ρ σ α → Procedure ρ τ α
  | .done value => .done value
  | .call request next => .call request fun reply => (next reply).within get set
  | .pause duration rest => .pause duration (rest.within get set)
  | .recall next => .recall fun memory => (next (get memory)).within get set
  | .remember change rest =>
    .remember (fun memory => set (change (get memory)) memory) (rest.within get set)

end Procedure

/-- A procedure over answers that may fail. -/
abbrev Task (σ α : Type) := ExceptT BridgeError (Procedure Answer σ) α

namespace Task

variable {σ α : Type}

/-- Send a request and go on with its response. -/
def send (request : Request) : Task σ Response :=
  ExceptT.mk (.call request .done)

/-- Read the body of a response, or fail with what is wrong with it. -/
def read (codec : Codec α) (response : Response) : Task σ α :=
  ExceptT.mk (.done ((codec.read response.body).mapError .deserialization))

/-- Send a request and read its response. -/
def sendFor (codec : Codec α) (request : Request) : Task σ α := do
  read codec (← send request)

/-- Send a request for something that may not exist. -/
def sendForOptional (codec : Codec α) (request : Request) : Task σ (Option α) :=
  ExceptT.mk do
    match ← (sendFor codec request : Task σ α).run with
    | .ok value => return .ok (some value)
    | .error (.notFound _) => return .ok none
    | .error error => return .error error

end Task

end TokenRelay
