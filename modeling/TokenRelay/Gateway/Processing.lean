import TokenRelay.Gateway.Resolver
import TokenRelay.Gateway.Routing

/-!
# From batches to notifications

A batch is processed event by event, in order.  An event whose subscription is unknown or
belongs to no topic gives nothing.  Only a lookup that fails makes the whole batch fail,
and then no later event is looked at.
-/

namespace TokenRelay

/-- What processing keeps: the known names, and what the transformers keep. -/
structure GatewayMemory (μ : Type) where
  names : KnownNames
  kept : μ

namespace GatewayMemory

variable {μ α : Type}

/-- A lookup of names within the memory of the gateway. -/
def withNames (task : Task KnownNames α) : Task (GatewayMemory μ) α :=
  ExceptT.mk (task.run.within (·.names) fun names memory => { memory with names := names })

/-- Use what the transformers keep. -/
def withKept (procedure : Procedure Answer μ α) : Task (GatewayMemory μ) α :=
  ExceptT.mk do
    let value ← procedure.within (·.kept) fun kept memory => { memory with kept := kept }
    return .ok value

end GatewayMemory

namespace Routes

variable {μ : Type}

/-- The notifications of one event: none without a name or without an owner. -/
def processEvent (routes : Routes μ) (event : ChainEvent) :
    Task (GatewayMemory μ) (List Notification) := do
  match ← GatewayMemory.withNames (KnownNames.resolve event.subscription) with
  | none => return []
  | some name =>
    match routes.owner name with
    | none => return []
    | some transformer => GatewayMemory.withKept (transformer.transform name event)

/-- The notifications of a batch, event after event. -/
def process (routes : Routes μ) : Batch → Task (GatewayMemory μ) (List Notification)
  | [] => return []
  | event :: rest => do
    let first ← routes.processEvent event
    let others ← routes.process rest
    return first ++ others

end Routes

end TokenRelay
