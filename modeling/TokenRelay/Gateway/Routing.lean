import TokenRelay.Listener

/-!
# Which transformer an event goes to

Transformers are registered for topics, at most one for each.  A subscription's name
belongs to a topic when it begins with the topic and the delimiter; of several such topics
the longest counts.
-/

namespace TokenRelay

/-- Who turns the events of a topic into notifications, with a memory `μ`. -/
structure Transformer (μ : Type) where
  topic : String
  /-- The notifications of an event that arrived under a subscription's name. -/
  transform : String → ChainEvent → Procedure Answer μ (List Notification)

namespace Transformer

variable {μ : Type}

/-- The transformer of a listener, whose template is a part of the memory. -/
def ofListener (listener : Listener) (get : μ → Listener.Memory)
    (set : Listener.Memory → μ → μ) : Transformer μ where
  topic := listener.topic
  transform := fun subscription event =>
    (listener.transform subscription event).within get set

/-- Whether a subscription's name belongs to the transformer's topic. -/
def owns (transformer : Transformer μ) (name : String) : Bool :=
  (SubscriptionName.afterTopic? transformer.topic.toList name.toList).isSome

end Transformer

/-- The registered transformers, no two of one topic. -/
abbrev Routes (μ : Type) := List (Transformer μ)

namespace Routes

variable {μ : Type}

/-- Register a transformer in the place of any other of its topic. -/
def register (routes : Routes μ) (transformer : Transformer μ) : Routes μ :=
  transformer :: routes.filter fun other => other.topic ≠ transformer.topic

/-- Of two transformers the one with the longer topic. -/
def prefer (best : Option (Transformer μ)) (other : Transformer μ) :
    Option (Transformer μ) :=
  match best with
  | none => some other
  | some found => if found.topic.length < other.topic.length then some other else best

/-- The transformer of the longest topic that a subscription's name belongs to. -/
def owner (routes : Routes μ) (name : String) : Option (Transformer μ) :=
  (routes.filter (·.owns name)).foldl prefer none

end Routes

end TokenRelay
