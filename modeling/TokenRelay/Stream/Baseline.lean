import TokenRelay.Config
import TokenRelay.Stream.Management
import TokenRelay.Subscription.Name
import TokenRelay.Token.ChainData

/-!
# The baseline of a topic

A topic starts from a stream of its name with one base subscription to the creation of
pools.  Reconciliation looks at what the connector holds: a stream whose subscriptions
are not sound is deleted and the baseline made anew, which lets the connector deliver
everything again.  The kinds of event that the names of the subscriptions stand for, as an
ordered list without doubles, decide: the base alone is sound, and so is any list with all
three events of a pool.
-/

namespace TokenRelay

namespace Stream

variable {σ : Type}

/-- The wish for a topic's base subscription. -/
def baseWish (topic instancePath stream : String) : Wish :=
  { instancePath := instancePath
    stream := stream
    event := PoolEvent.create.name
    name := SubscriptionName.pack topic SubscriptionName.basePool none
    fromBlock := "0" }

/-- Bring the stream up to date and see that it has its base subscription. -/
def init (topic instancePath : String) : Task σ EventStream := do
  let stream ← createOrUpdate topic
  let _ ← getOrCreateSubscription (baseWish topic instancePath stream.id)
  return stream

end Stream

namespace Reconcile

/-- Put a name into an ordered list without doubles. -/
def insertName (name : String) : List String → List String
  | [] => [name]
  | other :: rest =>
    if name = other then other :: rest
    else if name < other then name :: other :: rest
    else other :: insertName name rest

/-- The kinds of event that the subscriptions of a topic stand for. -/
def eventKinds (topic : String) (subscriptions : List Subscription) : List String :=
  (subscriptions.filterMap fun subscription =>
    (SubscriptionName.unpack topic subscription.name).eventKind).foldl
    (fun found kind => insertName kind found) []

/-- Whether the kinds are those of no sound stream. -/
def isStale (kinds : List String) : Bool :=
  if kinds = [SubscriptionName.basePool] then
    false
  else
    PoolEvent.all.any fun event => !kinds.contains event.name

variable {σ : Type}

/-- What reconciliation found or did. -/
inductive Result where
  | noStream
  | noSubscriptions
  | baseOnly
  | consistent
  | recreated
  deriving DecidableEq, Repr

/-- The name under which a result is shown. -/
def Result.name : Result → String
  | .noStream => "NoStream"
  | .noSubscriptions => "NoSubscriptions"
  | .baseOnly => "BaseOnly"
  | .consistent => "Consistent"
  | .recreated => "Recreated"

/-- What follows from the subscriptions of the topic's stream; none asks for a new baseline. -/
def assess (topic : String) (subscriptions : List Subscription) : Option Result :=
  if subscriptions.isEmpty then
    some .noSubscriptions
  else
    let kinds := eventKinds topic subscriptions
    if isStale kinds then none
    else if kinds.length = 1 then some .baseOnly
    else some .consistent

/-- Look at the stream and its subscriptions, and make them anew if they are stale. -/
def run (topic instancePath : String) : Task σ Result := do
  match ← Stream.findStream topic with
  | none => return .noStream
  | some stream =>
    let subscriptions ← Stream.getSubscriptions
    let own := subscriptions.filter fun subscription => subscription.stream = stream.id
    match assess topic own with
    | some result => return result
    | none =>
      Stream.deleteStream stream.id
      let _ ← Stream.init topic instancePath
      return .recreated

/-- Reconcile a topic at startup, where a failure does not matter. -/
def runAtStartup (topic instancePath : String) : Task σ (Option Result) :=
  ExceptT.mk do
    match ← (run topic instancePath : Task σ Result).run with
    | .ok result => return .ok (some result)
    | .error _ => return .ok none

end Reconcile

end TokenRelay
