import TokenRelay.Stream.Management

/-!
# Names of subscriptions by id

An event carries the id of its subscription, and the name is asked of the connector.  A
name that was found is kept; absence and failure are not, so that a subscription made
later is found later.
-/

namespace TokenRelay

/-- The names that are known, the latest first. -/
abbrev KnownNames := List (String × String)

namespace KnownNames

/-- The name that is known for a subscription. -/
def find? (names : KnownNames) (id : String) : Option String :=
  names.lookup id

/-- Remember a name that was looked up. -/
def keep (id name : String) (names : KnownNames) : KnownNames :=
  (id, name) :: names

/-- Ask the connector for the name of an id, and keep what was found. -/
def fetch (id : String) : Task KnownNames (Option String) := do
  match ← Stream.getSubscription id with
  | none => return none
  | some subscription =>
    ExceptT.mk (.remember (keep id subscription.name)
      (.done (.ok (some subscription.name))))

/-- The name of an id: the known one, or else what the connector says. -/
def resolve (id : String) : Task KnownNames (Option String) :=
  ExceptT.mk (.recall fun names =>
    match names.find? id with
    | some name => .done (.ok (some name))
    | none => (fetch id).run)

end KnownNames

end TokenRelay
