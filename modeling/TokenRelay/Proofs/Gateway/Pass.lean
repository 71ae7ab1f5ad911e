import TokenRelay.Gateway.Run
import TokenRelay.Connector.Client
import TokenRelay.Proofs.Connector.Procedure

/-!
# Passes over a batch

A pass looks up the subscription of each event, in order, and joins what the transformers
make of the events.  What it does can be seen: the calls it makes and what they are answered
with, single attempts included, and the names it finds known whenever it looks at what is
kept, whoever left them there.  `ComesTo` relates a pass or a part of one to these deeds and
to what it ends with.

A pass is described event by event: `Passes` is one in which no lookup failed, and `Fails`
one that ended at the first lookup that did.  The pass that a gateway begins ends well
exactly as `Passes` says, and ends badly exactly as `Fails` says; so notifications never come
from a pass in which a lookup failed, and the deeds tell what its lookups found.
-/

namespace TokenRelay

/-- What a gateway's run over a feed is made with. -/
structure Gateway (μ : Type) where
  client : Client
  routes : Routes μ
  /-- The delay after a pass that failed. -/
  retryDelay : Nat

namespace Gateway

variable {μ α β : Type}

/-- The calls that were made, single attempts included, and their outcomes. -/
abbrev Calls := List (Request × Outcome)

/-- A part of a pass. -/
abbrev Part (μ α : Type) := Procedure Outcome (GatewayMemory μ) α

/-- A pass over a batch, as far as it is still to be made. -/
abbrev Pass (μ : Type) := Part μ (Except BridgeError (List Notification))

/-- A pass over a batch from its beginning. -/
def begin (gateway : Gateway μ) (batch : Batch) : Pass μ :=
  gateway.client.perform (gateway.routes.process batch).run

/-- The lookup of an event's subscription. -/
def lookup (gateway : Gateway μ) (event : ChainEvent) :
    Part μ (Except BridgeError (Option String)) :=
  gateway.client.perform
    (GatewayMemory.withNames (KnownNames.resolve event.subscription)).run

/-- What a transformer makes of an event. -/
def transformed (gateway : Gateway μ) (transformer : Transformer μ) (name : String)
    (event : ChainEvent) : Part μ (List Notification) :=
  gateway.client.perform
    ((transformer.transform name event).within (·.kept)
      fun kept memory => { memory with kept := kept })

/-! ## What a pass does -/

/-- What a pass does that can be seen. -/
inductive Deed where
  | asked (request : Request) (outcome : Outcome)
  /-- It looked at what is kept, and these names were known. -/
  | recalled (names : KnownNames)

/-- A step of a part of a pass; what it finds kept is whatever others have left there. -/
inductive Proceeds : Part μ α → List Deed → Part μ α → Prop where
  | call (request : Request) (next : Outcome → Part μ α) (outcome : Outcome) :
      Proceeds (.call request next) [.asked request outcome] (next outcome)
  | pause (duration : Nat) (rest : Part μ α) : Proceeds (.pause duration rest) [] rest
  | «recall» (next : GatewayMemory μ → Part μ α) (memory : GatewayMemory μ) :
      Proceeds (.recall next) [.recalled memory.names] (next memory)
  | remember (change : GatewayMemory μ → GatewayMemory μ) (rest : Part μ α) :
      Proceeds (.remember change rest) [] rest

/-- What a part of a pass may end with, and what it does before. -/
inductive ComesTo : Part μ α → List Deed → α → Prop where
  | done (value : α) : ComesTo (.done value) [] value
  | step {part next : Part μ α} {deeds later : List Deed} {value : α}
      (proceeds : Proceeds part deeds next) (comesTo : ComesTo next later value) :
      ComesTo part (deeds ++ later) value

@[simp]
theorem comesTo_done_iff (value result : α) (deeds : List Deed) :
    ComesTo (.done value : Part μ α) deeds result ↔ deeds = [] ∧ result = value := by
  constructor
  · intro comesTo
    cases comesTo with
    | done => exact ⟨rfl, rfl⟩
    | step proceeds _ => cases proceeds
  · rintro ⟨rfl, rfl⟩
    exact .done result

theorem Proceeds.bind {part next : Part μ α} {deeds : List Deed}
    (proceeds : Proceeds part deeds next) (follow : α → Part μ β) :
    Proceeds (part.bind follow) deeds (next.bind follow) := by
  cases proceeds with
  | call request next outcome => exact .call request _ outcome
  | pause duration rest => exact .pause duration _
  | «recall» next memory => exact .recall _ memory
  | remember change rest => exact .remember change _

/-- A step of a composed part is one of its first part, as long as that goes on. -/
theorem Proceeds.of_bind {part : Part μ α} {follow : α → Part μ β} {deeds : List Deed}
    {after : Part μ β} (proceeds : Proceeds (part.bind follow) deeds after)
    (goesOn : ∀ value, part ≠ .done value) :
    ∃ next, Proceeds part deeds next ∧ after = next.bind follow := by
  cases part with
  | done value => exact absurd rfl (goesOn value)
  | call request next =>
      cases proceeds with
      | call _ _ outcome => exact ⟨_, .call request next outcome, rfl⟩
  | pause duration rest =>
      cases proceeds with
      | pause => exact ⟨_, .pause duration rest, rfl⟩
  | «recall» next =>
      cases proceeds with
      | «recall» _ memory => exact ⟨_, .recall next memory, rfl⟩
  | remember change rest =>
      cases proceeds with
      | remember => exact ⟨_, .remember change rest, rfl⟩

/-- A composed part goes through its first part, and on with its value. -/
theorem comesTo_bind_iff (part : Part μ α) (follow : α → Part μ β) (deeds : List Deed)
    (result : β) :
    ComesTo (part.bind follow) deeds result ↔
      ∃ value first later, ComesTo part first value ∧
        ComesTo (follow value) later result ∧ deeds = first ++ later := by
  constructor
  · intro comesTo
    generalize composed : part.bind follow = whole at comesTo
    induction comesTo generalizing part with
    | done value =>
        cases part with
        | done first =>
            refine ⟨first, [], [], .done first, ?_, rfl⟩
            rw [show follow first = .done value from composed]
            exact .done value
        | _ => cases composed
    | @step whole after deeds later value proceeds comesTo induction =>
        subst composed
        by_cases ended : ∃ value, part = .done value
        · obtain ⟨first, rfl⟩ := ended
          exact ⟨first, [], _, .done first, .step proceeds comesTo, rfl⟩
        · obtain ⟨next, own, rfl⟩ := proceeds.of_bind fun value equal => ended ⟨value, equal⟩
          obtain ⟨middle, first, rest, starts, follows, rfl⟩ := induction next rfl
          exact ⟨middle, _, rest, .step own starts, follows, (List.append_assoc _ _ _).symm⟩
  · rintro ⟨value, first, later, starts, follows, rfl⟩
    induction starts with
    | done value => exact follows
    | step proceeds _ induction =>
        rw [List.append_assoc]
        exact .step (proceeds.bind follow) (induction follows)

/-- A part whose value is only made into another ends with what is made of it. -/
theorem comesTo_bind_done_iff (part : Part μ α) (make : α → β) (deeds : List Deed)
    (result : β) :
    ComesTo (part.bind fun value => .done (make value)) deeds result ↔
      ∃ value, ComesTo part deeds value ∧ result = make value := by
  rw [comesTo_bind_iff]
  constructor
  · rintro ⟨value, first, later, comes, follows, rfl⟩
    obtain ⟨rfl, rfl⟩ := (comesTo_done_iff _ _ _).1 follows
    rw [List.append_nil]
    exact ⟨value, comes, rfl⟩
  · rintro ⟨value, comes, rfl⟩
    exact ⟨value, deeds, [], comes, .done _, (List.append_nil _).symm⟩

/-- An attempt whose outcome is judged final is the last one of its call. -/
theorem proceeds_attemptFrom {client : Client} {request : Request} {attempt : Nat}
    {outcome : Outcome} {answer : Answer}
    (judged : client.judge request attempt outcome = .final answer) :
    Proceeds (client.attemptFrom request attempt : Part μ Answer)
      [.asked request outcome] (.done answer) := by
  rw [Client.attemptFrom]
  convert Proceeds.call request _ outcome using 1
  split
  · rename_i found
    rw [judged] at found
    cases found
    rfl
  · rename_i found
    rw [judged] at found
    cases found

/-! ## Passes -/

/-- The notifications that an event may give, once its subscription was looked up. -/
inductive Yields (gateway : Gateway μ) (event : ChainEvent) :
    List Deed → List Notification → Prop where
  | unknown {deeds : List Deed}
      (found : ComesTo (gateway.lookup event) deeds (.ok none)) :
      Yields gateway event deeds []
  | unowned {deeds : List Deed} {name : String}
      (found : ComesTo (gateway.lookup event) deeds (.ok (some name)))
      (owner : gateway.routes.owner name = none) :
      Yields gateway event deeds []
  | owned {deeds later : List Deed} {name : String} {transformer : Transformer μ}
      {notifications : List Notification}
      (found : ComesTo (gateway.lookup event) deeds (.ok (some name)))
      (owner : gateway.routes.owner name = some transformer)
      (made : ComesTo (gateway.transformed transformer name event) later notifications) :
      Yields gateway event (deeds ++ later) notifications

/-- The notifications of a pass in which no lookup failed: those of each event in order. -/
inductive Passes (gateway : Gateway μ) : Batch → List Deed → List Notification → Prop where
  | nil : Passes gateway [] [] []
  | cons {event : ChainEvent} {rest : Batch} {deeds later : List Deed}
      {first others : List Notification}
      (yields : Yields gateway event deeds first)
      (passes : Passes gateway rest later others) :
      Passes gateway (event :: rest) (deeds ++ later) (first ++ others)

/-- A pass that ended with the first lookup that failed. -/
inductive Fails (gateway : Gateway μ) : Batch → List Deed → BridgeError → Prop where
  | here {event : ChainEvent} {rest : Batch} {deeds : List Deed} {error : BridgeError}
      (lost : ComesTo (gateway.lookup event) deeds (.error error)) :
      Fails gateway (event :: rest) deeds error
  | later {event : ChainEvent} {rest : Batch} {deeds later : List Deed}
      {first : List Notification} {error : BridgeError}
      (yields : Yields gateway event deeds first)
      (fails : Fails gateway rest later error) :
      Fails gateway (event :: rest) (deeds ++ later) error

/-! ## A pass event by event -/

theorem perform_bind {σ α β : Type} (client : Client) (procedure : Procedure Answer σ α)
    (follow : α → Procedure Answer σ β) :
    client.perform (procedure.bind follow) =
      (client.perform procedure).bind fun value => client.perform (follow value) :=
  Procedure.answeredBy_bind client.send procedure follow

/-- What remains of the pass over an event once its name was looked up. -/
def afterLookup (gateway : Gateway μ) (event : ChainEvent) :
    Except BridgeError (Option String) → Pass μ
  | .error error => .done (.error error)
  | .ok none => .done (.ok [])
  | .ok (some name) =>
    match gateway.routes.owner name with
    | none => .done (.ok [])
    | some transformer =>
      (gateway.transformed transformer name event).bind fun notifications =>
        .done (.ok notifications)

theorem perform_processEvent (gateway : Gateway μ) (event : ChainEvent) :
    gateway.client.perform (gateway.routes.processEvent event).run =
      (gateway.lookup event).bind (gateway.afterLookup event) := by
  unfold Routes.processEvent lookup
  refine (perform_bind _ _ _).trans ?_
  congr 1
  funext found
  cases found with
  | error error => rfl
  | ok name =>
      cases name with
      | none => rfl
      | some name =>
          simp only [afterLookup, ExceptT.bindCont]
          cases gateway.routes.owner name with
          | none => rfl
          | some transformer => exact perform_bind _ _ _

theorem begin_nil (gateway : Gateway μ) : gateway.begin [] = .done (.ok []) :=
  rfl

theorem begin_cons (gateway : Gateway μ) (event : ChainEvent) (rest : Batch) :
    gateway.begin (event :: rest) =
      ((gateway.lookup event).bind (gateway.afterLookup event)).bind fun
        | .error error => .done (.error error)
        | .ok first => (gateway.begin rest).bind fun others =>
          .done (others.map (first ++ ·)) := by
  rw [← perform_processEvent]
  refine (perform_bind _ _ _).trans ?_
  congr 1
  funext first
  cases first with
  | error error => rfl
  | ok first =>
      refine (perform_bind _ _ _).trans ?_
      congr 1
      funext others
      cases others <;> rfl

theorem comesTo_afterLookup_ok_iff (gateway : Gateway μ) (event : ChainEvent)
    (deeds : List Deed) (notifications : List Notification) :
    ComesTo ((gateway.lookup event).bind (gateway.afterLookup event)) deeds
        (.ok notifications) ↔ Yields gateway event deeds notifications := by
  rw [comesTo_bind_iff]
  constructor
  · rintro ⟨found, first, later, comes, follows, rfl⟩
    rcases found with error | found
    · simp [afterLookup] at follows
    rcases found with - | name
    · obtain ⟨rfl, rfl⟩ := by simpa [afterLookup] using follows
      rw [List.append_nil]
      exact .unknown comes
    cases owner : gateway.routes.owner name with
    | none =>
        obtain ⟨rfl, rfl⟩ := by simpa [afterLookup, owner] using follows
        rw [List.append_nil]
        exact .unowned comes owner
    | some transformer =>
        obtain ⟨made, making, equal⟩ := by
          simpa only [afterLookup, owner, comesTo_bind_done_iff] using follows
        obtain rfl := Except.ok.inj equal
        exact .owned comes owner making
  · intro yields
    cases yields with
    | unknown found =>
        exact ⟨_, deeds, [], found, .done _, (List.append_nil _).symm⟩
    | unowned found owner =>
        refine ⟨_, deeds, [], found, ?_, (List.append_nil _).symm⟩
        simp [afterLookup, owner]
    | owned found owner made =>
        refine ⟨_, _, _, found, ?_, rfl⟩
        simp only [afterLookup, owner, comesTo_bind_done_iff]
        exact ⟨_, made, rfl⟩

theorem comesTo_afterLookup_error_iff (gateway : Gateway μ) (event : ChainEvent)
    (deeds : List Deed) (error : BridgeError) :
    ComesTo ((gateway.lookup event).bind (gateway.afterLookup event)) deeds (.error error) ↔
      ComesTo (gateway.lookup event) deeds (.error error) := by
  rw [comesTo_bind_iff]
  constructor
  · rintro ⟨found, first, later, comes, follows, rfl⟩
    rcases found with error' | found
    · obtain ⟨rfl, rfl⟩ := by simpa [afterLookup] using follows
      rwa [List.append_nil]
    rcases found with - | name
    · simp [afterLookup] at follows
    cases owner : gateway.routes.owner name <;>
      simp [afterLookup, owner, comesTo_bind_done_iff] at follows
  · intro lost
    exact ⟨_, deeds, [], lost, .done _, (List.append_nil _).symm⟩

/-- A pass ends with the lookup of its first event, or that event is done and it goes on. -/
theorem comesTo_begin_cons_iff (gateway : Gateway μ) (event : ChainEvent) (rest : Batch)
    (deeds : List Deed) (result : Except BridgeError (List Notification)) :
    ComesTo (gateway.begin (event :: rest)) deeds result ↔
      (∃ error, ComesTo (gateway.lookup event) deeds (.error error) ∧
        result = .error error) ∨
      ∃ first others early later, Yields gateway event early first ∧
        ComesTo (gateway.begin rest) later others ∧ deeds = early ++ later ∧
        result = others.map (first ++ ·) := by
  rw [begin_cons, comesTo_bind_iff]
  constructor
  · rintro ⟨found, early, later, comes, follows, rfl⟩
    cases found with
    | error error =>
        obtain ⟨rfl, rfl⟩ := (comesTo_done_iff _ _ _).1 follows
        rw [List.append_nil]
        exact .inl ⟨error, (comesTo_afterLookup_error_iff _ _ _ _).1 comes, rfl⟩
    | ok first =>
        obtain ⟨others, continues, rfl⟩ := (comesTo_bind_done_iff _ _ _ _).1 follows
        exact .inr ⟨first, others, early, later,
          (comesTo_afterLookup_ok_iff _ _ _ _).1 comes, continues, rfl, rfl⟩
  · rintro (⟨error, lost, rfl⟩ |
      ⟨first, others, early, later, yields, continues, rfl, rfl⟩)
    · exact ⟨_, deeds, [], (comesTo_afterLookup_error_iff _ _ _ _).2 lost, .done _,
        (List.append_nil _).symm⟩
    · exact ⟨_, early, later, (comesTo_afterLookup_ok_iff _ _ _ _).2 yields,
        (comesTo_bind_done_iff _ _ _ _).2 ⟨others, continues, rfl⟩, rfl⟩

/-- A pass that a gateway begins ends well exactly as one in which no lookup failed. -/
theorem comesTo_begin_ok_iff (gateway : Gateway μ) (batch : Batch) (deeds : List Deed)
    (notifications : List Notification) :
    ComesTo (gateway.begin batch) deeds (.ok notifications) ↔
      Passes gateway batch deeds notifications := by
  induction batch generalizing deeds notifications with
  | nil =>
      rw [begin_nil, comesTo_done_iff]
      constructor
      · rintro ⟨rfl, equal⟩
        obtain rfl := Except.ok.inj equal
        exact .nil
      · intro passes
        cases passes
        exact ⟨rfl, rfl⟩
  | cons event rest induction =>
      rw [comesTo_begin_cons_iff]
      constructor
      · rintro (⟨error, -, equal⟩ |
          ⟨first, others, early, later, yields, continues, rfl, equal⟩)
        · cases equal
        · cases others with
          | error error => cases equal
          | ok others =>
              obtain rfl := Except.ok.inj equal
              exact .cons yields ((induction _ _).1 continues)
      · intro passes
        cases passes with
        | cons yields passes =>
            exact .inr ⟨_, .ok _, _, _, yields, (induction _ _).2 passes, rfl, rfl⟩

/-- A pass that a gateway begins ends badly exactly at the first lookup that fails. -/
theorem comesTo_begin_error_iff (gateway : Gateway μ) (batch : Batch) (deeds : List Deed)
    (error : BridgeError) :
    ComesTo (gateway.begin batch) deeds (.error error) ↔ Fails gateway batch deeds error := by
  induction batch generalizing deeds with
  | nil =>
      rw [begin_nil, comesTo_done_iff]
      constructor
      · rintro ⟨_, equal⟩
        cases equal
      · intro fails
        cases fails
  | cons event rest induction =>
      rw [comesTo_begin_cons_iff]
      constructor
      · rintro (⟨failure, lost, equal⟩ |
          ⟨first, others, early, later, yields, continues, rfl, equal⟩)
        · obtain rfl := Except.error.inj equal
          exact .here lost
        · cases others with
          | error failure =>
              obtain rfl := Except.error.inj equal
              exact .later yields ((induction _).1 continues)
          | ok others => cases equal
      · intro fails
        cases fails with
        | here lost => exact .inl ⟨_, lost, rfl⟩
        | later yields fails =>
            exact .inr ⟨_, .error _, _, _, yields, (induction _).2 fails, rfl, rfl⟩

end Gateway

end TokenRelay
