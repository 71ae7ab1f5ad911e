import TokenRelay.Proofs.Gateway.Lookups
import TokenRelay.Proofs.Gateway.Pass

/-!
# Where batches end

A pass needs somebody who tells the names of subscriptions, and it does not matter who:
`Routes.processBy` is a pass with any resolver, and the gateway's own pass is the one with the
names that the connector tells.  The resolver's memory and the transformers' are apart, so what
a lookup does to the one it cannot do to the other.

`Treats` tells event by event what a pass has done where no lookup failed.  A pass ends well if
and only if it treats all its events, and badly if and only if it treats some of them and the
lookup of the next one fails.  A pass over several batches put together is the passes over them
one after the other, as a procedure and therefore whatever it is answered.
-/

namespace TokenRelay

variable {ν μ σ τ α β : Type}

/-- Let a task use a part of a larger memory. -/
def Task.within (get : τ → σ) (set : σ → τ → τ) (task : Task σ α) : Task τ α :=
  ExceptT.mk (task.run.within get set)

theorem Task.within_bind (get : τ → σ) (set : σ → τ → τ) (task : Task σ α) (next : α → Task σ β) :
    (task >>= next).within get set =
      task.within get set >>= fun value => (next value).within get set := by
  refine (Procedure.within_bind get set task.run _).trans ?_
  refine congrArg (Procedure.bind (task.run.within get set)) ?_
  funext found
  cases found <;> rfl

namespace Routes

/-! ## Passes with any resolver -/

/-- Use what the resolver keeps. -/
def asking (task : Task ν α) : Task (ν × μ) α :=
  task.within Prod.fst fun names memory => (names, memory.2)

/-- Use what the transformers keep. -/
def making (procedure : Procedure Answer μ α) : Task (ν × μ) α :=
  ExceptT.mk do
    let value ← procedure.within Prod.snd fun kept memory => (memory.1, kept)
    return .ok value

/-- What is made of an event under the name that was found for its subscription, if any was. -/
def made (routes : Routes μ) (event : ChainEvent) :
    Option String → Procedure Answer μ (List Notification)
  | none => .done []
  | some name =>
    match routes.owner name with
    | none => .done []
    | some transformer => transformer.transform name event

def processEventBy (routes : Routes μ) (resolver : Resolver ν) (event : ChainEvent) :
    Task (ν × μ) (List Notification) := do
  let found ← asking (resolver event.subscription)
  making (routes.made event found)

/-- A pass over a batch. -/
def processBy (routes : Routes μ) (resolver : Resolver ν) : Batch → Task (ν × μ) (List Notification)
  | [] => return []
  | event :: rest => do
    let first ← routes.processEventBy resolver event
    let others ← routes.processBy resolver rest
    return first ++ others

/-- A pass over each of several batches, up to the first that fails. -/
def processEach (routes : Routes μ) (resolver : Resolver ν) :
    List Batch → Task (ν × μ) (List Notification)
  | [] => return []
  | batch :: rest => do
    let first ← routes.processBy resolver batch
    let others ← routes.processEach resolver rest
    return first ++ others

/-- What is made of events, in order, whose subscriptions have given names. -/
def madeOfEach (routes : Routes μ) (name : String → Option String) :
    Batch → Procedure Answer μ (List Notification)
  | [] => .done []
  | event :: rest => do
    let first ← routes.made event (name event.subscription)
    let others ← routes.madeOfEach name rest
    return first ++ others

theorem processBy_append (routes : Routes μ) (resolver : Resolver ν) (batch rest : Batch) :
    routes.processBy resolver (batch ++ rest) = (do
      let first ← routes.processBy resolver batch
      let others ← routes.processBy resolver rest
      return first ++ others) := by
  induction batch with
  | nil =>
      rw [processBy, pure_bind]
      exact (bind_pure _).symm
  | cons event batch induction =>
      simp only [List.cons_append, processBy, induction, bind_assoc, pure_bind, List.append_assoc]

/-- A pass over batches put together is a pass over each of them. -/
theorem processBy_flatten (routes : Routes μ) (resolver : Resolver ν) (batches : List Batch) :
    routes.processBy resolver batches.flatten = routes.processEach resolver batches := by
  induction batches with
  | nil => rfl
  | cons batch rest induction =>
      rw [List.flatten_cons, processBy_append, induction]
      rfl

end Routes

/-! ## The gateway's passes -/

namespace GatewayMemory

/-- What a resolver and the transformers keep. -/
def parts (memory : GatewayMemory μ) : KnownNames × μ :=
  (memory.names, memory.kept)

def putParts (parts : KnownNames × μ) (_ : GatewayMemory μ) : GatewayMemory μ :=
  ⟨parts.1, parts.2⟩

theorem within_asking (task : Task KnownNames α) :
    (Routes.asking task).within parts putParts = (withNames task : Task (GatewayMemory μ) α) :=
  Procedure.within_within Prod.fst _ parts putParts task.run

theorem within_making (procedure : Procedure Answer μ α) :
    (Routes.making procedure).within parts putParts = withKept procedure := by
  refine (Procedure.within_bind parts putParts _ _).trans ?_
  rw [Procedure.within_within]
  rfl

end GatewayMemory

namespace Routes

open GatewayMemory (parts putParts within_asking within_making)

theorem processEvent_eq_within (routes : Routes μ) (event : ChainEvent) :
    routes.processEvent event =
      (routes.processEventBy KnownNames.resolve event).within parts putParts := by
  rw [processEventBy, Task.within_bind, within_asking, processEvent]
  congr 1
  funext found
  rw [within_making]
  cases found with
  | none => rfl
  | some name =>
      simp only [made]
      cases routes.owner name <;> rfl

/-- The gateway's pass is the one with the names that the connector tells. -/
theorem process_eq_within (routes : Routes μ) (batch : Batch) :
    routes.process batch = (routes.processBy KnownNames.resolve batch).within parts putParts := by
  induction batch with
  | nil => rfl
  | cons event rest induction =>
      rw [process, processBy, Task.within_bind, processEvent_eq_within]
      congr 1
      funext first
      rw [Task.within_bind, induction]
      rfl

end Routes

/-! ## Event by event -/

namespace Routes

/-- What a pass has done with an event whose lookup ended well. -/
structure Treatment where
  event : ChainEvent
  /-- The name that was found for the event's subscription, if any was. -/
  found : Option String
  /-- The calls of the lookup. -/
  asked : Gateway.Calls
  /-- The calls of the transform. -/
  used : Gateway.Calls
  heard : List Notification

/-- All calls of a treatment, the lookup of the name first. -/
def Treatment.calls (treatment : Treatment) : Gateway.Calls :=
  treatment.asked ++ treatment.used

/-- What is done with events one after the other, where every lookup ends well. -/
inductive Treats (client : Client) (routes : Routes μ) (resolver : Resolver ν) :
    ν × μ → List Treatment → ν × μ → Prop where
  | nil (memory : ν × μ) : Treats client routes resolver memory [] memory
  | cons {names found : ν} {kept left : μ} {treatment : Treatment} {rest : List Treatment}
      {after : ν × μ}
      (looksUp : LooksUp client resolver treatment.event.subscription names treatment.asked
        (.ok treatment.found) found)
      (makes : (client.perform (routes.made treatment.event treatment.found)).RunsAlone kept
        treatment.used treatment.heard left)
      (treats : Treats client routes resolver (found, left) rest after) :
      Treats client routes resolver (names, kept) (treatment :: rest) after

variable {client : Client} {routes : Routes μ} {resolver : Resolver ν} {memory after : ν × μ}
  {calls : Gateway.Calls}

theorem isPart_fst :
    Procedure.IsPart (Prod.fst : ν × μ → ν) fun names memory => (names, memory.2) :=
  ⟨fun _ _ => rfl, fun _ => rfl, fun _ _ _ => rfl⟩

theorem isPart_snd :
    Procedure.IsPart (Prod.snd : ν × μ → μ) fun kept memory => (memory.1, kept) :=
  ⟨fun _ _ => rfl, fun _ => rfl, fun _ _ _ => rfl⟩

/-- A lookup leaves alone what the transformers keep. -/
theorem runsAlone_asking_iff (task : Task ν α) (result : Except BridgeError α) :
    (client.perform (asking task : Task (ν × μ) α).run).RunsAlone memory calls result after ↔
      ∃ names, (client.perform task.run).RunsAlone memory.1 calls result names ∧
        after = (names, memory.2) := by
  have whole : client.perform (asking task : Task (ν × μ) α).run =
      (client.perform task.run).within Prod.fst fun names memory => (names, memory.2) :=
    client.perform_within _ _ _
  rw [whole, Procedure.runsAlone_within_iff isPart_fst]

/-- What is made of an event leaves alone what the resolver keeps, and it cannot fail. -/
theorem runsAlone_making_iff (procedure : Procedure Answer μ α) (result : Except BridgeError α) :
    (client.perform (making procedure : Task (ν × μ) α).run).RunsAlone memory calls result after ↔
      ∃ value kept, result = .ok value ∧
        (client.perform procedure).RunsAlone memory.2 calls value kept ∧
        after = (memory.1, kept) := by
  have whole : client.perform (making procedure : Task (ν × μ) α).run =
      ((client.perform procedure).within Prod.snd fun kept memory => (memory.1, kept)).bind
        fun value => .done (.ok value) := by
    refine (Gateway.perform_bind client _ _).trans ?_
    rw [client.perform_within]
    rfl
  rw [whole]
  constructor
  · intro runs
    obtain ⟨value, middle, first, later, starts, follows, rfl⟩ := runs.of_bind
    obtain ⟨rfl, rfl, rfl⟩ := follows.of_done
    obtain ⟨kept, own, rfl⟩ := (Procedure.runsAlone_within_iff isPart_snd).1 starts
    rw [List.append_nil]
    exact ⟨value, kept, rfl, own, rfl⟩
  · rintro ⟨value, kept, rfl, own, rfl⟩
    rw [← List.append_nil calls]
    exact ((Procedure.runsAlone_within_iff isPart_snd).2 ⟨kept, own, rfl⟩).bind (.done _ _)

theorem runsAlone_processEventBy_ok_iff (event : ChainEvent) (notifications : List Notification) :
    (client.perform (routes.processEventBy resolver event).run).RunsAlone memory calls
        (.ok notifications) after ↔
      ∃ found asked used, LooksUp client resolver event.subscription memory.1 asked (.ok found)
          after.1 ∧
        (client.perform (routes.made event found)).RunsAlone memory.2 used notifications after.2 ∧
        calls = asked ++ used := by
  rw [processEventBy, Client.runsAlone_bind_ok_iff]
  constructor
  · rintro ⟨found, middle, asked, used, asks, makes, rfl⟩
    obtain ⟨names, looksUp, rfl⟩ := (runsAlone_asking_iff _ _).1 asks
    obtain ⟨value, kept, same, own, rfl⟩ := (runsAlone_making_iff _ _).1 makes
    obtain rfl := Except.ok.inj same
    exact ⟨found, asked, used, looksUp, own, rfl⟩
  · rintro ⟨found, asked, used, looksUp, makes, rfl⟩
    exact ⟨found, (after.1, memory.2), asked, used,
      (runsAlone_asking_iff _ _).2 ⟨after.1, looksUp, rfl⟩,
      (runsAlone_making_iff _ _).2 ⟨notifications, after.2, rfl, makes, rfl⟩, rfl⟩

/-- An event makes a pass fail only by its lookup. -/
theorem runsAlone_processEventBy_error_iff (event : ChainEvent) (error : BridgeError) :
    (client.perform (routes.processEventBy resolver event).run).RunsAlone memory calls
        (.error error) after ↔
      ∃ names, LooksUp client resolver event.subscription memory.1 calls (.error error) names ∧
        after = (names, memory.2) := by
  rw [processEventBy, Client.runsAlone_bind_error_iff, runsAlone_asking_iff]
  constructor
  · rintro (fails | ⟨found, middle, asked, used, -, makes, -⟩)
    · exact fails
    · obtain ⟨value, kept, impossible, -⟩ := (runsAlone_making_iff _ _).1 makes
      cases impossible
  · exact .inl

theorem runsAlone_processBy_ok_iff (batch : Batch) (notifications : List Notification) :
    (client.perform (routes.processBy resolver batch).run).RunsAlone memory calls
        (.ok notifications) after ↔
      ∃ treated, Treats client routes resolver memory treated after ∧
        treated.map (·.event) = batch ∧ calls = treated.flatMap (·.calls) ∧
        notifications = treated.flatMap (·.heard) := by
  -- by induction on the batch, with the memory that each event leaves to the next one
  induction batch generalizing memory calls notifications with
  | nil =>
      constructor
      · intro runs
        obtain ⟨rfl, same, rfl⟩ := Procedure.RunsAlone.of_done runs
        obtain rfl := Except.ok.inj same
        exact ⟨[], .nil _, rfl, rfl, rfl⟩
      · rintro ⟨treated, treats, events, rfl, rfl⟩
        obtain rfl := List.map_eq_nil_iff.1 events
        cases treats
        exact .done _ _
  | cons event rest induction =>
      rw [processBy, Client.runsAlone_bind_ok_iff]
      constructor
      · rintro ⟨first, middle, calls, later, handles, goesOn, rfl⟩
        obtain ⟨found, asked, used, looksUp, makes, rfl⟩ :=
          (runsAlone_processEventBy_ok_iff _ _).1 handles
        obtain ⟨others, last, calls, none, runs, ends, rfl⟩ :=
          (Client.runsAlone_bind_ok_iff _ _ _).1 goesOn
        obtain ⟨rfl, same, rfl⟩ := Procedure.RunsAlone.of_done ends
        obtain rfl := Except.ok.inj same
        obtain ⟨treated, treats, rfl, rfl, rfl⟩ := (induction _).1 runs
        exact ⟨⟨event, found, asked, used, first⟩ :: treated, .cons looksUp makes treats, rfl,
          List.append_nil _ ▸ rfl, rfl⟩
      · rintro ⟨treated, treats, events, rfl, rfl⟩
        obtain ⟨treatment, treated, rfl, rfl, rfl⟩ := List.map_eq_cons_iff.1 events
        cases treats with
        | cons looksUp makes treats =>
            refine ⟨treatment.heard, _, treatment.calls, _,
              (runsAlone_processEventBy_ok_iff _ _).2 ⟨_, _, _, looksUp, makes, rfl⟩,
              (Client.runsAlone_bind_ok_iff _ _ _).2 ⟨_, after, _, [],
                (induction _).2 ⟨treated, treats, rfl, rfl, rfl⟩, .done _ _, rfl⟩, ?_⟩
            rw [List.append_nil, List.flatMap_cons]

theorem runsAlone_processBy_error_iff (batch : Batch) (error : BridgeError) :
    (client.perform (routes.processBy resolver batch).run).RunsAlone memory calls
        (.error error) after ↔
      ∃ treated event rest middle asked names, Treats client routes resolver memory treated middle ∧
        batch = treated.map (·.event) ++ event :: rest ∧
        LooksUp client resolver event.subscription middle.1 asked (.error error) names ∧
        calls = treated.flatMap (·.calls) ++ asked ∧ after = (names, middle.2) := by
  induction batch generalizing memory calls with
  | nil =>
      constructor
      · intro runs
        obtain ⟨-, impossible, -⟩ := Procedure.RunsAlone.of_done runs
        cases impossible
      · rintro ⟨treated, event, rest, middle, asked, names, -, impossible, -⟩
        exact absurd impossible.symm (List.append_ne_nil_of_right_ne_nil _ (List.cons_ne_nil _ _))
  | cons event rest induction =>
      rw [processBy, Client.runsAlone_bind_error_iff, runsAlone_processEventBy_error_iff]
      constructor
      · rintro (⟨names, lost, rfl⟩ | ⟨first, middle, calls, later, handles, goesOn, rfl⟩)
        · exact ⟨[], event, rest, memory, calls, names, .nil memory, rfl, lost, rfl, rfl⟩
        · obtain ⟨found, asked, used, looksUp, makes, rfl⟩ :=
            (runsAlone_processEventBy_ok_iff _ _).1 handles
          rcases (Client.runsAlone_bind_error_iff _ _ _).1 goesOn with
            fails | ⟨others, last, calls, none, -, ends, -⟩
          · obtain ⟨treated, next, others, last, lost, names, treats, rfl, looks, rfl, rfl⟩ :=
              induction.1 fails
            refine ⟨⟨event, found, asked, used, first⟩ :: treated, next, others, last, lost, names,
              .cons looksUp makes treats, rfl, looks, ?_, rfl⟩
            rw [List.flatMap_cons, Treatment.calls, List.append_assoc (asked ++ used)]
          · obtain ⟨-, impossible, -⟩ := Procedure.RunsAlone.of_done ends
            cases impossible
      · rintro ⟨treated, next, others, middle, asked, names, treats, whole, lost, rfl, rfl⟩
        cases treats with
        | nil =>
            obtain ⟨rfl, rfl⟩ := List.cons.inj whole
            exact .inl ⟨names, lost, rfl⟩
        | @cons _ _ _ _ treatment treated _ looksUp makes treats =>
            obtain ⟨rfl, rfl⟩ := List.cons.inj whole
            refine .inr ⟨treatment.heard, _, treatment.calls, _,
              (runsAlone_processEventBy_ok_iff _ _).2 ⟨_, _, _, looksUp, makes, rfl⟩,
              (Client.runsAlone_bind_error_iff _ _ _).2 (.inl (induction.2
                ⟨treated, next, others, middle, asked, names, treats, rfl, lost, rfl, rfl⟩)), ?_⟩
            rw [List.flatMap_cons, List.append_assoc]

/-- Where lookups give the names that are known, what is made depends on these names alone. -/
theorem runsAlone_madeOfEach {treated : List Treatment} {name : String → Option String}
    (treats : Treats client routes resolver memory treated after)
    (steady : ∀ treatment ∈ treated, treatment.found = name treatment.event.subscription) :
    (client.perform (routes.madeOfEach name (treated.map (·.event)))).RunsAlone memory.2
      (treated.flatMap (·.used)) (treated.flatMap (·.heard)) after.2 := by
  induction treats with
  | nil => exact .done _ _
  | @cons _ _ _ _ treatment rest _ _ makes _ induction =>
      obtain ⟨found, others⟩ := List.forall_mem_cons.1 steady
      rw [found] at makes
      have whole : client.perform (routes.madeOfEach name ((treatment :: rest).map (·.event))) =
          (client.perform (routes.made treatment.event (name treatment.event.subscription))).bind
            fun first => (client.perform (routes.madeOfEach name (rest.map (·.event)))).bind
              fun others => .done (first ++ others) := by
        refine (Gateway.perform_bind client _ _).trans ?_
        refine congrArg (Procedure.bind _) ?_
        funext first
        exact Gateway.perform_bind client _ _
      rw [whole, List.flatMap_cons, List.flatMap_cons]
      refine makes.bind ?_
      rw [← List.append_nil (rest.flatMap (·.used))]
      exact (induction others).bind (.done _ _)

/-! ## The main result -/

/--
Whoever tells the names, a pass over a batch ends well if and only if no lookup fails, and gives
what is made of its events, in order, under the names that were found.  It fails if and only if a
lookup does, and then nothing is called for or changed any more.  Where the lookups of an id all
give one name, what is heard, used and kept is that of the transforms alone.  A pass over several
batches put together is the passes over each of them; it ends whatever it is answered; and the
gateway's passes are those with the names that the connector tells.
-/
theorem passes_concatenate (client : Client) (routes : Routes μ) (resolver : Resolver ν) :
    let pass : Batch → Procedure Outcome (ν × μ) (Except BridgeError (List Notification)) :=
      fun batch => client.perform (routes.processBy resolver batch).run
    (∀ batch memory calls notifications after,
      (pass batch).RunsAlone memory calls (.ok notifications) after ↔
        ∃ treated, Treats client routes resolver memory treated after ∧
          treated.map (·.event) = batch ∧ calls = treated.flatMap (·.calls) ∧
          notifications = treated.flatMap (·.heard)) ∧
    (∀ batch memory calls error after,
      (pass batch).RunsAlone memory calls (.error error) after ↔
        ∃ treated event rest middle asked names,
          Treats client routes resolver memory treated middle ∧
          batch = treated.map (·.event) ++ event :: rest ∧
          LooksUp client resolver event.subscription middle.1 asked (.error error) names ∧
          calls = treated.flatMap (·.calls) ++ asked ∧ after = (names, middle.2)) ∧
    (∀ memory treated after name, Treats client routes resolver memory treated after →
      (∀ treatment ∈ treated, treatment.found = name treatment.event.subscription) →
        (client.perform (routes.madeOfEach name (treated.map (·.event)))).RunsAlone memory.2
          (treated.flatMap (·.used)) (treated.flatMap (·.heard)) after.2) ∧
    (∀ batches : List Batch,
      pass batches.flatten = client.perform (routes.processEach resolver batches).run) ∧
    (∀ (ε : Type) (answer : Request → ε → Outcome × ε) batch memory state,
      (pass batch).RunsAlone memory ((pass batch).calls answer memory state)
        ((pass batch).against answer memory state).1
        ((pass batch).against answer memory state).2.1) ∧
    ∀ retryDelay batch, (Gateway.mk client routes retryDelay).begin batch =
      (client.perform (routes.processBy KnownNames.resolve batch).run).within
        GatewayMemory.parts GatewayMemory.putParts := by
  intro pass
  refine ⟨?_, ?_, ?_, ?_, ?_, ?_⟩
  · intro batch memory calls notifications after
    exact runsAlone_processBy_ok_iff batch notifications
  · intro batch memory calls error after
    exact runsAlone_processBy_error_iff batch error
  · intro memory treated after name treats steady
    exact runsAlone_madeOfEach treats steady
  · intro batches
    simp only [pass, processBy_flatten]
  · intro ε answer batch memory state
    exact Procedure.runsAlone_calls answer (pass batch) memory state
  · intro retryDelay batch
    rw [Gateway.begin, process_eq_within]
    exact client.perform_within _ _ _

/-- An event of a subscription, of no kind that is known. -/
def strayEvent (subscription : String) : ChainEvent :=
  ⟨subscription, "", "", "", "", "", "", none, .null, none, none⟩

/-- The notification that stands for an event of a subscription. -/
def noticeOf (subscription : String) : Notification :=
  .receipt ⟨subscription, true, none⟩

/-- A transformer that counts what it makes. -/
def tally (topic : String) : Transformer Nat :=
  ⟨topic, fun _ event => .remember (· + 1) (.done [noticeOf event.subscription])⟩

/--
Events that are owned, unowned and unknown, cut in two; and one whose lookup is refused, after
which nothing is done.
-/
theorem passes_concatenate_of_tally :
    let client : Client := ⟨⟨1, 0, 0, 1.0⟩, fun _ => false⟩
    let names : KnownNames := [("a", "tok:F1"), ("b", "other:F1")]
    let pass := fun batch => client.perform (processBy [tally "tok"] KnownNames.resolve batch).run
    let absent : Request × Outcome := (KnownNames.request "c", .ok ⟨404, .null⟩)
    let refused : Request × Outcome := (KnownNames.request "d", .ok ⟨500, .null⟩)
    let owned := strayEvent "a"
    let unowned := strayEvent "b"
    let unknown := strayEvent "c"
    let lost := strayEvent "d"
    (client.perform (processEach [tally "tok"] KnownNames.resolve
        [[owned, unowned], [unknown, owned]]).run).RunsAlone (names, 0) [absent]
        (.ok [noticeOf "a", noticeOf "a"]) (names, 2) ∧
      (pass [owned, lost, owned]).RunsAlone (names, 0) [refused]
        (.error (.rejected (.status 500 ""))) (names, 1) := by
  intro client names pass absent refused owned unowned unknown lost
  obtain ⟨ok_iff, error_iff, -, flatten, -⟩ :=
    passes_concatenate client [tally "tok"] KnownNames.resolve
  have ownedMade : ∀ count, (client.perform (made [tally "tok"] owned (some "tok:F1"))).RunsAlone
      count [] [noticeOf "a"] (count + 1) := by
    intro count
    have owner : owner [tally "tok"] "tok:F1" = some (tally "tok") := by rfl
    simp only [made, owner]
    exact .remember (.done _ _)
  have unownedMade : ∀ count, (client.perform
      (made [tally "tok"] unowned (some "other:F1"))).RunsAlone count [] [] count := by
    intro count
    have owner : owner [tally "tok"] "other:F1" = none := by rfl
    simp only [made, owner]
    exact .done _ _
  have absentLooks : LooksUp client KnownNames.resolve "c" names [absent] (.ok none) names := by
    refine KnownNames.looksUp_of_unknown rfl ?_
    rw [Client.perform_call]
    exact .call _ (.done _ _)
  have refusedLooks : LooksUp client KnownNames.resolve "d" names [refused]
      (.error (.rejected (.status 500 ""))) names := by
    refine KnownNames.looksUp_of_unknown rfl ?_
    rw [Client.perform_call]
    exact .call _ (.done _ _)
  let ofOwned : Treatment := ⟨owned, some "tok:F1", [], [], [noticeOf "a"]⟩
  let ofUnowned : Treatment := ⟨unowned, some "other:F1", [], [], []⟩
  let ofUnknown : Treatment := ⟨unknown, none, [absent], [], []⟩
  refine ⟨?_, (error_iff _ _ _ _ _).2 ?_⟩
  · rw [← flatten]
    refine (ok_iff _ _ _ _ _).2 ⟨[ofOwned, ofUnowned, ofUnknown, ofOwned], ?_, rfl, rfl, rfl⟩
    refine .cons (KnownNames.looksUp_of_known rfl) (ownedMade 0) ?_
    refine .cons (KnownNames.looksUp_of_known rfl) (unownedMade 1) ?_
    refine .cons absentLooks (.done _ _) ?_
    exact .cons (KnownNames.looksUp_of_known rfl) (ownedMade 1) (.nil _)
  · refine ⟨[ofOwned], lost, [owned], (names, 1), [refused], names, ?_, rfl, refusedLooks, rfl, rfl⟩
    exact .cons (KnownNames.looksUp_of_known rfl) (ownedMade 0) (.nil _)

end Routes

end TokenRelay
