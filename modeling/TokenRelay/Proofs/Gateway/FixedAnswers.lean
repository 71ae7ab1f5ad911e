import TokenRelay.Proofs.Gateway.Batches

/-!
# Passes against fixed answers

A connector may answer all lookups of an id in the same way, whatever that is.  A lookup then
ends well if and only if the name of its id is known or the answer tells something, that is, a
name or that there is no such subscription.  No lookup changes for which ids this is so, since a
name is kept only where the answer told it.

So it is settled before a pass over a batch begins what it comes to (`IsAnswered`), and a later
pass over the batch comes to the same.
-/

namespace TokenRelay

variable {ν μ : Type}

namespace KnownNames

variable {client : Client} {told : String → Outcome} {id : String} {names after : KnownNames}
  {calls : Gateway.Calls} {result : Except BridgeError (Option String)}

/-- That the attempts at a lookup of an id all have the outcome that is told of it. -/
def Abides (told : String → Outcome) (calls : Gateway.Calls) : Prop :=
  ∀ id outcome, (request id, outcome) ∈ calls → outcome = told id

theorem abides_append_iff {later : Gateway.Calls} :
    Abides told (calls ++ later) ↔ Abides told calls ∧ Abides told later := by
  simp only [Abides, List.mem_append, or_imp, forall_and]

/-- That the name of an id is known, or the answer to its lookup tells something. -/
def Answerable (told : String → Outcome) (names : KnownNames) (id : String) : Prop :=
  (∃ name, names.find? id = some name) ∨ ∃ answer, (told id).Tells answer

namespace Resolves

theorem ok_iff_answerable (resolves : Resolves client id names calls result after)
    (abides : Abides told calls) : (∃ answer, result = .ok answer) ↔ Answerable told names id := by
  cases resolves with
  | known found => exact iff_of_true ⟨_, rfl⟩ (.inl ⟨_, found⟩)
  | asked unknown _ last =>
      obtain rfl := abides id _ (List.mem_append_right _ (List.mem_singleton.2 rfl))
      constructor
      · rintro ⟨answer, ends⟩
        exact .inr ⟨answer, (last.ok_iff answer).1 ends⟩
      · rintro (⟨name, found⟩ | ⟨answer, tells⟩)
        · cases unknown.symm.trans found
        · exact ⟨answer, (last.ok_iff answer).2 tells⟩

/-- A lookup does not change which ids can be answered. -/
theorem answerable_iff (resolves : Resolves client id names calls result after)
    (abides : Abides told calls) (other : String) :
    Answerable told after other ↔ Answerable told names other := by
  refine or_congr_left' fun untold => ?_
  cases resolves with
  | known => exact Iff.rfl
  | asked unknown _ last =>
      obtain rfl := abides id _ (List.mem_append_right _ (List.mem_singleton.2 rfl))
      refine exists_congr fun name => (last.find?_iff unknown other name).trans ?_
      refine or_iff_left ?_
      rintro ⟨rfl, tells⟩
      exact untold ⟨_, tells⟩

end Resolves

/-- That every lookup of a batch can be answered. -/
def IsAnswered (told : String → Outcome) (names : KnownNames) (batch : Batch) : Prop :=
  ∀ event ∈ batch, Answerable told names event.subscription

end KnownNames

open KnownNames (Abides Answerable IsAnswered abides_append_iff resolves_of_looksUp)

/-- Where no lookup fails, all could be answered, and the same ids can be answered afterwards. -/
theorem Routes.Treats.answerable {client : Client} {routes : Routes μ} {told : String → Outcome}
    {memory after : KnownNames × μ} {treated : List Treatment}
    (treats : Treats client routes KnownNames.resolve memory treated after)
    (abides : Abides told (treated.flatMap (·.calls))) :
    IsAnswered told memory.1 (treated.map (·.event)) ∧
      ∀ id, Answerable told after.1 id ↔ Answerable told memory.1 id := by
  induction treats with
  | nil => exact ⟨List.forall_mem_nil _, fun _ => Iff.rfl⟩
  | cons looksUp _ _ induction =>
      rw [List.flatMap_cons, abides_append_iff, Treatment.calls, abides_append_iff] at abides
      obtain ⟨⟨asked, -⟩, later⟩ := abides
      obtain ⟨others, same⟩ := induction later
      have resolves := resolves_of_looksUp looksUp
      have kept := resolves.answerable_iff asked
      have first := (resolves.ok_iff_answerable asked).1 ⟨_, rfl⟩
      refine ⟨List.forall_mem_cons.2 ⟨first, fun event member => ?_⟩, fun id => ?_⟩
      · exact (kept _).1 (others event member)
      · exact (same id).trans (kept id)

namespace Gateway

open GatewayMemory (parts putParts)

theorem begin_eq_within (gateway : Gateway μ) (batch : Batch) :
    gateway.begin batch =
      (gateway.client.perform (gateway.routes.processBy KnownNames.resolve batch).run).within
        parts putParts := by
  rw [begin, Routes.process_eq_within]
  exact gateway.client.perform_within _ _ _

theorem isPart_parts :
    Procedure.IsPart (parts : GatewayMemory μ → KnownNames × μ) putParts :=
  ⟨fun _ _ => rfl, fun _ => rfl, fun _ _ _ => rfl⟩

variable {gateway : Gateway μ} {told : String → Outcome} {batch : Batch}
  {memory after : GatewayMemory μ} {calls : Calls} {result : Except BridgeError (List Notification)}

/-- A pass ends well if and only if every lookup of its batch can be answered, and afterwards the
same ids can be answered as before. -/
theorem answered_of_runsAlone (runs : (gateway.begin batch).RunsAlone memory calls result after)
    (abides : Abides told calls) :
    ((∃ notifications, result = .ok notifications) ↔ IsAnswered told memory.names batch) ∧
      ∀ id, Answerable told after.names id ↔ Answerable told memory.names id := by
  rw [begin_eq_within, Procedure.runsAlone_within_iff isPart_parts] at runs
  obtain ⟨left, runs, rfl⟩ := runs
  cases result with
  | ok notifications =>
      obtain ⟨treated, treats, rfl, rfl, rfl⟩ := (Routes.runsAlone_processBy_ok_iff _ _).1 runs
      obtain ⟨answered, same⟩ := treats.answerable abides
      exact ⟨iff_of_true ⟨_, rfl⟩ answered, same⟩
  | error error =>
      obtain ⟨treated, event, rest, middle, asked, names, treats, rfl, lost, rfl, rfl⟩ :=
        (Routes.runsAlone_processBy_error_iff _ _).1 runs
      obtain ⟨before, own⟩ := abides_append_iff.1 abides
      obtain ⟨-, same⟩ := treats.answerable before
      have resolves := resolves_of_looksUp lost
      refine ⟨iff_of_false nofun fun answered => ?_, fun id => ?_⟩
      · have last := answered event (List.mem_append_right _ List.mem_cons_self)
        obtain ⟨answer, impossible⟩ :=
          (resolves.ok_iff_answerable own).2 ((same event.subscription).2 last)
        cases impossible
      · exact (resolves.answerable_iff own id).trans (same id)

theorem isAnswered_congr {names others : KnownNames}
    (same : ∀ id, Answerable told names id ↔ Answerable told others id) :
    IsAnswered told names batch ↔ IsAnswered told others batch :=
  forall₂_congr fun event _ => same event.subscription

end Gateway

end TokenRelay
