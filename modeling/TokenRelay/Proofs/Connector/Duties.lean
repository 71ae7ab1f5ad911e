import TokenRelay.Proofs.Connector.Turns

/-!
# What each of several procedures has to do

A `Duty` is a conduct that a procedure keeps to, together with what has to hold when it ends.
Procedures that take turns meet their duties side by side if what one guarantees is no more than
the others rely on, and leaves the end of one that is there already as it was.  Then at every
moment each of them still meets the rest of its duty: one that has ended holds what it had to,
whatever the others did since, and one that was given up has kept to its conduct so far.  What
every conduct's guarantee keeps is kept by all of them together.
-/

namespace TokenRelay

/-- The conduct that a procedure keeps to, and what holds of its value when it ends. -/
structure Duty (α S : Type) where
  conduct : Conduct S
  ends : α → S → Prop

namespace Duty

variable {ρ σ α S : Type} {answers : S → Request → ρ → S → Prop}

/-- What one guarantees suits the other, also once that one has ended. -/
structure Allows (own other : Duty α S) : Prop where
  suits : own.conduct.Suits other.conduct
  leaves : ∀ value before after, own.conduct.guarantees before after →
    other.ends value before → other.ends value after

/-- That a procedure meets a duty from a state on. -/
def MetBy (answers : S → Request → ρ → S → Prop) (state : S) (duty : Duty α S)
    (procedure : Procedure ρ σ α) : Prop :=
  procedure.Ensures answers duty.conduct duty.ends state

/-- What one does by a step leaves a duty that it allows met. -/
theorem Allows.metBy {own duty : Duty α S} {procedure : Procedure ρ σ α} {before after : S}
    (allows : own.Allows duty) (met : duty.MetBy answers before procedure)
    (changes : after = before ∨ own.conduct.guarantees before after) :
    duty.MetBy answers after procedure := by
  rcases changes with rfl | guaranteed
  · exact met
  · exact Procedure.Ensures.later met (allows.suits _ _ guaranteed) fun value =>
      allows.leaves value _ _ guaranteed

/-- Procedures that have each its duty, with duties that allow one another. -/
structure Shared (answers : S → Request → ρ → S → Prop) (duties : List (Duty α S))
    (procedures : List (Procedure ρ σ α)) (state : S) : Prop where
  allowed : duties.Pairwise fun own other => own.Allows other ∧ other.Allows own
  met : List.Forall₂ (MetBy answers state) duties procedures

variable {duties : List (Duty α S)} {procedures left : List (Procedure ρ σ α)}
  {procedure next : Procedure ρ σ α} {calls : List (Request × ρ)} {origin state after : S}

theorem allows_of_ne {place other : Nat}
    (allowed : duties.Pairwise fun own other => own.Allows other ∧ other.Allows own)
    (different : place ≠ other) (bound : place < duties.length)
    (otherBound : other < duties.length) : duties[place].Allows duties[other] := by
  have pairs := List.pairwise_iff_getElem.1 allowed
  rcases lt_or_gt_of_ne different with first | last
  · exact (pairs _ _ bound otherBound first).1
  · exact (pairs _ _ otherBound bound last).2

/-- A turn of one procedure does what its duty guarantees, and leaves all duties met. -/
theorem Shared.turn {place : Nat} (shared : Shared answers duties left state)
    (there : left[place]? = some procedure) (advances : procedure.Advances calls next)
    (logs : Procedure.Logs answers state calls after) :
    (after = state ∨ ∃ duty ∈ duties, duty.conduct.guarantees state after) ∧
      Shared answers duties (left.set place next) after := by
  obtain ⟨many, met⟩ := List.forall₂_iff_get.1 shared.met
  obtain ⟨within, rfl⟩ := List.getElem?_eq_some_iff.1 there
  have bound : place < duties.length := many ▸ within
  have own := (met place bound within).advance advances logs
  refine ⟨own.1.imp_right fun guaranteed => ⟨_, List.getElem_mem bound, guaranteed⟩,
    shared.allowed, ?_⟩
  refine List.forall₂_iff_get.2 ⟨many.trans List.length_set.symm, ?_⟩
  intro other dutyBound procedureBound
  rw [List.length_set] at procedureBound
  -- whoever took the turn goes on with its own duty, and the others may go on with theirs
  by_cases same : place = other
  · subst same
    simpa [MetBy] using own.2
  · have allows := allows_of_ne shared.allowed same bound dutyBound
    simpa [List.getElem_set_ne same] using
      allows.metBy (met other dutyBound procedureBound) own.1

/-- What every duty guarantees to keep is kept through all turns, and so are the duties. -/
theorem Shared.turns {log : List (Nat × Request)} {invariant : S → Prop}
    (shared : Shared answers duties procedures origin)
    (kept : ∀ duty ∈ duties, ∀ before after, duty.conduct.guarantees before after →
      invariant before → invariant after)
    (holds : invariant origin)
    (turns : Procedure.Turns answers procedures origin log left state) :
    invariant state ∧ Shared answers duties left state := by
  induction turns with
  | start => exact ⟨holds, shared⟩
  | turn _ there advances logs induction =>
      obtain ⟨before, goes⟩ := induction
      obtain ⟨changes, stays⟩ := goes.turn there advances logs
      refine ⟨?_, stays⟩
      rcases changes with rfl | ⟨duty, member, guaranteed⟩
      · exact before
      · exact kept duty member _ _ guaranteed before

end Duty

namespace Procedure

variable {ρ σ α S : Type} {answers : S → Request → ρ → S → Prop}
  {procedures left : List (Procedure ρ σ α)} {origin state after : S}

/-- Procedures that run side by side take turns. -/
theorem Turns.proceed {log : List (Nat × Request)}
    (turns : Turns answers procedures origin log left state)
    (proceeds : Proceeds answers left state after) :
    ∃ whole rest, Turns answers procedures origin whole rest after := by
  induction proceeds generalizing log with
  | stop procedures state => exact ⟨_, _, turns⟩
  | @advance procedure _ _ _ _ _ before others advances logs _ induction =>
      have there : (before ++ procedure :: others)[before.length]? = some procedure := by simp
      have turned := turns.turn there advances logs
      rw [List.set_append_right _ _ le_rfl, Nat.sub_self, List.set_cons_zero] at turned
      exact induction turned

/-- Parties that have no end to meet share duties. -/
theorem Agree.shared {parties : List (Party ρ σ α S)} (agree : Agree answers parties state) :
    Duty.Shared answers (parties.map fun party => ⟨party.1, fun _ _ => True⟩)
      (parties.map Prod.snd) state where
  allowed := by
    rw [List.pairwise_map]
    refine (List.pairwise_map.1 agree.suited).imp ?_
    intro own other suits
    exact ⟨⟨suits.1, fun _ _ _ _ => id⟩, ⟨suits.2, fun _ _ _ _ => id⟩⟩
  met := by
    rw [List.forall₂_map_left_iff, List.forall₂_map_right_iff, List.forall₂_same]
    exact agree.ensures

/-- What every conduct's guarantee keeps is kept by parties that run side by side. -/
theorem Agree.keeps {parties : List (Party ρ σ α S)} {invariant : S → Prop}
    (agree : Agree answers parties state)
    (kept : ∀ conduct ∈ parties.map Prod.fst, ∀ before after,
      conduct.guarantees before after → invariant before → invariant after)
    (holds : invariant state)
    (proceeds : Proceeds answers (parties.map Prod.snd) state after) : invariant after := by
  obtain ⟨log, left, turns⟩ := Turns.start.proceed proceeds
  refine (agree.shared.turns ?_ holds turns).1
  rw [List.forall_mem_map] at kept ⊢
  exact kept

end Procedure

end TokenRelay
