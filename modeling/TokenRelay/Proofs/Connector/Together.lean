import TokenRelay.Proofs.Connector.Procedure

/-!
# Procedures side by side

Several procedures run side by side: each step is a step of one of them, in any order, and
the calls are logged in the order in which they are answered.  What one of them does then
is a run of its own, whose calls stand in the common log in the same order.
-/

namespace TokenRelay.Procedure

variable {ρ σ α : Type}

/-- What procedures may end with that run side by side, and the calls that they make. -/
inductive Together : List (Procedure ρ σ α) → List (Request × ρ) → List α → Prop where
  | done (values : List α) : Together (values.map .done) [] values
  | step {procedure next : Procedure ρ σ α} {calls later : List (Request × ρ)}
      {values : List α} (before after : List (Procedure ρ σ α))
      (advances : Advances procedure calls next)
      (together : Together (before ++ next :: after) later values) :
      Together (before ++ procedure :: after) (calls ++ later) values

/-- One procedure's part in a common run, which is a run of its own. -/
structure Share (ρ σ α : Type) where
  procedure : Procedure ρ σ α
  calls : List (Request × ρ)
  value : α
  runs : procedure.Runs calls value

namespace Share

/-- The share of a procedure that has ended. -/
def ended (value : α) : Share ρ σ α :=
  ⟨.done value, [], value, .done value⟩

/-- The share of a procedure that goes on with that of a share after a step. -/
def after {procedure : Procedure ρ σ α} {calls : List (Request × ρ)} (share : Share ρ σ α)
    (advances : Advances procedure calls share.procedure) : Share ρ σ α :=
  ⟨procedure, calls ++ share.calls, share.value, .step advances share.runs⟩

/-- A log made of the calls of some shares, each in its own order. -/
structure MakeUp (shares : List (Share ρ σ α)) (calls : List (Request × ρ)) : Prop where
  inOrder : ∀ share ∈ shares, share.calls.Sublist calls
  owned : ∀ call ∈ calls, ∃ share ∈ shares, call ∈ share.calls

theorem MakeUp.after {first rest : List (Share ρ σ α)} {share : Share ρ σ α}
    {later : List (Request × ρ)} (makeUp : MakeUp (first ++ share :: rest) later)
    {procedure : Procedure ρ σ α} {calls : List (Request × ρ)}
    (advances : Advances procedure calls share.procedure) :
    MakeUp (first ++ share.after advances :: rest) (calls ++ later) where
  inOrder := by
    intro other member
    rw [List.mem_append, List.mem_cons] at member
    rcases member with member | rfl | member
    · exact (makeUp.inOrder other (by simp [member])).trans (List.sublist_append_right _ _)
    · exact (makeUp.inOrder share (by simp)).append_left calls
    · exact (makeUp.inOrder other (by simp [member])).trans (List.sublist_append_right _ _)
  owned := by
    intro call member
    rw [List.mem_append] at member
    rcases member with own | member
    · exact ⟨share.after advances, by simp, List.mem_append_left _ own⟩
    · rcases makeUp.owned call member with ⟨other, there, has⟩
      rw [List.mem_append, List.mem_cons] at there
      rcases there with there | rfl | there
      · exact ⟨other, by simp [there], has⟩
      · exact ⟨other.after advances, by simp, List.mem_append_right _ has⟩
      · exact ⟨other, by simp [there], has⟩

end Share

/-- Of procedures that run side by side each makes a run of its own. -/
theorem Together.shares {procedures : List (Procedure ρ σ α)} {calls : List (Request × ρ)}
    {values : List α} (together : Together procedures calls values) :
    ∃ shares : List (Share ρ σ α), shares.map Share.procedure = procedures ∧
      shares.map Share.value = values ∧ Share.MakeUp shares calls := by
  induction together with
  | done values =>
      refine ⟨values.map .ended, ?_, ?_, by simp [Share.ended], nofun⟩
      · simp [Share.ended, Function.comp_def]
      · simp [Share.ended, Function.comp_def]
  | step before after advances _ induction =>
      rcases induction with ⟨shares, arranged, rfl, makeUp⟩
      rcases List.map_eq_append_iff.1 arranged with ⟨first, others, rfl, rfl, tail⟩
      rcases List.map_eq_cons_iff.1 tail with ⟨share, rest, rfl, rfl, rfl⟩
      exact ⟨first ++ share.after advances :: rest, by simp [Share.after],
        by simp [Share.after], makeUp.after advances⟩

end TokenRelay.Procedure
