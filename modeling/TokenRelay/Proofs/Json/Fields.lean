import Mathlib
import TokenRelay.Json.Basic

/-!
# Fields that are put together

A field that is set is found again, and all others are found as before; so what an object
of some fields holds under a key is the last of them with that key.
-/

namespace TokenRelay.Json

theorem lookup_setField (key other : String) (value : Json) (fields : List (String × Json)) :
    lookup key (setField other value fields) =
      if key = other then some value else lookup key fields := by
  induction fields with
  | nil => rfl
  | cons field rest induction =>
      obtain ⟨present, old⟩ := field
      by_cases same : other = present
      · subst same
        simp only [setField, if_true, lookup]
        split <;> rfl
      · by_cases before : other < present
        · simp only [setField, if_neg same, if_pos before, lookup]
        · simp only [setField, if_neg same, if_neg before, lookup, induction]
          by_cases found : key = present
          · rw [if_pos found, if_neg (found ▸ Ne.symm same), if_pos found]
          · rw [if_neg found, if_neg found]

/-- The last field with a key is what an object holds under it. -/
theorem field?_ofFields (key : String) (fields : List (String × Json)) :
    (ofFields fields).field? key =
      (fields.reverse.find? (key = ·.1)).map Prod.snd := by
  rw [ofFields, field?, ← List.foldr_reverse]
  induction fields.reverse with
  | nil => rfl
  | cons field rest induction =>
      rw [List.foldr_cons, lookup_setField, induction]
      by_cases found : key = field.1
      · simp [found]
      · simp [found]

end TokenRelay.Json
