import Mathlib
import TokenRelay.Subscription.Name

/-!
# Names read back under their topic

A name is read by taking off its topic as a whole, so a topic may hold the delimiter, end
in it or consist of it.  What follows the topic is cut at the first delimiter and once
more at the second, which gives the segments back as long as they hold no delimiter
themselves and are not empty.
-/

namespace TokenRelay.SubscriptionName

/-- A text that can stand as a segment of a name: not empty, and without the delimiter. -/
def IsSegment (chars : List Char) : Prop :=
  chars ≠ [] ∧ delimiter ∉ chars

@[simp]
theorem stripStart?_append (start rest : List Char) :
    stripStart? start (start ++ rest) = some rest := by
  induction start with
  | nil => rfl
  | cons char start induction => simpa [stripStart?] using induction

theorem stripStart?_eq_some_iff (start text rest : List Char) :
    stripStart? start text = some rest ↔ text = start ++ rest := by
  constructor
  · intro strips
    induction start generalizing text with
    | nil => exact Option.some.inj strips
    | cons expected start induction =>
        cases text with
        | nil => cases strips
        | cons char text =>
            rw [stripStart?] at strips
            split_ifs at strips with same
            rw [same, induction text strips, List.cons_append]
  · rintro rfl
    exact stripStart?_append start rest

@[simp]
theorem afterTopic?_append (topic rest : List Char) :
    afterTopic? topic (topic ++ delimiter :: rest) = some rest := by
  simp [afterTopic?]

theorem afterTopic?_eq_some_iff (topic name rest : List Char) :
    afterTopic? topic name = some rest ↔ name = topic ++ delimiter :: rest := by
  constructor
  · intro follows
    unfold afterTopic? at follows
    split at follows
    · rename_i char found strips
      split_ifs at follows with delimits
      rw [(stripStart?_eq_some_iff _ _ _).1 strips, delimits, Option.some.inj follows]
    · cases follows
  · rintro rfl
    exact afterTopic?_append topic rest

theorem cutSegment_of_notMem {segment : List Char} (plain : delimiter ∉ segment) :
    cutSegment segment = (segment, none) := by
  induction segment with
  | nil => rfl
  | cons char segment induction =>
      rw [List.mem_cons, not_or] at plain
      rw [cutSegment, if_neg (Ne.symm plain.1), induction plain.2]

theorem cutSegment_append {segment : List Char} (plain : delimiter ∉ segment)
    (rest : List Char) :
    cutSegment (segment ++ delimiter :: rest) = (segment, some rest) := by
  induction segment with
  | nil => simp [cutSegment]
  | cons char segment induction =>
      rw [List.mem_cons, not_or] at plain
      rw [List.cons_append, cutSegment, if_neg (Ne.symm plain.1), induction plain.2]

theorem segment?_toList {text : String} (nonempty : text.toList ≠ []) :
    segment? text.toList = some text := by
  simp [segment?, nonempty]

/-- A name of topic, pool and event is read back under its topic. -/
theorem unpack_pack_event (topic : String) {pool event : String}
    (poolSegment : IsSegment pool.toList) (eventSegment : IsSegment event.toList) :
    unpack topic (pack topic pool (some event)) = ⟨topic, some pool, some event⟩ := by
  simp only [unpack, pack, String.toList_ofList, afterTopic?_append,
    cutSegment_append poolSegment.2, cutSegment_of_notMem eventSegment.2,
    segment?_toList poolSegment.1, segment?_toList eventSegment.1]

/-- A name of topic and pool is read back under its topic. -/
theorem unpack_pack_pool (topic : String) {pool : String} (segment : IsSegment pool.toList) :
    unpack topic (pack topic pool none) = ⟨topic, some pool, none⟩ := by
  simp only [unpack, pack, String.toList_ofList, afterTopic?_append,
    cutSegment_of_notMem segment.2, segment?_toList segment.1]

end TokenRelay.SubscriptionName
