import Mathlib

/-!
# The ledger of a delivery

A connector keeps a cursor into its batches.  On each connection it sends the batch at the
cursor, the next one only after an acknowledgement, and each acknowledgement moves the
cursor on by one.  The relay dispatches the copies that arrive, acknowledges them in the
order of dispatch, and sends an acknowledgement on whatever connection there is then, or
forgets it.

The ledger keeps of all this the places of batches, the numbers of acknowledgements and
the connections.  Acknowledgement `n` stems from the copy that was dispatched `n`-th, which
no frame says; a copy tells its connection and the place of its batch.

`Sound` holds of every ledger.  `Direct` holds as long as no acknowledgement is credited on
another connection than that of its copy, and then each one is for the batch at the cursor.
-/

namespace TokenRelay

/-- A copy of a batch that was dispatched: the batch's place, and over which connection. -/
structure Copy where
  place : Nat
  connection : Nat
  deriving DecidableEq

/-- What the two sides owe each other. -/
structure Ledger where
  cursor : Nat
  /-- The batch at the cursor was sent on this connection. -/
  outstanding : Bool
  /-- The number of the present connection. -/
  connection : Nat
  /-- The places of the batches that are on their way. -/
  inbound : List Nat
  /-- The numbers of the acknowledgements that are on their way. -/
  outbound : List Nat
  /-- The numbers of the acknowledgements that wait to be sent. -/
  waiting : List Nat
  /-- How many acknowledgements were issued. -/
  issued : Nat
  /-- The copies that were dispatched, oldest first. -/
  copies : List Copy

namespace Ledger

/-- A ledger before the first connection. -/
def start : Ledger :=
  ⟨0, false, 0, [], [], [], 0, []⟩

/-- What can happen to a ledger, other than that an acknowledgement is credited. -/
inductive Turn (ledger : Ledger) : Ledger → Prop where
  | aside : Turn ledger ledger
  | reconnected :
      Turn ledger
        { ledger with
          outstanding := false, connection := ledger.connection + 1
          inbound := [], outbound := [] }
  | sent (free : ledger.outstanding = false) :
      Turn ledger
        { ledger with
          outstanding := true, inbound := ledger.inbound ++ [ledger.cursor] }
  | dispatched {place : Nat} {rest : List Nat} (first : ledger.inbound = place :: rest) :
      Turn ledger
        { ledger with
          inbound := rest, copies := ledger.copies ++ [⟨place, ledger.connection⟩] }
  | issued (fewer : ledger.issued < ledger.copies.length) :
      Turn ledger
        { ledger with
          waiting := ledger.waiting ++ [ledger.issued], issued := ledger.issued + 1 }
  | written {number : Nat} {rest : List Nat} (first : ledger.waiting = number :: rest) :
      Turn ledger
        { ledger with waiting := rest, outbound := ledger.outbound ++ [number] }
  | forgotten {number : Nat} {rest : List Nat} (first : ledger.waiting = number :: rest) :
      Turn ledger { ledger with waiting := rest }

/-- The connector receives an acknowledgement and leaves these on their way. -/
def credit (ledger : Ledger) (rest : List Nat) : Ledger :=
  { ledger with cursor := ledger.cursor + 1, outstanding := false, outbound := rest }

/-! ## What holds of every ledger -/

/-- Nothing lies beyond the cursor, and acknowledgements keep their order. -/
structure Sound (ledger : Ledger) : Prop where
  inbound : ∀ place ∈ ledger.inbound, place ≤ ledger.cursor
  places : ∀ copy ∈ ledger.copies, copy.place ≤ ledger.cursor
  connections : ∀ copy ∈ ledger.copies, copy.connection ≤ ledger.connection
  ordered : (ledger.outbound ++ ledger.waiting).Pairwise (· < ·)
  numbers : ∀ number ∈ ledger.outbound ++ ledger.waiting, number < ledger.issued
  issued : ledger.issued ≤ ledger.copies.length

theorem sound_start : start.Sound where
  inbound := nofun
  places := nofun
  connections := nofun
  ordered := .nil
  numbers := nofun
  issued := Nat.le_refl 0

theorem Sound.turn {ledger next : Ledger} (sound : ledger.Sound) (turn : Turn ledger next) :
    next.Sound := by
  cases turn with
  | aside => exact sound
  | reconnected =>
      exact {
        inbound := nofun
        places := sound.places
        connections := fun copy member =>
          Nat.le_succ_of_le (sound.connections copy member)
        ordered := (List.pairwise_append.1 sound.ordered).2.1
        numbers := fun number member =>
          sound.numbers number (List.mem_append_right _ member)
        issued := sound.issued }
  | sent free =>
      exact { sound with
        inbound := by
          intro place member
          rcases List.mem_append.1 member with old | new
          · exact sound.inbound place old
          · rw [List.mem_singleton.1 new] }
  | @dispatched place rest first =>
      have member : place ∈ ledger.inbound := by
        rw [first]
        exact List.mem_cons_self
      exact {
        inbound := fun other later =>
          sound.inbound other (by rw [first]; exact List.mem_cons_of_mem _ later)
        places := by
          intro copy present
          rcases List.mem_append.1 present with old | new
          · exact sound.places copy old
          · rw [List.mem_singleton.1 new]
            exact sound.inbound place member
        connections := by
          intro copy present
          rcases List.mem_append.1 present with old | new
          · exact sound.connections copy old
          · rw [List.mem_singleton.1 new]
        ordered := sound.ordered
        numbers := sound.numbers
        issued := by
          rw [List.length_append]
          exact Nat.le_add_right_of_le sound.issued }
  | issued fewer =>
      exact { sound with
        ordered := by
          rw [← List.append_assoc, List.pairwise_append]
          refine ⟨sound.ordered, List.pairwise_singleton _ _, ?_⟩
          intro number old other new
          rw [List.mem_singleton.1 new]
          exact sound.numbers number old
        numbers := by
          intro number member
          rw [← List.append_assoc] at member
          rcases List.mem_append.1 member with old | new
          · exact Nat.lt_succ_of_lt (sound.numbers number old)
          · rw [List.mem_singleton.1 new]
            exact Nat.lt_succ_self _
        issued := fewer }
  | @written number rest first =>
      have same : ledger.outbound ++ ledger.waiting =
          (ledger.outbound ++ [number]) ++ rest := by
        rw [first, List.append_cons]
      exact { sound with
        ordered := same ▸ sound.ordered
        numbers := same ▸ sound.numbers }
  | @forgotten number rest first =>
      have sublist : (ledger.outbound ++ rest).Sublist
          (ledger.outbound ++ ledger.waiting) := by
        rw [first]
        exact (List.sublist_cons_self number rest).append_left _
      exact { sound with
        ordered := sound.ordered.sublist sublist
        numbers := fun other member => sound.numbers other (sublist.subset member) }

theorem Sound.credit {ledger : Ledger} {number : Nat} {rest : List Nat}
    (sound : ledger.Sound) (first : ledger.outbound = number :: rest) :
    (ledger.credit rest).Sound := by
  have sublist : (rest ++ ledger.waiting).Sublist
      (ledger.outbound ++ ledger.waiting) := by
    rw [first]
    exact (List.sublist_cons_self number rest).append_right _
  exact {
    inbound := fun place member => Nat.le_succ_of_le (sound.inbound place member)
    places := fun copy member => Nat.le_succ_of_le (sound.places copy member)
    connections := sound.connections
    ordered := sound.ordered.sublist sublist
    numbers := fun other member => sound.numbers other (sublist.subset member)
    issued := sound.issued }

/-! ## What holds while acknowledgements keep to their connection -/

/-- The places of the copies that came over the present connection. -/
def present (ledger : Ledger) : List Nat :=
  (ledger.copies.filter (·.connection = ledger.connection)).map (·.place)

/-- Whether an acknowledgement may still be credited. -/
def IsPending (ledger : Ledger) (number : Nat) : Prop :=
  number ∈ ledger.outbound ++ ledger.waiting ∨ ledger.issued ≤ number

/-- Of the present connection's copies only that of the batch at the cursor is pending. -/
structure Direct (ledger : Ledger) : Prop where
  ordered : (ledger.present ++ ledger.inbound).Pairwise (· < ·)
  free : ledger.outstanding = false →
    ∀ place ∈ ledger.present ++ ledger.inbound, place < ledger.cursor
  ahead : ∀ place ∈ ledger.inbound, ledger.cursor ≤ place
  pending : ∀ number copy, ledger.copies[number]? = some copy →
    copy.connection = ledger.connection → ledger.IsPending number →
      ledger.cursor ≤ copy.place

theorem direct_start : start.Direct where
  ordered := .nil
  free := nofun
  ahead := nofun
  pending := nofun

theorem mem_present {ledger : Ledger} {number : Nat} {copy : Copy}
    (found : ledger.copies[number]? = some copy)
    (same : copy.connection = ledger.connection) : copy.place ∈ ledger.present := by
  rw [present, List.mem_map]
  refine ⟨copy, List.mem_filter.2 ⟨List.mem_of_getElem? found, ?_⟩, rfl⟩
  exact decide_eq_true same

/-- Two copies of the present connection with one place are one copy. -/
theorem Direct.unique {ledger : Ledger} (direct : ledger.Direct) {first second : Nat}
    {copy other : Copy} (found : ledger.copies[first]? = some copy)
    (foundOther : ledger.copies[second]? = some other)
    (same : copy.connection = ledger.connection)
    (sameOther : other.connection = ledger.connection)
    (places : copy.place = other.place) : first = second := by
  have increasing := (List.pairwise_append.1 direct.ordered).1
  rw [present, List.pairwise_map, List.pairwise_filter,
    List.pairwise_iff_getElem] at increasing
  obtain ⟨bound, rfl⟩ := List.getElem?_eq_some_iff.1 found
  obtain ⟨boundOther, rfl⟩ := List.getElem?_eq_some_iff.1 foundOther
  rcases Nat.lt_trichotomy first second with less | equal | more
  · have less := increasing _ _ bound boundOther less (decide_eq_true same)
      (decide_eq_true sameOther)
    exact absurd places (Nat.ne_of_lt less)
  · exact equal
  · have less := increasing _ _ boundOther bound more (decide_eq_true sameOther)
      (decide_eq_true same)
    exact absurd places.symm (Nat.ne_of_lt less)

/-- Acknowledgements may go on their way or get lost. -/
theorem Direct.shift {ledger : Ledger} (direct : ledger.Direct) {outbound waiting : List Nat}
    {issued : Nat}
    (fewer : ∀ number, (number ∈ outbound ++ waiting ∨ issued ≤ number) →
      ledger.IsPending number) :
    Direct { ledger with outbound := outbound, waiting := waiting, issued := issued } where
  ordered := direct.ordered
  free := direct.free
  ahead := direct.ahead
  pending := fun number copy found same pending =>
    direct.pending number copy found same (fewer number pending)

theorem Direct.turn {ledger next : Ledger} (sound : ledger.Sound) (direct : ledger.Direct)
    (turn : Turn ledger next) : next.Direct := by
  cases turn with
  | aside => exact direct
  | reconnected =>
      have unused : ∀ copy ∈ ledger.copies, copy.connection ≠ ledger.connection + 1 := by
        intro copy member equal
        have bound := sound.connections copy member
        omega
      have nothing : ledger.copies.filter (·.connection = ledger.connection + 1) = [] := by
        rw [List.filter_eq_nil_iff]
        intro copy member
        rw [decide_eq_true_eq]
        exact unused copy member
      refine ⟨?_, ?_, nofun, ?_⟩
      · simp only [present, nothing]
        exact .nil
      · simp only [present, nothing]
        exact fun _ => nofun
      · intro number copy found same
        exact absurd same (unused copy (List.mem_of_getElem? found))
  | sent free =>
      have less := direct.free free
      refine ⟨?_, nofun, ?_, direct.pending⟩
      · rw [present, ← List.append_assoc, List.pairwise_append]
        refine ⟨direct.ordered, List.pairwise_singleton _ _, ?_⟩
        intro place old other new
        rw [List.mem_singleton.1 new]
        exact less place old
      · intro place member
        rcases List.mem_append.1 member with old | new
        · exact direct.ahead place old
        · rw [List.mem_singleton.1 new]
  | @dispatched place rest first =>
      have moved : present
            { ledger with
              inbound := rest, copies := ledger.copies ++ [⟨place, ledger.connection⟩] } ++
          rest = ledger.present ++ ledger.inbound := by
        rw [first, present, present, List.filter_append, List.map_append]
        simp
      refine ⟨?_, ?_, ?_, ?_⟩
      · rw [moved]
        exact direct.ordered
      · rw [moved]
        exact direct.free
      · intro other member
        exact direct.ahead other (by rw [first]; exact List.mem_cons_of_mem _ member)
      · intro number copy found same pending
        rcases Nat.lt_or_ge number ledger.copies.length with old | new
        · rw [List.getElem?_append_left old] at found
          exact direct.pending number copy found same pending
        · rw [List.getElem?_append_right new, List.getElem?_singleton] at found
          split_ifs at found
          obtain rfl := Option.some.inj found
          exact direct.ahead place (by rw [first]; exact List.mem_cons_self)
  | issued fewer =>
      refine direct.shift fun number pending => ?_
      rw [← List.append_assoc, List.mem_append, List.mem_singleton] at pending
      rcases pending with (old | rfl) | later
      · exact .inl old
      · exact .inr (Nat.le_refl _)
      · exact .inr (Nat.le_of_succ_le later)
  | @written number rest first =>
      refine direct.shift fun other pending => ?_
      rw [List.append_assoc, List.singleton_append, ← first] at pending
      exact pending
  | @forgotten number rest first =>
      refine direct.shift fun other pending => ?_
      rcases pending with kept | later
      · refine .inl ?_
        rw [first, List.mem_append, List.mem_cons]
        rcases List.mem_append.1 kept with old | old
        · exact .inl old
        · exact .inr (.inr old)
      · exact .inr later

/-- An acknowledgement that keeps to its connection is for the batch at the cursor. -/
theorem Direct.credit {ledger : Ledger} {number : Nat} {rest : List Nat} {copy : Copy}
    (sound : ledger.Sound) (direct : ledger.Direct)
    (first : ledger.outbound = number :: rest)
    (found : ledger.copies[number]? = some copy)
    (same : copy.connection = ledger.connection) :
    copy.place = ledger.cursor ∧ (ledger.credit rest).Direct := by
  have due : ledger.IsPending number := by
    refine .inl ?_
    rw [first]
    exact List.mem_cons_self
  have place : copy.place = ledger.cursor :=
    Nat.le_antisymm (sound.places copy (List.mem_of_getElem? found))
      (direct.pending number copy found same due)
  have arrived : copy.place ∈ ledger.present := mem_present found same
  -- The batch at the cursor has arrived, so nothing is left on its way.
  have nothing : ledger.inbound = [] := by
    rw [List.eq_nil_iff_forall_not_mem]
    intro other member
    have more := (List.pairwise_append.1 direct.ordered).2.2 _ arrived _ member
    have less := sound.inbound other member
    omega
  refine ⟨place, direct.ordered, ?_, ?_, ?_⟩
  · intro _ other member
    have bound : other ≤ ledger.cursor := by
      rcases List.mem_append.1 member with old | old
      · obtain ⟨copy, present, rfl⟩ := List.mem_map.1 old
        exact sound.places copy (List.mem_filter.1 present).1
      · exact sound.inbound other old
    exact Nat.lt_succ_of_le bound
  · intro other member
    have empty : other ∈ ledger.inbound := member
    rw [nothing] at empty
    cases empty
  · intro later other foundOther sameOther pending
    have ordered := sound.ordered
    rw [first, List.cons_append, List.pairwise_cons] at ordered
    have old : ledger.IsPending later := by
      rcases pending with kept | later
      · refine .inl ?_
        rw [first]
        exact List.mem_cons_of_mem _ kept
      · exact .inr later
    have different : number ≠ later := by
      rintro rfl
      rcases pending with kept | later
      · exact absurd (ordered.1 number kept) (Nat.lt_irrefl _)
      · have issued := sound.numbers number (by rw [first]; exact List.mem_cons_self)
        exact absurd issued (Nat.not_lt.2 later)
    have ahead := direct.pending later other foundOther sameOther old
    have apart : copy.place ≠ other.place := fun equal =>
      different (direct.unique found foundOther same sameOther equal)
    change ledger.cursor + 1 ≤ other.place
    omega

end Ledger

end TokenRelay
