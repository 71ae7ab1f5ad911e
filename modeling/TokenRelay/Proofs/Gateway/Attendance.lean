import TokenRelay.Proofs.Gateway.Turn

/-!
# What becomes of a subscriber

Notes say more of a scene than its events do: who was put on the list, who took what from its
queue and who closed, which replies came and to whom they were forwarded.

A subscriber who is open and does not close stays on the list, and its queue is kept like an
account: what was in it, followed by what is given to all, is what it takes, followed by what
is left (`Follows`).  `Affects` says once what can happen to the list of subscribers, and each
of these things keeps the accounts of all who stay (`Affects.keeps`), also while a hand-over
goes through the list and they take and close in between (`Giving.keeps`).
-/

namespace TokenRelay.Gateway

/-! ## Notes -/

/-- What is noted of a scene. -/
inductive Note where
  | shown (event : Event)
  | enlisted (id : Nat)
  | took (id : Nat) (notifications : List Notification)
  | closed (id : Nat)
  /-- The feed dispatched a reply. -/
  | replied (reply : Reply)
  | forwarded (reply : Reply) (before after : List Subscriber)
  | feedEnded
  | forwardingEnded
  /-- The run came to its end since the feed had ended. -/
  | returned
  | aborted

namespace Note

def event? : Note → Option Event
  | .shown event => some event
  | _ => none

/-- What is given to all who are there. -/
def given : Note → List Notification
  | .shown (.gave notifications _ _) => notifications
  | .forwarded reply _ _ => [GatewayRun.receipt reply]
  | _ => []

/-- What a subscriber takes. -/
def taken (id : Nat) : Note → List Notification
  | .took other notifications => if other = id then notifications else []
  | _ => []

/-- That a note is of what a subscriber does while others are served. -/
inductive IsOf (id : Nat) : Note → Prop where
  | took (notifications : List Notification) : IsOf id (.took id notifications)
  | closed : IsOf id (.closed id)

/-- Whether a note is of something else than giving and taking. -/
def isQuiet : Note → Bool
  | .shown (.gave _ _ _) => false
  | .took _ _ => false
  | .forwarded _ _ _ => false
  | _ => true

theorem given_of_isQuiet {note : Note} (quiet : note.isQuiet = true) : note.given = [] := by
  cases note with
  | shown event => cases event <;> first | rfl | cases quiet
  | forwarded => cases quiet
  | _ => rfl

theorem taken_of_isQuiet {note : Note} (quiet : note.isQuiet = true) (id : Nat) :
    note.taken id = [] := by
  cases note with
  | took => cases quiet
  | _ => rfl

end Note

/-- The events of the run among the notes. -/
def eventsOf (notes : List Note) : List Event :=
  notes.filterMap Note.event?

/-- All that is given, in order. -/
def givenIn (notes : List Note) : List Notification :=
  notes.flatMap Note.given

/-- All that a subscriber takes, in order. -/
def takenBy (id : Nat) (notes : List Note) : List Notification :=
  notes.flatMap (Note.taken id)

section Notes

variable {id : Nat} (notes others : List Note)

@[simp]
theorem eventsOf_append : eventsOf (notes ++ others) = eventsOf notes ++ eventsOf others :=
  List.filterMap_append

@[simp]
theorem givenIn_append : givenIn (notes ++ others) = givenIn notes ++ givenIn others :=
  List.flatMap_append

@[simp]
theorem takenBy_append : takenBy id (notes ++ others) = takenBy id notes ++ takenBy id others :=
  List.flatMap_append

variable {notes}

theorem givenIn_of_quiet (quiet : ∀ note ∈ notes, note.isQuiet = true) :
    givenIn notes = [] :=
  List.flatMap_eq_nil_iff.2 fun note member => Note.given_of_isQuiet (quiet note member)

theorem takenBy_of_quiet (quiet : ∀ note ∈ notes, note.isQuiet = true) :
    takenBy id notes = [] :=
  List.flatMap_eq_nil_iff.2 fun note member => Note.taken_of_isQuiet (quiet note member) id

theorem eventsOf_of_isOf (personal : ∀ note ∈ notes, ∃ id, note.IsOf id) :
    eventsOf notes = [] := by
  rw [eventsOf, List.filterMap_eq_nil_iff]
  intro note member
  obtain ⟨id, of⟩ := personal note member
  cases of <;> rfl

theorem givenIn_of_isOf (personal : ∀ note ∈ notes, ∃ id, note.IsOf id) :
    givenIn notes = [] := by
  rw [givenIn, List.flatMap_eq_nil_iff]
  intro note member
  obtain ⟨id, of⟩ := personal note member
  cases of <;> rfl

/-- Nobody takes what others take. -/
theorem takenBy_of_isOf (others : ∀ note ∈ notes, ∃ other, other ≠ id ∧ note.IsOf other) :
    takenBy id notes = [] := by
  rw [takenBy, List.flatMap_eq_nil_iff]
  intro note member
  obtain ⟨other, apart, of⟩ := others note member
  cases of with
  | took notifications => exact if_neg apart
  | closed => rfl

end Notes

/-! ## Accounts -/

/-- That a subscriber has stayed and its account is in order. -/
structure Follows (subscriber : Subscriber) (notes : List Note) (later : Subscriber) :
    Prop where
  same : later.id = subscriber.id
  isOpen : later.isOpen = true
  account : subscriber.queue ++ givenIn notes = takenBy subscriber.id notes ++ later.queue

namespace Follows

variable {subscriber via later : Subscriber} {notes others : List Note}

theorem of_quiet (isOpen : subscriber.isOpen = true)
    (quiet : ∀ note ∈ notes, note.isQuiet = true) : Follows subscriber notes subscriber where
  same := rfl
  isOpen := isOpen
  account := by
    rw [givenIn_of_quiet quiet, takenBy_of_quiet quiet, List.append_nil, List.nil_append]

theorem trans (first : Follows subscriber notes via) (second : Follows via others later) :
    Follows subscriber (notes ++ others) later where
  same := second.same.trans first.same
  isOpen := second.isOpen
  account := by
    have rest := second.account
    rw [first.same] at rest
    rw [givenIn_append, takenBy_append, ← List.append_assoc, first.account,
      List.append_assoc, rest, List.append_assoc]

end Follows

/-- Who is open and does not close stays on the list, with an account that is in order. -/
def Keeps (before : List Subscriber) (notes : List Note) (after : List Subscriber) : Prop :=
  ∀ subscriber ∈ before, subscriber.isOpen = true → .closed subscriber.id ∉ notes →
    ∃ later ∈ after, Follows subscriber notes later

theorem keeps_nil (subscribers : List Subscriber) : Keeps subscribers [] subscribers :=
  fun subscriber member isOpen _ => ⟨subscriber, member, .of_quiet isOpen (List.forall_mem_nil _)⟩

theorem Keeps.trans {before via after : List Subscriber} {notes others : List Note}
    (first : Keeps before notes via) (second : Keeps via others after) :
    Keeps before (notes ++ others) after := by
  intro subscriber member isOpen stays
  rw [List.mem_append, not_or] at stays
  obtain ⟨between, present, follows⟩ := first subscriber member isOpen stays.1
  obtain ⟨later, still, follows'⟩ :=
    second between present follows.isOpen (follows.same ▸ stays.2)
  exact ⟨later, still, follows.trans follows'⟩

/-- That no two subscribers on a list have the same number. -/
def Distinct (subscribers : List Subscriber) : Prop :=
  (subscribers.map (·.id)).Nodup

theorem Distinct.eq {subscribers : List Subscriber} (distinct : Distinct subscribers)
    {subscriber other : Subscriber} (member : subscriber ∈ subscribers)
    (member' : other ∈ subscribers) (same : subscriber.id = other.id) :
    subscriber = other :=
  List.inj_on_of_nodup_map distinct member member' same

/-! ## Serving one after the other -/

/-- How notifications are sent to a subscriber, with the notes of what it does meanwhile. -/
inductive Serving :
    Subscriber → List Notification → List Note → Option Subscriber → Prop where
  | done (subscriber : Subscriber) : Serving subscriber [] [] (some subscriber)
  | send {subscriber : Subscriber} {notification : Notification}
      {rest : List Notification} {notes : List Note} {result : Option Subscriber}
      (isOpen : subscriber.isOpen = true)
      (serving : Serving { subscriber with queue := subscriber.queue ++ [notification] }
        rest notes result) :
      Serving subscriber (notification :: rest) notes result
  | refuse {subscriber : Subscriber} (notification : Notification)
      (rest : List Notification) (isClosed : subscriber.isOpen = false) :
      Serving subscriber (notification :: rest) [] none
  | take {subscriber : Subscriber} {notifications : List Notification}
      {notes : List Note} {result : Option Subscriber} (count : Nat)
      (serving : Serving { subscriber with queue := subscriber.queue.drop count }
        notifications notes result) :
      Serving subscriber notifications
        (.took subscriber.id (subscriber.queue.take count) :: notes) result
  | close {subscriber : Subscriber} {notifications : List Notification}
      {notes : List Note} {result : Option Subscriber}
      (serving : Serving subscriber.closed notifications notes result) :
      Serving subscriber notifications (.closed subscriber.id :: notes) result

/-- How a list of subscribers is gone through. -/
inductive Giving (notifications : List Notification) :
    List Subscriber → List Note → List Subscriber → Prop where
  | nil : Giving notifications [] [] []
  | cons {subscriber : Subscriber} {result : Option Subscriber}
      {rest after : List Subscriber} {notes others : List Note}
      (serving : Serving subscriber notifications notes result)
      (giving : Giving notifications rest others after) :
      Giving notifications (subscriber :: rest) (notes ++ others) (result.toList ++ after)

namespace Serving

variable {subscriber : Subscriber} {notifications : List Notification} {notes : List Note}
  {result : Option Subscriber}

theorem serves (serving : Serving subscriber notifications notes result) :
    Audience.Serves subscriber notifications result := by
  induction serving with
  | done subscriber => exact .done subscriber
  | send isOpen serving induction => exact .send isOpen induction
  | refuse notification rest isClosed => exact .refuse notification rest isClosed
  | take count serving induction => exact .take count induction
  | close serving induction => exact .close induction

theorem isOf (serving : Serving subscriber notifications notes result) :
    ∀ note ∈ notes, note.IsOf subscriber.id := by
  induction serving with
  | done => exact List.forall_mem_nil _
  | send isOpen serving induction => exact induction
  | refuse => exact List.forall_mem_nil _
  | take count serving induction => exact List.forall_mem_cons.2 ⟨.took _, induction⟩
  | close serving induction => exact List.forall_mem_cons.2 ⟨.closed, induction⟩

theorem same (serving : Serving subscriber notifications notes result) :
    ∀ later ∈ result, later.id = subscriber.id := by
  induction serving with
  | done subscriber =>
      rintro later ⟨⟩
      rfl
  | send isOpen serving induction => exact induction
  | refuse => nofun
  | take count serving induction => exact induction
  | close serving induction => exact induction

/-- Who is open and does not close while it is served gets the whole list. -/
theorem keeps (serving : Serving subscriber notifications notes result)
    (isOpen : subscriber.isOpen = true) (stays : .closed subscriber.id ∉ notes) :
    ∃ later, result = some later ∧ later.isOpen = true ∧
      subscriber.queue ++ notifications = takenBy subscriber.id notes ++ later.queue := by
  induction serving with
  | done subscriber => exact ⟨subscriber, rfl, isOpen, List.append_nil _⟩
  | @send subscriber notification rest notes result _ serving induction =>
      obtain ⟨later, equal, still, account⟩ := induction isOpen stays
      refine ⟨later, equal, still, ?_⟩
      rw [← account, List.append_assoc, List.singleton_append]
  | refuse notification rest isClosed =>
      rw [isOpen] at isClosed
      cases isClosed
  | @take subscriber notifications notes result count serving induction =>
      obtain ⟨later, equal, still, account⟩ :=
        induction isOpen (List.not_mem_of_not_mem_cons stays)
      refine ⟨later, equal, still, ?_⟩
      have own : takenBy subscriber.id
          (.took subscriber.id (subscriber.queue.take count) :: notes) =
            subscriber.queue.take count ++ takenBy subscriber.id notes := by
        simp [takenBy, Note.taken]
      rw [own, List.append_assoc, ← account, ← List.append_assoc, List.take_append_drop]
  | close => exact absurd List.mem_cons_self stays

end Serving

/-- Whatever comes of a subscriber that is served can be noted. -/
theorem exists_serving {subscriber : Subscriber} {notifications : List Notification}
    {result : Option Subscriber}
    (serves : Audience.Serves subscriber notifications result) :
    ∃ notes, Serving subscriber notifications notes result := by
  induction serves with
  | done subscriber => exact ⟨[], .done subscriber⟩
  | send isOpen serves induction =>
      obtain ⟨notes, serving⟩ := induction
      exact ⟨notes, .send isOpen serving⟩
  | refuse notification rest isClosed => exact ⟨[], .refuse notification rest isClosed⟩
  | take count serves induction =>
      obtain ⟨notes, serving⟩ := induction
      exact ⟨_, .take count serving⟩
  | close serves induction =>
      obtain ⟨notes, serving⟩ := induction
      exact ⟨_, .close serving⟩

theorem exists_giving {notifications : List Notification} {before after : List Subscriber}
    (gives : Audience.Gives notifications before after) :
    ∃ notes, Giving notifications before notes after := by
  induction gives with
  | nil => exact ⟨[], .nil⟩
  | kept serves gives induction =>
      obtain ⟨notes, serving⟩ := exists_serving serves
      obtain ⟨others, giving⟩ := induction
      exact ⟨notes ++ others, .cons serving giving⟩
  | dropped serves gives induction =>
      obtain ⟨notes, serving⟩ := exists_serving serves
      obtain ⟨others, giving⟩ := induction
      exact ⟨notes ++ others, .cons serving giving⟩

namespace Giving

variable {notifications : List Notification} {before after : List Subscriber}
  {notes : List Note}

theorem gives (giving : Giving notifications before notes after) :
    Audience.Gives notifications before after := by
  induction giving with
  | nil => exact .nil
  | @cons subscriber result rest after notes others serving giving induction =>
      cases result with
      | none => exact .dropped serving.serves induction
      | some later => exact .kept serving.serves induction

theorem isOf (giving : Giving notifications before notes after) :
    ∀ note ∈ notes, ∃ subscriber ∈ before, note.IsOf subscriber.id := by
  induction giving with
  | nil => exact List.forall_mem_nil _
  | @cons subscriber result rest after notes others serving giving induction =>
      intro note member
      rcases List.mem_append.1 member with own | other
      · exact ⟨subscriber, List.mem_cons_self, serving.isOf note own⟩
      · obtain ⟨another, present, of⟩ := induction note other
        exact ⟨another, List.mem_cons_of_mem _ present, of⟩

theorem sublist (giving : Giving notifications before notes after) :
    (after.map (·.id)).Sublist (before.map (·.id)) := by
  induction giving with
  | nil => exact List.Sublist.refl _
  | @cons subscriber result rest after notes others serving giving induction =>
      cases result with
      | none => exact induction.cons _
      | some later =>
          rw [Option.toList_some, List.singleton_append, List.map_cons, List.map_cons,
            serving.same later rfl]
          exact induction.cons_cons _

/-- Who is open and does not close while the list is gone through gets all of it. -/
theorem keeps (giving : Giving notifications before notes after)
    (distinct : Distinct before) {subscriber : Subscriber} (member : subscriber ∈ before)
    (isOpen : subscriber.isOpen = true) (stays : .closed subscriber.id ∉ notes) :
    ∃ later ∈ after, later.id = subscriber.id ∧ later.isOpen = true ∧
      subscriber.queue ++ notifications = takenBy subscriber.id notes ++ later.queue := by
  induction giving with
  | nil => cases member
  | @cons first result rest after notes others serving giving induction =>
      obtain ⟨apart, distinct⟩ := List.nodup_cons.1 distinct
      rw [List.mem_append, not_or] at stays
      rw [takenBy_append]
      rcases List.mem_cons.1 member with rfl | member
      · obtain ⟨later, rfl, still, account⟩ := serving.keeps isOpen stays.1
        refine ⟨later, List.mem_append_left _ (List.mem_singleton.2 rfl),
          serving.same later rfl, still, ?_⟩
        have none : takenBy subscriber.id others = [] := by
          apply takenBy_of_isOf
          intro note noted
          obtain ⟨other, present, of⟩ := giving.isOf note noted
          refine ⟨other.id, ?_, of⟩
          intro equal
          exact apart (List.mem_map.2 ⟨other, present, equal⟩)
        rw [none, List.append_nil, account]
      · obtain ⟨later, present, same, still, account⟩ := induction distinct member stays.2
        refine ⟨later, List.mem_append_right _ present, same, still, ?_⟩
        have none : takenBy subscriber.id notes = [] := by
          apply takenBy_of_isOf
          intro note noted
          refine ⟨first.id, ?_, serving.isOf note noted⟩
          intro equal
          exact apart (List.mem_map.2 ⟨subscriber, member, equal.symm⟩)
        rw [none, List.nil_append, account]

end Giving

/-! ## All that can happen to the list -/

/-- What can happen to the list of subscribers, and what is noted of it. -/
inductive Affects : List Subscriber → List Note → List Subscriber → Prop where
  | aside {subscribers : List Subscriber} {notes : List Note}
      (quiet : ∀ note ∈ notes, note.isQuiet = true) : Affects subscribers notes subscribers
  | pruned (subscribers : List Subscriber) :
      Affects subscribers [] (subscribers.filter (·.isOpen))
  /-- Something is given to all at once. -/
  | handed (subscribers : List Subscriber) {note : Note}
      (nobody : ∀ id, note.taken id = []) :
      Affects subscribers [note] (subscribers.filterMap (Audience.give note.given))
  | gave {notifications : List Notification} {before after : List Subscriber}
      {notes : List Note} (giving : Giving notifications before notes after) :
      Affects before (notes ++ [.shown (.gave notifications before after)]) after
  | enlisted {subscribers : List Subscriber} {id : Nat}
      (fresh : id ∉ subscribers.map (·.id)) :
      Affects subscribers [.enlisted id] (subscribers ++ [⟨id, true, []⟩])
  | took {subscribers : List Subscriber} {subscriber : Subscriber}
      (member : subscriber ∈ subscribers) (count : Nat) :
      Affects subscribers [.took subscriber.id (subscriber.queue.take count)]
        (subscribers.map fun other =>
          if other.id = subscriber.id then { other with queue := other.queue.drop count }
          else other)
  | closed (subscribers : List Subscriber) (id : Nat) :
      Affects subscribers [.closed id]
        (subscribers.map fun other =>
          if other.id = id then { other with isOpen := false, queue := [] } else other)

/-- Giving to all leaves each one its number. -/
theorem sublist_give (notifications : List Notification) (subscribers : List Subscriber) :
    ((subscribers.filterMap (Audience.give notifications)).map (·.id)).Sublist
      (subscribers.map (·.id)) := by
  obtain ⟨notes, giving⟩ := exists_giving (Audience.gives_handOver notifications subscribers)
  exact giving.sublist

theorem map_id_of_same {subscribers : List Subscriber} {change : Subscriber → Subscriber}
    (same : ∀ subscriber, (change subscriber).id = subscriber.id) :
    (subscribers.map change).map (·.id) = subscribers.map (·.id) := by
  rw [List.map_map]
  exact List.map_congr_left fun subscriber _ => same subscriber

namespace Affects

variable {before after : List Subscriber} {notes : List Note}

/-- No two subscribers come to have the same number. -/
theorem distinct (affects : Affects before notes after) (distinct : Distinct before) :
    Distinct after := by
  cases affects with
  | aside quiet => exact distinct
  | pruned => exact (List.filter_sublist.map _).nodup distinct
  | handed subscribers nobody => exact (sublist_give _ _).nodup distinct
  | gave giving => exact giving.sublist.nodup distinct
  | enlisted fresh =>
      rw [Distinct, List.map_append, List.nodup_append]
      refine ⟨distinct, List.nodup_singleton _, ?_⟩
      intro number member other present equal
      rw [equal, List.mem_singleton.1 present] at member
      exact fresh member
  | took member count =>
      rw [Distinct, map_id_of_same]
      · exact distinct
      · intro other
        split_ifs <;> rfl
  | closed id =>
      rw [Distinct, map_id_of_same]
      · exact distinct
      · intro other
        split_ifs <;> rfl

/-- Whatever happens to the list, who stays open stays on it and its account is in order. -/
theorem keeps (affects : Affects before notes after) (distinct : Distinct before) :
    Keeps before notes after := by
  intro subscriber member isOpen stays
  cases affects with
  | aside quiet => exact ⟨subscriber, member, .of_quiet isOpen quiet⟩
  | pruned =>
      exact ⟨subscriber, List.mem_filter.2 ⟨member, isOpen⟩,
        .of_quiet isOpen (List.forall_mem_nil _)⟩
  | @handed _ note nobody =>
      refine ⟨{ subscriber with queue := subscriber.queue ++ note.given },
        List.mem_filterMap.2 ⟨subscriber, member, if_pos isOpen⟩, rfl, isOpen, ?_⟩
      simp [givenIn, takenBy, nobody]
  | @gave notifications _ _ notes giving =>
      rw [List.mem_append, not_or] at stays
      obtain ⟨later, present, same, still, account⟩ :=
        giving.keeps distinct member isOpen stays.1
      refine ⟨later, present, same, still, ?_⟩
      have silent : givenIn notes = [] := by
        apply givenIn_of_isOf
        intro note noted
        obtain ⟨other, -, of⟩ := giving.isOf note noted
        exact ⟨other.id, of⟩
      rw [givenIn_append, takenBy_append, silent]
      simpa [givenIn, takenBy, Note.given, Note.taken] using account
  | enlisted fresh =>
      refine ⟨subscriber, List.mem_append_left _ member, .of_quiet isOpen ?_⟩
      exact List.forall_mem_singleton.2 rfl
  | @took _ other present count =>
      refine ⟨_, List.mem_map_of_mem member, ?_⟩
      split_ifs with own
      · obtain rfl := distinct.eq member present own
        refine ⟨rfl, isOpen, ?_⟩
        simp [givenIn, takenBy, Note.given, Note.taken]
      · refine ⟨rfl, isOpen, ?_⟩
        simp [givenIn, takenBy, Note.given, Note.taken, Ne.symm own]
  | closed _ id =>
      have other : subscriber.id ≠ id := by
        rintro rfl
        exact stays List.mem_cons_self
      refine ⟨_, List.mem_map_of_mem member, ?_⟩
      rw [if_neg other]
      exact .of_quiet isOpen (List.forall_mem_singleton.2 rfl)

end Affects

end TokenRelay.Gateway
