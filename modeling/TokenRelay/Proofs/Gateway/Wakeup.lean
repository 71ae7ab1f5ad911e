import TokenRelay.Proofs.Gateway.HandOver

/-!
# No announcement is missed

A hand-over that finds nobody waits for the next announcement.  Meanwhile any number of tasks
subscribe, each in steps of its own: it puts a subscriber on the list, announces it and
returns.  Subscribers close at any time, also while the list is gone through, and others give
receipts to all.  A `Room` is all of this together, and `Room.Step` leaves open who goes on.

The order of the steps is what matters.  The hand-over registers before it counts, and the list
is empty when it begins to wait; whoever comes onto the list later is announced later, and that
announcement is not yet made as long as the hand-over is blocked (`Room.Attentive`).  So a
hand-over is never blocked while somebody is there whose call has returned.
-/

namespace TokenRelay

namespace Audience

/-- What comes of a subscriber whose queue is looked at, while it may close. -/
inductive Looks : Subscriber → Option Subscriber → Prop where
  | there {subscriber : Subscriber} (isOpen : subscriber.isOpen = true) :
      Looks subscriber (some subscriber)
  | gone {subscriber : Subscriber} (isClosed : subscriber.isOpen = false) :
      Looks subscriber none
  | before {subscriber : Subscriber} {result : Option Subscriber}
      (looks : Looks subscriber.closed result) : Looks subscriber result
  | after {subscriber later : Subscriber} (looks : Looks subscriber (some later)) :
      Looks subscriber (some later.closed)

/-- What may be left of a list that those who are closed are taken off. -/
inductive Counts : List Subscriber → List Subscriber → Prop where
  | nil : Counts [] []
  | cons {subscriber : Subscriber} {result : Option Subscriber} {rest after : List Subscriber}
      (looks : Looks subscriber result) (counts : Counts rest after) :
      Counts (subscriber :: rest) (result.toList ++ after)

/-- That whoever is open on a later list was open on the earlier one. -/
def Stems (before after : List Subscriber) : Prop :=
  ∀ later ∈ after, later.isOpen = true →
    ∃ subscriber ∈ before, subscriber.id = later.id ∧ subscriber.isOpen = true

theorem Serves.origin {subscriber later : Subscriber} {notifications : List Notification}
    (serves : Serves subscriber notifications (some later)) :
    subscriber.id = later.id ∧ (later.isOpen = true → subscriber.isOpen = true) := by
  generalize outcome : some later = result at serves
  induction serves with
  | done subscriber =>
      obtain rfl := Option.some.inj outcome
      exact ⟨rfl, id⟩
  | send isOpen serves induction => exact ⟨(induction outcome).1, fun _ => isOpen⟩
  | refuse => cases outcome
  | take count serves induction => exact induction outcome
  | close serves induction =>
      obtain ⟨same, still⟩ := induction outcome
      exact ⟨same, fun isOpen => absurd (still isOpen) Bool.false_ne_true⟩

/-- Giving puts nobody on the list, and nobody opens again. -/
theorem Gives.stems {notifications : List Notification} {before after : List Subscriber}
    (gives : Gives notifications before after) : Stems before after := by
  induction gives with
  | nil => exact List.forall_mem_nil _
  | @kept subscriber later rest after serves gives induction =>
      refine List.forall_mem_cons.2 ⟨fun isOpen => ?_, fun other member isOpen => ?_⟩
      · obtain ⟨same, was⟩ := serves.origin
        exact ⟨subscriber, List.mem_cons_self, same, was isOpen⟩
      · obtain ⟨earlier, present, same, was⟩ := induction other member isOpen
        exact ⟨earlier, List.mem_cons_of_mem _ present, same, was⟩
  | dropped serves gives induction =>
      intro other member isOpen
      obtain ⟨earlier, present, same, was⟩ := induction other member isOpen
      exact ⟨earlier, List.mem_cons_of_mem _ present, same, was⟩

theorem stems_close (id : Nat) (audience : Audience) :
    Stems audience.subscribers (audience.close id).subscribers := by
  intro later member isOpen
  obtain ⟨subscriber, present, rfl⟩ := List.mem_map.1 member
  split_ifs at isOpen ⊢
  exact ⟨subscriber, present, rfl, isOpen⟩

end Audience

/-- Where a call of a task that subscribes stands. -/
inductive Attaching where
  | unmade
  | begun
  /-- Its subscriber is on the list. -/
  | listed
  /-- Its subscriber is announced. -/
  | returned
  deriving DecidableEq

/-- A hand-over, its audience, and the calls of those who subscribe, each for one subscriber. -/
structure Room where
  waiter : HandOver
  audience : Audience
  calls : Nat → Attaching

namespace Room

/-- One step of the hand-over or of somebody else. -/
inductive Step : Room → Room → Prop where
  | waiter {room : Room} {waiter : HandOver} {audience : Audience}
      (steps : room.waiter.step room.audience = some (waiter, audience)) :
      Step room { room with waiter := waiter, audience := audience }
  /-- The hand-over counts while subscribers close. -/
  | count {room : Room} {ticket : Nat} {after : List Subscriber}
      (counting : room.waiter.stage = .count ticket)
      (counts : Audience.Counts room.audience.subscribers after) :
      Step room { room with
        waiter := { room.waiter with stage := if after.isEmpty then .wait ticket else .give }
        audience := { room.audience with subscribers := after } }
  /-- The hand-over gives while subscribers take and close. -/
  | give {room : Room} {after : List Subscriber} (giving : room.waiter.stage = .give)
      (gives : Audience.Gives room.waiter.notifications room.audience.subscribers after) :
      Step room { room with
        waiter := { room.waiter with stage := if after.isEmpty then .register else .finished }
        audience := { room.audience with subscribers := after } }
  | begin {room : Room} (id : Nat) (unmade : room.calls id = .unmade) :
      Step room { room with calls := Function.update room.calls id .begun }
  | enlist {room : Room} (id : Nat) (begun : room.calls id = .begun) :
      Step room { room with
        audience := room.audience.enlist id
        calls := Function.update room.calls id .listed }
  | announce {room : Room} (id : Nat) (listed : room.calls id = .listed) :
      Step room { room with
        audience := room.audience.announce
        calls := Function.update room.calls id .returned }
  | close {room : Room} (id : Nat) : Step room { room with audience := room.audience.close id }
  /-- Others give something to all who are there. -/
  | receipt {room : Room} {notifications : List Notification} {after : List Subscriber}
      (gives : Audience.Gives notifications room.audience.subscribers after) :
      Step room { room with audience := { room.audience with subscribers := after } }

/-- That the hand-over is not finished and can make no step. -/
def Blocked (room : Room) : Prop :=
  room.waiter.step room.audience = none ∧ room.waiter.isFinished = false

/-- A hand-over is blocked exactly if it waits and nobody was announced since it registered. -/
theorem blocked_iff (room : Room) :
    room.Blocked ↔
      ∃ ticket, room.waiter.stage = .wait ticket ∧ room.audience.announced ≤ ticket := by
  obtain ⟨⟨notifications, stage⟩, audience, calls⟩ := room
  cases stage with
  | register => simp [Blocked, HandOver.step]
  | count ticket =>
      simp only [Blocked, HandOver.step, reduceCtorEq, false_and, exists_false, iff_false,
        not_and]
      split_ifs <;> nofun
  | wait ticket => simp [Blocked, HandOver.step, HandOver.isFinished]
  | give =>
      simp only [Blocked, HandOver.step, reduceCtorEq, false_and, exists_false, iff_false,
        not_and]
      split_ifs <;> nofun
  | finished => simp [Blocked, HandOver.isFinished]

/-! ## The invariant -/

/-- What a hand-over knows that has registered: no announcement since then is overlooked, and
while it is blocked everybody who is there has still to be announced. -/
structure Attentive (room : Room) : Prop where
  counting : ∀ ticket, room.waiter.stage = .count ticket → ticket ≤ room.audience.announced
  waiting : ∀ ticket, room.waiter.stage = .wait ticket → ticket ≤ room.audience.announced
  unannounced : room.Blocked → ∀ subscriber ∈ room.audience.subscribers,
    subscriber.isOpen = true → room.calls subscriber.id = .listed

variable {room next : Room}

/-- Nothing is to be known where the hand-over neither counts nor waits. -/
theorem attentive_of_stage (noCount : ∀ ticket, room.waiter.stage ≠ .count ticket)
    (noWait : ∀ ticket, room.waiter.stage ≠ .wait ticket) : room.Attentive where
  counting := fun ticket counting => absurd counting (noCount ticket)
  waiting := fun ticket waiting => absurd waiting (noWait ticket)
  unannounced := by
    intro blocked
    obtain ⟨ticket, waiting, -⟩ := (blocked_iff room).1 blocked
    exact absurd waiting (noWait ticket)

/-- A hand-over that has counted waits only if nobody is left on the list. -/
theorem attentive_of_counted {ticket : Nat} (subscribers : List Subscriber)
    (counted : room.waiter.stage = if subscribers.isEmpty then .wait ticket else .give)
    (left : room.audience.subscribers = subscribers)
    (registered : ticket ≤ room.audience.announced) : room.Attentive := by
  cases subscribers with
  | nil =>
      have waits : room.waiter.stage = .wait ticket := counted
      refine ⟨fun other counting => ?_, fun other waiting => ?_, fun _ subscriber member => ?_⟩
      · rw [waits] at counting
        cases counting
      · rw [waits, HandOver.Stage.wait.injEq] at waiting
        exact waiting ▸ registered
      · rw [left] at member
        cases member
  | cons subscriber rest =>
      have gives : room.waiter.stage = .give := counted
      exact attentive_of_stage (fun ticket => by rw [gives]; nofun)
        fun ticket => by rw [gives]; nofun

/-- Nothing that only changes the list, and puts nobody on it, escapes a hand-over. -/
theorem Attentive.of_stems (attentive : room.Attentive) {audience : Audience}
    (stems : Audience.Stems room.audience.subscribers audience.subscribers)
    (same : audience.announced = room.audience.announced) :
    Attentive { room with audience := audience } where
  counting := fun ticket counting => same ▸ attentive.counting ticket counting
  waiting := fun ticket waiting => same ▸ attentive.waiting ticket waiting
  unannounced := by
    intro blocked later member isOpen
    obtain ⟨ticket, waiting, none⟩ := (blocked_iff _).1 blocked
    obtain ⟨subscriber, present, equal, was⟩ := stems later member isOpen
    rw [← equal]
    exact attentive.unannounced ((blocked_iff room).2 ⟨ticket, waiting, same ▸ none⟩)
      subscriber present was

theorem Attentive.waiter (attentive : room.Attentive) {waiter : HandOver} {audience : Audience}
    (steps : room.waiter.step room.audience = some (waiter, audience)) :
    Attentive { room with waiter := waiter, audience := audience } := by
  obtain ⟨⟨notifications, stage⟩, before, calls⟩ := room
  cases stage with
  | register =>
      obtain ⟨rfl, rfl⟩ := by simpa [HandOver.step] using steps
      refine ⟨fun ticket counting => ?_, nofun, fun blocked => ?_⟩
      · obtain rfl := HandOver.Stage.count.inj counting
        exact le_rfl
      · obtain ⟨ticket, impossible, -⟩ := (blocked_iff _).1 blocked
        cases impossible
  | count ticket =>
      have registered := attentive.counting ticket rfl
      simp only [HandOver.step, Audience.size, List.length_eq_zero_iff] at steps
      split_ifs at steps with nobody
      · obtain ⟨rfl, rfl⟩ := by simpa using steps
        exact attentive_of_counted [] rfl nobody registered
      · obtain ⟨rfl, rfl⟩ := by simpa using steps
        exact attentive_of_stage nofun nofun
  | wait ticket =>
      simp only [HandOver.step] at steps
      split_ifs at steps
      obtain ⟨rfl, rfl⟩ := by simpa using steps
      exact attentive_of_stage nofun nofun
  | give =>
      simp only [HandOver.step] at steps
      split_ifs at steps
      · obtain ⟨rfl, rfl⟩ := by simpa using steps
        exact attentive_of_stage nofun nofun
      · obtain ⟨rfl, rfl⟩ := by simpa using steps
        exact attentive_of_stage nofun nofun
  | finished => simp [HandOver.step] at steps

/-- An announcement frees a hand-over that waits. -/
theorem Attentive.announce (attentive : room.Attentive) (calls : Nat → Attaching) :
    ¬ Blocked { room with audience := room.audience.announce, calls := calls } := by
  intro blocked
  obtain ⟨ticket, waiting, none⟩ := (blocked_iff _).1 blocked
  exact absurd (attentive.waiting ticket waiting) (Nat.not_le.2 none)

/-- No step escapes a hand-over. -/
theorem Attentive.step (attentive : room.Attentive) (step : Step room next) :
    next.Attentive := by
  cases step with
  | waiter steps => exact attentive.waiter steps
  | count counting counts =>
      exact attentive_of_counted _ rfl rfl (attentive.counting _ counting)
  | @give after giving gives =>
      refine attentive_of_stage (fun ticket => ?_) fun ticket => ?_
      · cases after.isEmpty <;> nofun
      · cases after.isEmpty <;> nofun
  | begin id unmade =>
      refine ⟨attentive.counting, attentive.waiting, fun blocked subscriber member isOpen => ?_⟩
      have listed := attentive.unannounced blocked subscriber member isOpen
      have other : subscriber.id ≠ id := by
        rintro rfl
        rw [unmade] at listed
        cases listed
      exact (Function.update_of_ne other _ _).trans listed
  | enlist id begun =>
      refine ⟨attentive.counting, attentive.waiting, fun blocked subscriber member isOpen => ?_⟩
      have already : room.Blocked := by
        obtain ⟨ticket, waiting, none⟩ := (blocked_iff _).1 blocked
        exact (blocked_iff room).2 ⟨ticket, waiting, none⟩
      by_cases own : subscriber.id = id
      · exact own ▸ Function.update_self ..
      · rcases List.mem_append.1 member with old | new
        · exact (Function.update_of_ne own _ _).trans
            (attentive.unannounced already subscriber old isOpen)
        · exact absurd (congrArg Subscriber.id (List.mem_singleton.1 new)) own
  | announce id listed =>
      refine ⟨fun ticket counting => ?_, fun ticket waiting => ?_, fun blocked => ?_⟩
      · exact (attentive.counting ticket counting).trans (Nat.le_succ _)
      · exact (attentive.waiting ticket waiting).trans (Nat.le_succ _)
      · exact absurd blocked (attentive.announce _)
  | close id => exact attentive.of_stems (Audience.stems_close id _) rfl
  | receipt gives => exact attentive.of_stems gives.stems rfl

theorem attentive_of_reaches {start : Room} (registering : start.waiter.stage = .register)
    (reaches : Relation.ReflTransGen Step start room) : room.Attentive := by
  induction reaches with
  | refl =>
      exact attentive_of_stage (fun ticket => by rw [registering]; nofun)
        fun ticket => by rw [registering]; nofun
  | tail _ step induction => exact induction.step step

/-- In whatever order a hand-over, those who subscribe and those who close take their steps:
it is never blocked while somebody is there and every call has returned.  Where it is blocked,
whoever is there is on the list by a call that has still to announce it, and this frees it. -/
theorem no_lost_wakeup {start : Room} (registering : start.waiter.stage = .register)
    (reaches : Relation.ReflTransGen Step start room) :
    ((∃ subscriber ∈ room.audience.subscribers, subscriber.isOpen = true) →
      (∀ id, room.calls id = .unmade ∨ room.calls id = .returned) → ¬ room.Blocked) ∧
    (room.Blocked → ∀ subscriber ∈ room.audience.subscribers, subscriber.isOpen = true →
      room.calls subscriber.id = .listed ∧
      ∃ freed, Step room freed ∧ freed.calls subscriber.id = .returned ∧ ¬ freed.Blocked) := by
  have attentive := attentive_of_reaches registering reaches
  refine ⟨?_, fun blocked subscriber member isOpen => ?_⟩
  · rintro ⟨subscriber, member, isOpen⟩ returned blocked
    have listed := attentive.unannounced blocked subscriber member isOpen
    rcases returned subscriber.id with unmade | returned
    · cases listed.symm.trans unmade
    · cases listed.symm.trans returned
  · have listed := attentive.unannounced blocked subscriber member isOpen
    exact ⟨listed, _, .announce _ listed, Function.update_self .., attentive.announce _⟩

/-- A hand-over finds nobody and waits; one who subscribes then, and has returned, frees it. -/
theorem no_lost_wakeup_of_late :
    let start : Room := ⟨.ofList [], .empty, fun _ => .unmade⟩
    ∃ listed room, Relation.ReflTransGen Step start listed ∧ listed.Blocked ∧
      listed.calls 7 = .listed ∧ Step listed room ∧ room.waiter.stage = .wait 0 ∧
      (∃ subscriber ∈ room.audience.subscribers, subscriber.isOpen = true) ∧
      ¬ room.Blocked := by
  intro start
  have registered : Relation.ReflTransGen Step start _ := .single (.waiter rfl)
  have counted := registered.tail (.waiter rfl)
  have begun := counted.tail (.begin 7 rfl)
  have listed := begun.tail (.enlist 7 rfl)
  have announced := listed.tail (.announce 7 rfl)
  have present : ∃ subscriber ∈ [Subscriber.mk 7 true []], subscriber.isOpen = true :=
    ⟨_, List.mem_singleton.2 rfl, rfl⟩
  refine ⟨_, _, listed, (blocked_iff _).2 ⟨0, rfl, le_rfl⟩, rfl, .announce 7 rfl, rfl, present, ?_⟩
  refine (no_lost_wakeup rfl announced).1 present fun id => ?_
  rcases eq_or_ne id 7 with rfl | other
  · exact .inr rfl
  · refine .inl ?_
    simp only [Function.update_of_ne other, start]

end Room

end TokenRelay
