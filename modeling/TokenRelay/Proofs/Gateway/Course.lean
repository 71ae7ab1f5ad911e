import TokenRelay.Proofs.Gateway.Turn

/-!
# The course of a batch

A course is what a pump shows over one batch, from taking it to acknowledging it, with all
that its passes did.  Its rules leave only two ways to the end: a pass in which no lookup
failed gave nothing, or what such a pass gave was handed over whole to somebody who was
there.

All that a run of a gateway shows of its pump is finished courses of the first batches
that it received, in order, and at most one that is unfinished, of the next batch.
-/

namespace TokenRelay.Gateway

open Audience (HandedOver handedOver_of_gives)

variable {μ : Type}

/-- How far the course of one batch has come. -/
inductive Stage where
  /-- A pass is made, or will be after a delay; this it has done. -/
  | passing (deeds : List Deed)
  /-- The notifications of a pass are held. -/
  | holding (notifications : List Notification)
  /-- The notifications of a pass were given to somebody. -/
  | handedOver (notifications : List Notification)
  | finished

/-- What a pump shows over a batch, up to a stage. -/
inductive Course (gateway : Gateway μ) (batch : Batch) : Stage → List Event → Prop where
  | took : Course gateway batch (.passing []) [.took batch]
  | did {deeds : List Deed} {events : List Event} (more : List Deed)
      (course : Course gateway batch (.passing deeds) events) :
      Course gateway batch (.passing (deeds ++ more)) (events ++ more.map .did)
  | failed {deeds : List Deed} {events : List Event} {error : BridgeError}
      (course : Course gateway batch (.passing deeds) events)
      (fails : Fails gateway batch deeds error) :
      Course gateway batch (.passing []) (events ++ [.failed error])
  | passed {deeds : List Deed} {events : List Event} {notifications : List Notification}
      (course : Course gateway batch (.passing deeds) events)
      (passes : Passes gateway batch deeds notifications) :
      Course gateway batch (.holding notifications) (events ++ [.passed notifications])
  | missed {notifications : List Notification} {events : List Event}
      (before : List Subscriber)
      (course : Course gateway batch (.holding notifications) events) :
      Course gateway batch (.holding notifications)
        (events ++ [.gave notifications before []])
  | gave {notifications : List Notification} {events : List Event}
      {before after : List Subscriber}
      (course : Course gateway batch (.holding notifications) events)
      (handed : HandedOver notifications before after) :
      Course gateway batch (.handedOver notifications)
        (events ++ [.gave notifications before after])
  | acknowledgedNothing {events : List Event}
      (course : Course gateway batch (.holding []) events) :
      Course gateway batch .finished (events ++ [.acknowledged])
  | acknowledged {notifications : List Notification} {events : List Event}
      (course : Course gateway batch (.handedOver notifications) events) :
      Course gateway batch .finished (events ++ [.acknowledged])

/-- Whether a pass begins with an event: its batch was taken, or the pass before failed. -/
def Event.beginsPass : Event → Bool
  | .took _ => true
  | .failed _ => true
  | _ => false

/-- That the events end with what a pass has done from its beginning on. -/
def PassShown (deeds : List Deed) (events : List Event) : Prop :=
  ∃ earlier first, first.beginsPass = true ∧ events = earlier ++ first :: deeds.map .did

/-- That a list is what a pass came to in which no lookup failed, and which the events show
from its beginning to its end. -/
def PassedIn (gateway : Gateway μ) (batch : Batch) (events : List Event)
    (notifications : List Notification) : Prop :=
  ∃ deeds earlier rest, Passes gateway batch deeds notifications ∧ PassShown deeds earlier ∧
    events = earlier ++ .passed notifications :: rest

/-- A complete pass gave nothing, or what it gave was handed over. -/
def Settled (gateway : Gateway μ) (batch : Batch) (events : List Event) : Prop :=
  ∃ notifications, PassedIn gateway batch events notifications ∧
    (notifications = [] ∨ ∃ before after, HandedOver notifications before after ∧
      .gave notifications before after ∈ events)

/-- What is known at each stage of a course. -/
def Stage.Holds (gateway : Gateway μ) (batch : Batch) (events : List Event) :
    Stage → Prop
  | .passing deeds => PassShown deeds events
  | .holding notifications => PassedIn gateway batch events notifications
  | .handedOver notifications => PassedIn gateway batch events notifications ∧
      ∃ before after, HandedOver notifications before after ∧
        .gave notifications before after ∈ events
  | .finished => Settled gateway batch events

theorem PassShown.append {deeds : List Deed} {events : List Event}
    (shown : PassShown deeds events) (more : List Deed) :
    PassShown (deeds ++ more) (events ++ more.map .did) := by
  obtain ⟨earlier, first, begins, rfl⟩ := shown
  refine ⟨earlier, first, begins, ?_⟩
  rw [List.map_append, List.append_assoc, List.cons_append]

theorem PassedIn.append {gateway : Gateway μ} {batch : Batch} {events : List Event}
    {notifications : List Notification}
    (passed : PassedIn gateway batch events notifications) (more : List Event) :
    PassedIn gateway batch (events ++ more) notifications := by
  obtain ⟨deeds, earlier, rest, passes, shown, rfl⟩ := passed
  refine ⟨deeds, earlier, rest ++ more, passes, shown, ?_⟩
  rw [List.append_assoc, List.cons_append]

theorem Course.holds {gateway : Gateway μ} {batch : Batch} {stage : Stage}
    {events : List Event} (course : Course gateway batch stage events) :
    stage.Holds gateway batch events := by
  induction course with
  | took => exact ⟨[], .took batch, rfl, rfl⟩
  | did more course induction => exact PassShown.append induction more
  | @failed deeds events error =>
      exact ⟨events, .failed error, rfl, rfl⟩
  | @passed deeds events notifications _ passes induction =>
      exact ⟨deeds, events, [], passes, induction, rfl⟩
  | missed before course induction => exact PassedIn.append induction _
  | @gave notifications events before after course handed induction =>
      exact ⟨PassedIn.append induction _, before, after, handed,
        List.mem_append_right _ (List.mem_singleton.2 rfl)⟩
  | acknowledgedNothing course induction =>
      exact ⟨[], PassedIn.append induction _, .inl rfl⟩
  | @acknowledged notifications events course induction =>
      obtain ⟨passed, before, after, handed, gave⟩ := induction
      exact ⟨notifications, passed.append _,
        .inr ⟨before, after, handed, List.mem_append_left _ gave⟩⟩

/-- Events in which nothing is given leave what was known of all that was given before. -/
theorem PassedIn.of_append {gateway : Gateway μ} {batch : Batch} {events more : List Event}
    {notifications : List Notification} {before after : List Subscriber}
    (known : .gave notifications before after ∈ events →
      PassedIn gateway batch events notifications)
    (quiet : .gave notifications before after ∉ more)
    (gave : .gave notifications before after ∈ events ++ more) :
    PassedIn gateway batch (events ++ more) notifications :=
  (known ((List.mem_append.1 gave).resolve_right quiet)).append more

/-- Whatever is given in a course comes from a pass in which no lookup failed. -/
theorem Course.passedIn_of_gave {gateway : Gateway μ} {batch : Batch} {stage : Stage}
    {events : List Event} {notifications : List Notification}
    {before after : List Subscriber} (course : Course gateway batch stage events)
    (gave : .gave notifications before after ∈ events) :
    PassedIn gateway batch events notifications := by
  induction course with
  | took => simp at gave
  | did more course induction => exact .of_append induction (by simp) gave
  | failed course fails induction => exact .of_append induction (by simp) gave
  | passed course passes induction => exact .of_append induction (by simp) gave
  | missed _ course induction =>
      rcases List.mem_append.1 gave with old | new
      · exact (induction old).append _
      · obtain ⟨rfl, -, -⟩ := by simpa using new
        exact PassedIn.append course.holds _
  | gave course handed induction =>
      rcases List.mem_append.1 gave with old | new
      · exact (induction old).append _
      · obtain ⟨rfl, -, -⟩ := by simpa using new
        exact PassedIn.append course.holds _
  | acknowledgedNothing course induction => exact .of_append induction (by simp) gave
  | acknowledged course induction => exact .of_append induction (by simp) gave

/-! ## What a log tells -/

namespace Event

/-- Whether an event is one of the part that serves batches. -/
def isPump : Event → Bool
  | .received _ => false
  | _ => true

/-- Whether an event stands within a course, neither at its beginning nor at its end. -/
def isInner : Event → Bool
  | .received _ => false
  | .took _ => false
  | .acknowledged => false
  | _ => true

def received? : Event → Option Batch
  | .received batch => some batch
  | _ => none

def taken? : Event → Option Batch
  | .took batch => some batch
  | _ => none

def isAcknowledgement : Event → Bool
  | .acknowledged => true
  | _ => false

end Event

/-- The batches of a log in the order of their arrival. -/
def received (log : List Event) : List Batch :=
  log.filterMap Event.received?

/-- The batches of a log in the order in which they were taken. -/
def taken (log : List Event) : List Batch :=
  log.filterMap Event.taken?

/-- How many batches a log acknowledges. -/
def acknowledgements (log : List Event) : Nat :=
  log.countP Event.isAcknowledgement

@[simp]
theorem received_append (log events : List Event) :
    received (log ++ events) = received log ++ received events :=
  List.filterMap_append

@[simp]
theorem taken_append (log events : List Event) :
    taken (log ++ events) = taken log ++ taken events :=
  List.filterMap_append

@[simp]
theorem acknowledgements_append (log events : List Event) :
    acknowledgements (log ++ events) = acknowledgements log + acknowledgements events :=
  List.countP_append

theorem isInner_of_did (deeds : List Deed) :
    ∀ event ∈ deeds.map Event.did, event.isInner = true := by
  intro event member
  obtain ⟨deed, -, rfl⟩ := List.mem_map.1 member
  rfl

section Inner

variable {events : List Event} (inner : ∀ event ∈ events, event.isInner = true)
include inner

theorem filter_isPump_of_inner : events.filter Event.isPump = events := by
  rw [List.filter_eq_self]
  intro event member
  have isInner := inner event member
  cases event <;> first | rfl | cases isInner

theorem received_of_inner : received events = [] := by
  rw [received, List.filterMap_eq_nil_iff]
  intro event member
  have isInner := inner event member
  cases event <;> first | rfl | cases isInner

theorem taken_of_inner : taken events = [] := by
  rw [taken, List.filterMap_eq_nil_iff]
  intro event member
  have isInner := inner event member
  cases event <;> first | rfl | cases isInner

theorem acknowledgements_of_inner : acknowledgements events = 0 := by
  rw [acknowledgements, List.countP_eq_zero]
  intro event member
  have isInner := inner event member
  cases event <;> first | exact Bool.false_ne_true | cases isInner

end Inner

/-! ## The invariant -/

/-- How the course under way agrees with where the pump stands. -/
inductive Standing (gateway : Gateway μ) :
    Pump (Pass μ) → Option (Batch × List Event) → Prop where
  | idle : Standing gateway .idle none
  | processing {batch : Batch} {pass : Pass μ} {deeds : List Deed} {events : List Event}
      (course : Course gateway batch (.passing deeds) events)
      (left : ∀ later result, ComesTo pass later result →
        ComesTo (gateway.begin batch) (deeds ++ later) result) :
      Standing gateway (.processing batch pass) (some (batch, events))
  | backingOff {batch : Batch} {due : Nat} {events : List Event}
      (course : Course gateway batch (.passing []) events) :
      Standing gateway (.backingOff batch due) (some (batch, events))
  | holding {batch : Batch} {notifications : List Notification} {stage : HandOver.Stage}
      {events : List Event} (unfinished : stage ≠ .finished)
      (nonempty : notifications ≠ [])
      (course : Course gateway batch (.holding notifications) events) :
      Standing gateway (.handingOver ⟨notifications, stage⟩) (some (batch, events))
  | handedOver {batch : Batch} {notifications : List Notification} {events : List Event}
      (course : Course gateway batch (.handedOver notifications) events) :
      Standing gateway (.handingOver ⟨notifications, .finished⟩) (some (batch, events))
  | stopped {current : Option (Batch × List Event)}
      (unfinished : ∀ course ∈ current, ∃ stage, stage ≠ .finished ∧
        Course gateway course.1 stage course.2) :
      Standing gateway .stopped current

theorem Standing.unfinished {gateway : Gateway μ} {pump : Pump (Pass μ)}
    {current : Option (Batch × List Event)} (standing : Standing gateway pump current) :
    ∀ course ∈ current, ∃ stage, stage ≠ .finished ∧
      Course gateway course.1 stage course.2 := by
  cases standing with
  | idle => nofun
  | processing course left =>
      intro current equal
      obtain rfl := Option.some.inj equal
      exact ⟨.passing _, nofun, course⟩
  | backingOff course =>
      intro current equal
      obtain rfl := Option.some.inj equal
      exact ⟨.passing _, nofun, course⟩
  | holding unfinished nonempty course =>
      intro current equal
      obtain rfl := Option.some.inj equal
      exact ⟨.holding _, nofun, course⟩
  | handedOver course =>
      intro current equal
      obtain rfl := Option.some.inj equal
      exact ⟨.handedOver _, nofun, course⟩
  | stopped unfinished => exact unfinished

/-- How a log divides into courses, some of which are settled. -/
structure Account (gateway : Gateway μ) (log : List Event) (batches : List Batch)
    (settled : List (Batch × List Event)) (current : Option (Batch × List Event)) :
    Prop where
  finished : ∀ course ∈ settled, Course gateway course.1 .finished course.2
  shown : log.filter Event.isPump = (settled ++ current.toList).flatMap Prod.snd
  received : received log = (settled ++ current.toList).map Prod.fst ++ batches
  taken : taken log = (settled ++ current.toList).map Prod.fst
  acknowledged : acknowledgements log = settled.length

namespace Account

variable {gateway : Gateway μ} {log events : List Event} {batch : Batch}
  {batches : List Batch} {settled : List (Batch × List Event)}
  {current : Option (Batch × List Event)}

theorem start (gateway : Gateway μ) : Account gateway [] [] [] none where
  finished := nofun
  shown := rfl
  received := rfl
  taken := rfl
  acknowledged := rfl

theorem receive (account : Account gateway log batches settled current) (batch : Batch) :
    Account gateway (log ++ [.received batch]) (batches ++ [batch]) settled current where
  finished := account.finished
  shown := by
    rw [List.filter_append, account.shown]
    exact List.append_nil _
  received := by
    rw [received_append, account.received, List.append_assoc]
    rfl
  taken := by
    rw [taken_append, account.taken]
    exact List.append_nil _
  acknowledged := by
    rw [acknowledgements_append, account.acknowledged]
    rfl

theorem take (account : Account gateway log (batch :: batches) settled none) :
    Account gateway (log ++ [.took batch]) batches settled
      (some (batch, [.took batch])) where
  finished := account.finished
  shown := by
    rw [List.filter_append, account.shown]
    simp [Event.isPump]
  received := by
    rw [received_append, account.received]
    simp [Gateway.received, Event.received?]
  taken := by
    rw [taken_append, account.taken]
    simp [Gateway.taken, Event.taken?]
  acknowledged := by
    rw [acknowledgements_append, account.acknowledged]
    rfl

theorem prolong {shown : List Event}
    (account : Account gateway log batches settled (some (batch, events)))
    (inner : ∀ event ∈ shown, event.isInner = true) :
    Account gateway (log ++ shown) batches settled (some (batch, events ++ shown)) where
  finished := account.finished
  shown := by
    rw [List.filter_append, account.shown, filter_isPump_of_inner inner]
    simp
  received := by
    rw [received_append, account.received, received_of_inner inner]
    simp
  taken := by
    rw [taken_append, account.taken, taken_of_inner inner]
    simp
  acknowledged := by
    rw [acknowledgements_append, account.acknowledged, acknowledgements_of_inner inner]
    rfl

theorem finish (account : Account gateway log batches settled (some (batch, events)))
    (course : Course gateway batch .finished (events ++ [.acknowledged])) :
    Account gateway (log ++ [.acknowledged]) batches
      (settled ++ [(batch, events ++ [.acknowledged])]) none where
  finished := by
    intro other member
    rcases List.mem_append.1 member with old | new
    · exact account.finished other old
    · rw [List.mem_singleton] at new
      rw [new]
      exact course
  shown := by
    rw [List.filter_append, account.shown]
    simp [Event.isPump]
  received := by
    rw [received_append, account.received]
    simp [Gateway.received, Event.received?]
  taken := by
    rw [taken_append, account.taken]
    simp [Gateway.taken, Event.taken?]
  acknowledged := by
    rw [acknowledgements_append, account.acknowledged, List.length_append]
    rfl

/-- One turn of the pump keeps the account, and the pump's agreement with it. -/
theorem turn {pump next : Pump (Pass μ)} {waiting : List Batch}
    (account : Account gateway log batches settled current)
    (standing : Standing gateway pump current)
    (turn : Turn gateway pump batches events next waiting) :
    ∃ settled current, Account gateway (log ++ events) waiting settled current ∧
      Standing gateway next current := by
  cases turn with
  | aside =>
      rw [List.append_nil]
      exact ⟨settled, current, account, standing⟩
  | received _ _ batch =>
      exact ⟨settled, current, account.receive batch, standing⟩
  | took batch =>
      cases standing
      exact ⟨settled, _, account.take, .processing .took fun later result comes => comes⟩
  | @proceeded pass next deeds batch _ proceeds =>
      cases standing with
      | processing course left =>
          refine ⟨settled, _, account.prolong (isInner_of_did deeds),
            .processing (.did deeds course) fun later result comes => ?_⟩
          rw [List.append_assoc]
          exact left _ _ (.step proceeds comes)
  | failed batch _ error due =>
      cases standing with
      | processing course left =>
          have ends := left [] _ (.done _)
          rw [List.append_nil, comesTo_begin_error_iff] at ends
          exact ⟨settled, _, account.prolong (List.forall_mem_singleton.2 rfl),
            .backingOff (.failed course ends)⟩
  | retried batch =>
      cases standing with
      | backingOff course =>
          rw [List.append_nil]
          exact ⟨settled, _, account, .processing course fun later result comes => comes⟩
  | passedNothing batch =>
      cases standing with
      | processing course left =>
          have ends := left [] _ (.done _)
          rw [List.append_nil, comesTo_begin_ok_iff] at ends
          have passed : Account gateway (log ++ [.passed []]) batches settled
              (some (batch, _ ++ [.passed []])) :=
            account.prolong (List.forall_mem_singleton.2 rfl)
          have finished := passed.finish (.acknowledgedNothing (.passed course ends))
          rw [List.append_assoc] at finished
          exact ⟨_, _, finished, .idle⟩
  | @passed notifications batch _ nonempty =>
      cases standing with
      | processing course left =>
          have ends := left [] _ (.done _)
          rw [List.append_nil, comesTo_begin_ok_iff] at ends
          exact ⟨settled, _, account.prolong (List.forall_mem_singleton.2 rfl),
            .holding nofun nonempty (.passed course ends)⟩
  | waited notifications _ unfinished further =>
      rw [List.append_nil]
      cases standing with
      | holding _ nonempty course =>
          exact ⟨settled, _, account, .holding further nonempty course⟩
      | handedOver course => exact absurd rfl unfinished
  | missed _ gives =>
      cases standing with
      | holding _ nonempty course =>
          exact ⟨settled, _, account.prolong (List.forall_mem_singleton.2 rfl),
            .holding nofun nonempty (.missed _ course)⟩
  | gave _ gives somebody =>
      cases standing with
      | holding _ nonempty course =>
          have handed := handedOver_of_gives nonempty gives somebody
          exact ⟨settled, _, account.prolong (List.forall_mem_singleton.2 rfl),
            .handedOver (.gave course handed)⟩
  | acknowledged notifications =>
      cases standing with
      | holding unfinished => exact absurd rfl unfinished
      | handedOver course =>
          exact ⟨_, _, account.finish (.acknowledged course), .idle⟩
  | stopped =>
      rw [List.append_nil]
      exact ⟨settled, current, account, .stopped standing.unfinished⟩

end Account

/-- Along a whole run the log divides into courses as the pump stands. -/
theorem History.account {gateway : Gateway μ} {log : List Event} {scene : Scene μ}
    (history : History gateway log scene) :
    ∃ settled current, Account gateway log scene.run.batches settled current ∧
      Standing gateway scene.run.pump current := by
  induction history with
  | start audience => exact ⟨[], none, .start gateway, .idle⟩
  | step history step induction =>
      obtain ⟨settled, current, account, standing⟩ := induction
      exact account.turn standing step.turn

/--
Along every run the pump shows finished courses of the first batches received, in order,
and at most one unfinished course of the next.  Each acknowledgement ends a course whose
batch is settled, whatever is given comes from a pass in which no lookup failed and which
the course shows, and acknowledgements never outnumber the batches taken.
-/
theorem acknowledged_courses {gateway : Gateway μ} {log : List Event} {scene : Scene μ}
    (history : History gateway log scene) :
    ∃ (settled : List (Batch × List Event)) (current : Option (Batch × List Event)),
      log.filter Event.isPump = (settled ++ current.toList).flatMap Prod.snd ∧
      received log = (settled ++ current.toList).map Prod.fst ++ scene.run.batches ∧
      (∀ course ∈ settled, Course gateway course.1 .finished course.2 ∧
        Settled gateway course.1 course.2) ∧
      (∀ course ∈ current, ∃ stage, stage ≠ .finished ∧
        Course gateway course.1 stage course.2) ∧
      (∀ course ∈ settled ++ current.toList, ∀ notifications before after,
        .gave notifications before after ∈ course.2 →
          PassedIn gateway course.1 course.2 notifications) ∧
      acknowledgements log = settled.length ∧
      acknowledgements log ≤ (taken log).length := by
  obtain ⟨settled, current, account, standing⟩ := history.account
  refine ⟨settled, current, account.shown, account.received, ?_, standing.unfinished, ?_,
    account.acknowledged, ?_⟩
  · intro course member
    have finished := account.finished course member
    exact ⟨finished, finished.holds⟩
  · intro course member notifications before after gave
    rcases List.mem_append.1 member with old | new
    · exact (account.finished course old).passedIn_of_gave gave
    · obtain ⟨stage, -, unfinished⟩ := standing.unfinished course (Option.mem_toList.1 new)
      exact unfinished.passedIn_of_gave gave
  · rw [account.acknowledged, account.taken, List.length_map, List.length_append]
    exact Nat.le_add_right _ _

/-! ## Delivered batches -/

/-- The batch that was taken at a place of the log's order is settled. -/
def Delivered (gateway : Gateway μ) (log : List Event) (place : Nat) : Prop :=
  ∃ courses : List (Batch × List Event),
    log.filter Event.isPump = courses.flatMap Prod.snd ∧
    (∀ course ∈ courses, ∃ stage, Course gateway course.1 stage course.2) ∧
    ∃ course, courses[place]? = some course ∧ Settled gateway course.1 course.2

/-- The batches that were acknowledged are delivered, and there is one for each. -/
theorem History.delivered {gateway : Gateway μ} {log : List Event} {scene : Scene μ}
    (history : History gateway log scene) {place : Nat}
    (acknowledged : place < acknowledgements log) : Delivered gateway log place := by
  obtain ⟨settled, current, account, standing⟩ := history.account
  rw [account.acknowledged] at acknowledged
  refine ⟨settled ++ current.toList, account.shown, ?_, settled[place], ?_, ?_⟩
  · intro course member
    rcases List.mem_append.1 member with old | new
    · exact ⟨.finished, account.finished course old⟩
    · obtain ⟨stage, -, unfinished⟩ := standing.unfinished course (Option.mem_toList.1 new)
      exact ⟨stage, unfinished⟩
  · rw [List.getElem?_append_left acknowledged, List.getElem?_eq_getElem]
  · exact (account.finished _ (List.getElem_mem acknowledged)).holds

theorem History.acknowledgements_le_received {gateway : Gateway μ} {log : List Event}
    {scene : Scene μ} (history : History gateway log scene) :
    acknowledgements log ≤ (received log).length := by
  obtain ⟨settled, current, account, standing⟩ := history.account
  rw [account.acknowledged, account.received]
  simp only [List.length_append, List.length_map]
  omega

theorem Turn.acknowledgements_le_one {gateway : Gateway μ} {pump next : Pump (Pass μ)}
    {batches waiting : List Batch} {events : List Event}
    (turn : Turn gateway pump batches events next waiting) :
    acknowledgements events ≤ 1 := by
  cases turn with
  | @proceeded pass next deeds batch _ proceeds =>
      rw [acknowledgements_of_inner (isInner_of_did deeds)]
      exact Nat.zero_le 1
  | _ => simp [acknowledgements, Event.isAcknowledgement]

/-! ## A run with a failure in it -/

/-- A gateway with one attempt a call that makes a receipt of each event of a topic. -/
def receipting : Gateway Unit where
  client := ⟨⟨1, 0, 0, 1.0⟩, fun _ => false⟩
  routes := [⟨"t", fun _ event =>
    .done [.receipt ⟨event.transactionHash, true, none⟩]⟩]
  retryDelay := 5

/-- An event of a subscription that nobody has looked up. -/
def mined : ChainEvent :=
  ⟨"sub", "", "", "1", "0", "0x1", "", none, .null, none, none⟩

/-- The receipt of an operation that succeeded. -/
def minedReceipt : Notification :=
  .receipt ⟨"0x1", true, none⟩

/-- The answer that names the subscription. -/
def minedAnswer : Outcome :=
  .ok ⟨200, Subscription.codec.encode ⟨"sub", "t:x", "es-1", none⟩⟩

/-- What is shown when the first lookup fails and the second is answered with a name. -/
def receiptingLog : List Event :=
  [.received [mined], .took [mined], .did (.recalled []),
    .did (.asked (.get "/subscriptions/sub" []) (.error (.other "down"))),
    .failed (.rejected (.other "down")), .did (.recalled []),
    .did (.asked (.get "/subscriptions/sub" []) minedAnswer), .passed [minedReceipt],
    .gave [minedReceipt] [⟨7, true, []⟩] [⟨7, true, [minedReceipt]⟩], .acknowledged]

/-- A pass that finds no name known asks the connector, and its answer decides. -/
theorem begin_mined :
    ∃ follow change, Proceeds (receipting.begin [mined]) [.recalled []]
        ((receipting.client.attemptFrom (.get "/subscriptions/sub" []) 1).bind follow) ∧
      follow (.error (.rejected (.other "down"))) =
        .done (.error (.rejected (.other "down"))) ∧
      follow (minedAnswer.mapError .rejected) = .remember change (.done (.ok [minedReceipt])) :=
  ⟨_, _, .recall _ ⟨[], ()⟩, rfl, rfl⟩

theorem history_receipting :
    History receipting receiptingLog ⟨.start, ⟨[⟨7, true, [minedReceipt]⟩], 1⟩⟩ := by
  obtain ⟨follow, change, looks, lost, told⟩ := begin_mined
  have refused : receipting.client.judge (.get "/subscriptions/sub" []) 1
      (.error (.other "down")) = .final (.error (.rejected (.other "down"))) := rfl
  have accepted : receipting.client.judge (.get "/subscriptions/sub" []) 1 minedAnswer =
      .final (minedAnswer.mapError .rejected) := rfl
  have failing := (proceeds_attemptFrom refused).bind follow
  have answering := (proceeds_attemptFrom accepted).bind follow
  simp only [Procedure.bind, lost] at failing
  simp only [Procedure.bind, told] at answering
  have begun : History receipting [] ⟨.start, .attach 7 .empty⟩ := .start _
  have received := begun.step (.move 0 (.dispatchBatch [mined]) (.other rfl) rfl)
  have took := received.step (.move 0 .take (.other rfl) rfl)
  have looked := took.step (.move 0 (.proceed _) (.proceed looks) rfl)
  have asked := looked.step (.move 0 (.proceed _) (.proceed failing) rfl)
  have failed := asked.step (.move 0 (.conclude _) (.conclude _) rfl)
  have retried := failed.step (.move 5 .retry (.other rfl) rfl)
  have lookedAgain := retried.step (.move 5 (.proceed _) (.proceed looks) rfl)
  have askedAgain := lookedAgain.step (.move 5 (.proceed _) (.proceed answering) rfl)
  have kept := askedAgain.step (.move 5 (.proceed _) (.proceed (.remember _ _)) rfl)
  have passed := kept.step (.move 5 (.conclude _) (.conclude _) rfl)
  have registered := passed.step (.move 5 .handOver (.other rfl) rfl)
  have counted := registered.step (.move 5 .handOver (.other rfl) rfl)
  have gave := counted.step (.move 5 .handOver (.other rfl) rfl)
  have acknowledged := gave.step (.move 5 .acknowledge (.other rfl) rfl)
  exact acknowledged

/-- The batch is settled by the second pass, and acknowledged once. -/
theorem acknowledged_courses_of_receipting :
    History receipting receiptingLog ⟨.start, ⟨[⟨7, true, [minedReceipt]⟩], 1⟩⟩ ∧
      acknowledgements receiptingLog = 1 ∧
      ∃ settled : List (Batch × List Event), settled.length = 1 ∧
        ∀ course ∈ settled, Settled receipting course.1 course.2 := by
  obtain ⟨settled, current, -, -, finished, -, -, counted, -⟩ :=
    acknowledged_courses history_receipting
  refine ⟨history_receipting, rfl, settled, counted.symm, ?_⟩
  intro course member
  exact (finished course member).2

end TokenRelay.Gateway
