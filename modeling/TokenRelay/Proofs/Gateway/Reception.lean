import TokenRelay.Proofs.Gateway.Attendance
import TokenRelay.Proofs.Gateway.Course

/-!
# What subscribers receive

`Noted` is a step of a scene with its notes, and a `Passage` leads by such steps from a scene
to a later one.  The events among its notes are those of a history (`history_of_passage`).

Whoever is open in the first scene of a passage and does not close is served by every
hand-over in it, and in whole.  A hand-over that reaches nobody is repeated, but then nobody
stayed; of all hand-overs in the course of one batch only the last one reaches somebody.
-/

namespace TokenRelay

/-- From a state to a later one by steps, with all that is noted of them. -/
inductive Passage {σ ν : Type} (step : σ → List ν → σ → Prop) (source : σ) :
    List ν → σ → Prop where
  | stay : Passage step source [] source
  | step {log notes : List ν} {via target : σ} (passage : Passage step source log via)
      (last : step via notes target) : Passage step source (log ++ notes) target

theorem Passage.append {σ ν : Type} {step : σ → List ν → σ → Prop} {source via target : σ}
    {log later : List ν} (first : Passage step source log via)
    (second : Passage step via later target) : Passage step source (log ++ later) target := by
  induction second with
  | stay =>
      rw [List.append_nil]
      exact first
  | step passage last induction =>
      rw [← List.append_assoc]
      exact induction.step last

/-- Where a note that steps show alone stands in a log, its step was made. -/
theorem Passage.split {σ ν : Type} {step : σ → List ν → σ → Prop} {source target : σ}
    {log earlier rest : List ν} {note : ν} (passage : Passage step source log target)
    (alone : ∀ {via notes next}, step via notes next → note ∈ notes → notes = [note])
    (split : log = earlier ++ note :: rest) :
    ∃ via next, Passage step source earlier via ∧ step via [note] next ∧
      Passage step next rest target := by
  induction passage generalizing rest with
  | stay => cases earlier <;> cases split
  | @step log notes via next passage last induction =>
      rcases List.append_eq_append_iff.1 split with
        ⟨middle, rfl, shown⟩ | ⟨middle, rfl, shown⟩
      · obtain rfl := alone last (shown ▸ List.mem_append_right _ List.mem_cons_self)
        obtain ⟨rfl, rfl⟩ : middle = [] ∧ rest = [] := by
          cases middle with
          | nil => exact ⟨rfl, (List.cons.inj shown).2.symm⟩
          | cons first others => cases others <;> cases shown
        rw [List.append_nil]
        exact ⟨via, next, passage, last, .stay⟩
      · cases middle with
        | nil =>
            obtain rfl : note :: rest = notes := shown
            obtain rfl := (List.cons.inj (alone last List.mem_cons_self)).2
            rw [List.append_nil] at passage
            exact ⟨via, next, passage, last, .stay⟩
        | cons first others =>
            obtain ⟨rfl, rfl⟩ := List.cons.inj shown
            obtain ⟨before, after, leads, own, follows⟩ := induction rfl
            exact ⟨before, after, leads, own, follows.step last⟩

namespace Gateway

open Audience (HandedOver)

variable {μ : Type}

/-! ## Steps and their notes -/

/-- What is noted of a move besides its events, given the audience after it. -/
def sideNotes (scene : Scene μ) (after : Audience) : GatewayRun.Move (Pass μ) → List Note
  | .dispatchReply reply => [.replied reply]
  | .endFeed => [.feedEnded]
  | .forward =>
    scene.run.replies.head?.toList.map fun reply =>
      .forwarded reply scene.audience.subscribers after.subscribers
  | .endForwarding => [.forwardingEnded]
  | .stop => [.returned]
  | .abort => [.aborted]
  | _ => []

/-- All notes of a move. -/
def notesOf (scene : Scene μ) (deeds : List Deed) (move : GatewayRun.Move (Pass μ))
    (after : Audience) (requests : List GatewayRun.Request) : List Note :=
  (deeds.map Event.did ++ shown scene after move ++ requests.flatMap asked).map .shown ++
    sideNotes scene after move

/-- One step of a scene, and the notes of it. -/
inductive Noted (gateway : Gateway μ) : Scene μ → List Note → Scene μ → Prop where
  | move {scene : Scene μ} {run : GatewayRun (Pass μ)} {audience : Audience}
      {requests : List GatewayRun.Request} {deeds : List Deed} (now : Nat)
      (move : GatewayRun.Move (Pass μ)) (permits : Permits scene.run.pump move deeds)
      (possible : scene.run.step gateway.begin gateway.retryDelay now scene.audience move =
        some (run, audience, requests)) :
      Noted gateway scene (notesOf scene deeds move audience requests) ⟨run, audience⟩
  /-- The notifications are given while subscribers take and close. -/
  | give {scene : Scene μ} {notifications : List Notification} {notes : List Note}
      {after : List Subscriber} (giving : scene.run.pump = .handingOver ⟨notifications, .give⟩)
      (given : Giving notifications scene.audience.subscribers notes after) :
      Noted gateway scene
        (notes ++ [.shown (.gave notifications scene.audience.subscribers after)])
        ⟨{ scene.run with
            pump := .handingOver
              ⟨notifications, if after.isEmpty then .register else .finished⟩ },
          { scene.audience with subscribers := after }⟩
  | enlist {scene : Scene μ} {id : Nat}
      (fresh : id ∉ scene.audience.subscribers.map (·.id)) :
      Noted gateway scene [.enlisted id] ⟨scene.run, scene.audience.enlist id⟩
  | announce {scene : Scene μ} : Noted gateway scene [] ⟨scene.run, scene.audience.announce⟩
  | take {scene : Scene μ} {subscriber : Subscriber}
      (member : subscriber ∈ scene.audience.subscribers) (count : Nat) :
      Noted gateway scene [.took subscriber.id (subscriber.queue.take count)]
        ⟨scene.run, scene.audience.take subscriber.id count⟩
  | close {scene : Scene μ} (id : Nat) :
      Noted gateway scene [.closed id] ⟨scene.run, scene.audience.close id⟩
  | prune {scene : Scene μ} : Noted gateway scene [] ⟨scene.run, scene.audience.prune⟩

variable {gateway : Gateway μ} {scene next : Scene μ} {log notes : List Note}

@[simp]
theorem eventsOf_map_shown (events : List Event) : eventsOf (events.map .shown) = events := by
  rw [eventsOf, List.filterMap_map]
  exact List.filterMap_some

theorem eventsOf_sideNotes (scene : Scene μ) (after : Audience)
    (move : GatewayRun.Move (Pass μ)) : eventsOf (sideNotes scene after move) = [] := by
  cases move with
  | forward =>
      rw [sideNotes]
      cases scene.run.replies <;> rfl
  | _ => rfl

theorem eventsOf_of_giving {notifications : List Notification}
    {before after : List Subscriber} (giving : Giving notifications before notes after) :
    eventsOf notes = [] := by
  apply eventsOf_of_isOf
  intro note member
  obtain ⟨subscriber, -, of⟩ := giving.isOf note member
  exact ⟨subscriber.id, of⟩

/-- The events among the notes are those that the step shows. -/
theorem Noted.step (noted : Noted gateway scene notes next) :
    Step gateway scene (eventsOf notes) next := by
  cases noted with
  | move now move permits possible =>
      rw [notesOf, eventsOf_append, eventsOf_map_shown, eventsOf_sideNotes, List.append_nil]
      exact .move now move permits possible
  | give giving given =>
      rw [eventsOf_append, eventsOf_of_giving given]
      exact .give giving given.gives
  | enlist fresh => exact .change (.enlist _)
  | announce => exact .change .announce
  | take member count => exact .change (.take _ count)
  | close id => exact .change (.close id)
  | prune => exact .change .prune

/-- A passage from the start of a gateway makes up a history. -/
theorem history_of_passage {audience : Audience}
    (begun : Passage (Noted gateway) ⟨.start, audience⟩ log next) :
    History gateway (eventsOf log) next := by
  induction begun with
  | stay => exact .start audience
  | step passage noted induction =>
      rw [eventsOf_append]
      exact induction.step noted.step

/-! ## What a step does to the subscribers -/

/-- Whether a move goes through the list of subscribers. -/
def isOfAudience : GatewayRun.Move (Pass μ) → Bool
  | .forward => true
  | .handOver => true
  | _ => false

theorem audience_of_move {begin : Batch → Pass μ} {retryDelay now : Nat}
    {run next : GatewayRun (Pass μ)} {audience after : Audience}
    {move : GatewayRun.Move (Pass μ)} {requests : List GatewayRun.Request}
    (apart : isOfAudience move = false)
    (possible : run.step begin retryDelay now audience move = some (next, after, requests)) :
    after = audience := by
  cases GatewayRun.moves_of_step possible with
  | forward => cases apart
  | handOver => cases apart
  | _ => rfl

theorem isQuiet_sideNotes {after : Audience} {move : GatewayRun.Move (Pass μ)}
    (apart : isOfAudience move = false) :
    ∀ note ∈ sideNotes scene after move, note.isQuiet = true := by
  cases move with
  | forward => cases apart
  | dispatchReply reply => exact List.forall_mem_singleton.2 rfl
  | endFeed => exact List.forall_mem_singleton.2 rfl
  | endForwarding => exact List.forall_mem_singleton.2 rfl
  | stop => exact List.forall_mem_singleton.2 rfl
  | abort => exact List.forall_mem_singleton.2 rfl
  | _ => exact List.forall_mem_nil _

theorem isQuiet_shown {after : Audience} {move : GatewayRun.Move (Pass μ)}
    (apart : isOfAudience move = false) :
    ∀ event ∈ shown scene after move, (Note.shown event).isQuiet = true := by
  cases move with
  | handOver => cases apart
  | dispatchBatch batch => exact List.forall_mem_singleton.2 rfl
  | take =>
      intro event member
      obtain ⟨batch, -, rfl⟩ := List.mem_map.1 member
      rfl
  | conclude result => cases result <;> exact List.forall_mem_singleton.2 rfl
  | _ => exact List.forall_mem_nil _

/-- A move that does not go through the list of subscribers gives them nothing. -/
theorem isQuiet_of_move {deeds : List Deed} {move : GatewayRun.Move (Pass μ)} {after : Audience}
    {requests : List GatewayRun.Request} (apart : isOfAudience move = false) :
    ∀ note ∈ notesOf scene deeds move after requests, note.isQuiet = true := by
  intro note member
  rw [notesOf, List.mem_append, List.mem_map] at member
  rcases member with ⟨event, member, rfl⟩ | side
  · rw [List.mem_append, List.mem_append] at member
    rcases member with (did | own) | request
    · obtain ⟨deed, -, rfl⟩ := List.mem_map.1 did
      rfl
    · exact isQuiet_shown apart event own
    · obtain ⟨request, -, last⟩ := List.mem_flatMap.1 request
      cases request with
      | acknowledge =>
          cases List.mem_singleton.1 last
          rfl
      | release => cases last
  · exact isQuiet_sideNotes apart note side

/-- Only a pass does what is shown as its deeds. -/
theorem Permits.none {pump : Pump (Pass μ)} {move : GatewayRun.Move (Pass μ)}
    {deeds : List Deed} (permits : Permits pump move deeds) (apart : isOfPass move = false) :
    deeds = [] := by
  cases permits with
  | proceed proceeds => cases apart
  | conclude result => rfl
  | other apart => rfl

/-- What is noted where the next reply is given to all at once. -/
theorem notesOf_forward {deeds : List Deed} {after : Audience} {reply : Reply}
    {rest : List Reply} (permits : Permits scene.run.pump .forward deeds)
    (first : scene.run.replies = reply :: rest) :
    notesOf scene deeds .forward after [] =
      [.forwarded reply scene.audience.subscribers after.subscribers] := by
  rw [permits.none rfl]
  simp [notesOf, sideNotes, shown, first]

/-- What is noted where a hand-over makes a step. -/
theorem notesOf_handOver {deeds : List Deed} {after : Audience} {handOver : HandOver}
    (permits : Permits scene.run.pump .handOver deeds)
    (handing : scene.run.pump = .handingOver handOver) :
    notesOf scene deeds .handOver after [] =
      (given handOver scene.audience after).map .shown := by
  rw [permits.none rfl]
  simp [notesOf, sideNotes, shown, handing]

/-- What a step of a hand-over does to the subscribers. -/
theorem affects_of_handOver {handOver further : HandOver} {before after : Audience}
    (steps : handOver.step before = some (further, after)) :
    Affects before.subscribers ((given handOver before after).map .shown)
      after.subscribers := by
  obtain ⟨notifications, stage⟩ := handOver
  cases stage with
  | register =>
      cases steps
      exact .aside (List.forall_mem_nil _)
  | count ticket =>
      simp only [HandOver.step] at steps
      split_ifs at steps <;> cases steps <;> exact .pruned _
  | wait ticket =>
      simp only [HandOver.step] at steps
      split_ifs at steps
      cases steps
      exact .aside (List.forall_mem_nil _)
  | give =>
      simp only [HandOver.step] at steps
      split_ifs at steps <;> cases steps <;> exact .handed _ fun _ => rfl
  | finished => cases steps

/-- Whatever a scene does is one of the things that can happen to its subscribers. -/
theorem Noted.affects (noted : Noted gateway scene notes next) :
    Affects scene.audience.subscribers notes next.audience.subscribers := by
  cases noted with
  | move now move permits possible =>
      cases shape : isOfAudience move with
      | false =>
          rw [audience_of_move shape possible]
          exact .aside (isQuiet_of_move shape)
      | true =>
          cases GatewayRun.moves_of_step possible with
          | forward forwarding first =>
              rw [notesOf_forward permits first]
              exact .handed _ fun _ => rfl
          | handOver handing steps =>
              rw [notesOf_handOver permits handing]
              exact affects_of_handOver steps
          | _ => cases shape
  | give giving given => exact .gave given
  | enlist fresh => exact .enlisted fresh
  | announce => exact .aside (List.forall_mem_nil _)
  | take member count => exact .took member count
  | close id => exact .closed _ id
  | prune => exact .pruned _

/-- What is noted of a hand-over tells who is on the list after it. -/
theorem Noted.gave (noted : Noted gateway scene notes next)
    {notifications : List Notification} {before after : List Subscriber}
    (gave : .shown (.gave notifications before after) ∈ notes) :
    after = next.audience.subscribers := by
  cases noted with
  | move now move permits possible =>
      cases shape : isOfAudience move with
      | false => cases isQuiet_of_move shape _ gave
      | true =>
          cases GatewayRun.moves_of_step possible with
          | forward forwarding first =>
              rw [notesOf_forward permits first] at gave
              cases List.mem_singleton.1 gave
          | handOver handing steps =>
              rw [notesOf_handOver permits handing] at gave
              obtain ⟨event, member, equal⟩ := List.mem_map.1 gave
              cases equal
              unfold given at member
              split at member
              · cases List.mem_singleton.1 member
                rfl
              · cases member
          | _ => cases shape
  | give giving given =>
      rcases List.mem_append.1 gave with own | last
      · obtain ⟨subscriber, -, of⟩ := given.isOf _ own
        cases of
      · cases List.mem_singleton.1 last
        rfl
  | enlist fresh => cases List.mem_singleton.1 gave
  | announce => cases gave
  | take member count => cases List.mem_singleton.1 gave
  | close id => cases List.mem_singleton.1 gave
  | prune => cases gave

/-! ## Passages -/

section Passages

variable (passage : Passage (Noted gateway) scene log next)
  (distinct : Distinct scene.audience.subscribers)
include passage distinct

theorem distinct_of_passage : Distinct next.audience.subscribers := by
  induction passage with
  | stay => exact distinct
  | step passage noted induction => exact noted.affects.distinct induction

/-- Who stays open through a passage stays on the list, with an account that is in order. -/
theorem keeps_of_passage : Keeps scene.audience.subscribers log next.audience.subscribers := by
  induction passage with
  | stay => exact keeps_nil _
  | step passage noted induction =>
      exact induction.trans (noted.affects.keeps (distinct_of_passage passage distinct))

/-- While somebody stays open, no hand-over reaches nobody. -/
theorem reaches_of_passage {subscriber : Subscriber}
    (member : subscriber ∈ scene.audience.subscribers) (isOpen : subscriber.isOpen = true)
    (stays : .closed subscriber.id ∉ log) {notifications : List Notification}
    {before after : List Subscriber}
    (gave : .shown (.gave notifications before after) ∈ log) : after ≠ [] := by
  induction passage with
  | stay => cases gave
  | step passage noted induction =>
      rcases List.mem_append.1 gave with earlier | last
      · exact induction (fun closed => stays (List.mem_append_left _ closed)) earlier
      · rw [noted.gave last]
        obtain ⟨later, present, -⟩ := keeps_of_passage (passage.step noted) distinct subscriber
          member isOpen stays
        exact List.ne_nil_of_mem present

end Passages

/-! ## One hand-over for a batch -/

/-- What a pass that ended well came to. -/
def Event.passed? : Event → Option (List Notification)
  | .passed notifications => some notifications
  | _ => none

/-- What a hand-over gave, if it reached somebody. -/
def Event.handed? : Event → Option (List Notification)
  | .gave _ _ [] => none
  | .gave notifications _ _ => some notifications
  | _ => none

/-- What the passes that ended well came to. -/
def passed (events : List Event) : List (List Notification) :=
  events.filterMap Event.passed?

/-- The lists that somebody was given. -/
def handed (events : List Event) : List (List Notification) :=
  events.filterMap Event.handed?

@[simp]
theorem passed_append (events others : List Event) :
    passed (events ++ others) = passed events ++ passed others :=
  List.filterMap_append

@[simp]
theorem handed_append (events others : List Event) :
    handed (events ++ others) = handed events ++ handed others :=
  List.filterMap_append

@[simp]
theorem passed_did (deeds : List Deed) : passed (deeds.map .did) = [] := by
  rw [passed, List.filterMap_map]
  exact List.filterMap_eq_nil_iff.2 fun _ _ => rfl

@[simp]
theorem handed_did (deeds : List Deed) : handed (deeds.map .did) = [] := by
  rw [handed, List.filterMap_map]
  exact List.filterMap_eq_nil_iff.2 fun _ _ => rfl

theorem handed_of_handedOver {notifications : List Notification}
    {before after : List Subscriber} (handedOver : HandedOver notifications before after) :
    handed [.gave notifications before after] = [notifications] := by
  obtain ⟨-, -, -, later, present, -⟩ := handedOver
  cases after with
  | nil => cases present
  | cons first rest => rfl

/-- What passed in a course and what was handed over in it, up to a stage. -/
def Stage.Gives (events : List Event) : Stage → Prop
  | .passing _ => passed events = [] ∧ handed events = []
  | .holding notifications => passed events = [notifications] ∧ handed events = []
  | .handedOver notifications =>
      passed events = [notifications] ∧ handed events = [notifications]
  | .finished => ∃ notifications, passed events = [notifications] ∧
      (handed events = [notifications] ∨ notifications = [] ∧ handed events = [])

/-- In the course of a batch one pass ends well, and what it came to is handed over once. -/
theorem Course.gives {batch : Batch} {stage : Stage} {events : List Event}
    (course : Course gateway batch stage events) : stage.Gives events := by
  induction course with
  | took => exact ⟨rfl, rfl⟩
  | did more course induction => simpa [Stage.Gives] using induction
  | failed course fails induction =>
      obtain ⟨none, nothing⟩ := induction
      rw [Stage.Gives, passed_append, handed_append, none, nothing]
      exact ⟨rfl, rfl⟩
  | passed course passes induction =>
      obtain ⟨none, nothing⟩ := induction
      rw [Stage.Gives, passed_append, handed_append, none, nothing]
      exact ⟨rfl, rfl⟩
  | missed before course induction =>
      obtain ⟨one, nothing⟩ := induction
      rw [Stage.Gives, passed_append, handed_append, one, nothing]
      exact ⟨rfl, rfl⟩
  | gave course handedOver induction =>
      obtain ⟨one, nothing⟩ := induction
      rw [Stage.Gives, passed_append, handed_append, one, nothing,
        handed_of_handedOver handedOver]
      exact ⟨rfl, rfl⟩
  | acknowledgedNothing course induction =>
      obtain ⟨one, nothing⟩ := induction
      rw [Stage.Gives, passed_append, handed_append, one, nothing]
      exact ⟨[], rfl, .inr ⟨rfl, rfl⟩⟩
  | @acknowledged notifications events course induction =>
      obtain ⟨one, given⟩ := induction
      rw [Stage.Gives, passed_append, handed_append, one, given]
      exact ⟨notifications, rfl, .inl rfl⟩

/-- As long as a course goes on, what was handed over in it is what passed, if anything. -/
theorem Course.handed_prefix {batch : Batch} {stage : Stage} {events : List Event}
    (course : Course gateway batch stage events) :
    Gateway.handed events <+: Gateway.passed events ∧ (Gateway.passed events).length ≤ 1 := by
  have gives := course.gives
  cases stage with
  | passing deeds =>
      obtain ⟨none, nothing⟩ := gives
      rw [none, nothing]
      exact ⟨List.prefix_rfl, Nat.zero_le 1⟩
  | holding notifications =>
      obtain ⟨one, nothing⟩ := gives
      rw [one, nothing]
      exact ⟨List.nil_prefix, le_rfl⟩
  | handedOver notifications =>
      obtain ⟨one, given⟩ := gives
      rw [one, given]
      exact ⟨List.prefix_rfl, le_rfl⟩
  | finished =>
      obtain ⟨notifications, one, given | ⟨-, nothing⟩⟩ := gives
      · rw [one, given]
        exact ⟨List.prefix_rfl, le_rfl⟩
      · rw [one, nothing]
        exact ⟨List.nil_prefix, le_rfl⟩

/-! ## Delivery to subscribers -/

/-- How the courses of the batches give what their passes came to, by where the pump stands. -/
structure Courses (gateway : Gateway μ) (log : List Event) (run : GatewayRun (Pass μ))
    (settled : List (Batch × List Event)) (current : Option (Batch × List Event)) : Prop where
  /-- The pump shows one course for each batch, in the order received. -/
  account : Account gateway log run.batches settled current
  /-- In a finished course one complete pass is shown, and all that it came to reached
  somebody by one hand-over, unless it came to nothing. -/
  once : ∀ course ∈ settled, ∃ notifications,
    PassedIn gateway course.1 course.2 notifications ∧ passed course.2 = [notifications] ∧
      (handed course.2 = [notifications] ∨ notifications = [] ∧ handed course.2 = [])
  /-- In the course under way nothing has reached anybody but, once, what its pass came to. -/
  atMostOnce : ∀ course ∈ current, handed course.2 <+: passed course.2 ∧
    (passed course.2).length ≤ 1
  /-- A hand-over is finished only once somebody was given the whole list, which is what the
  pass of this course came to. -/
  returns : ∀ notifications, run.pump = .handingOver ⟨notifications, .finished⟩ →
    ∃ course ∈ current, PassedIn gateway course.1 course.2 notifications ∧
      passed course.2 = [notifications] ∧ handed course.2 = [notifications] ∧
      ∃ before after, .gave notifications before after ∈ course.2 ∧
        HandedOver notifications before after

/-- Along a whole run the courses give what their passes came to. -/
theorem History.courses {events : List Event} (history : History gateway events scene) :
    ∃ settled current, Courses gateway events scene.run settled current := by
  obtain ⟨settled, current, account, standing⟩ := history.account
  refine ⟨settled, current, account, ?_, ?_, ?_⟩
  · intro course member
    have finished := account.finished course member
    obtain ⟨notifications, passedIn, -⟩ := finished.holds
    obtain ⟨others, one, given⟩ := finished.gives
    have member : notifications ∈ passed course.2 := by
      obtain ⟨-, earlier, rest, -, -, shown⟩ := passedIn
      rw [shown]
      simp [passed, Event.passed?]
    rw [one] at member
    obtain rfl := List.mem_singleton.1 member
    exact ⟨notifications, passedIn, one, given⟩
  · intro course member
    obtain ⟨stage, -, unfinished⟩ := standing.unfinished course member
    exact unfinished.handed_prefix
  · intro notifications finished
    rw [finished] at standing
    cases standing with
    | holding unfinished => exact absurd rfl unfinished
    | @handedOver batch _ events course =>
        obtain ⟨passedIn, before, after, handedOver, gave⟩ := course.holds
        obtain ⟨one, given⟩ := course.gives
        exact ⟨(batch, events), rfl, passedIn, one, given, before, after, gave, handedOver⟩

/-- What a gateway does for its subscribers on a passage, after all that came before. -/
structure Delivers (gateway : Gateway μ) (past log : List Note) (scene next : Scene μ) :
    Prop where
  /-- What was in the queue of one who stays open and what is given, whole and in order, is
  what it takes and what is left. -/
  keeps : Keeps scene.audience.subscribers log next.audience.subscribers
  /-- Only the closed are taken off the list. -/
  removes : ∀ subscriber ∈ scene.audience.subscribers,
    (∀ later ∈ next.audience.subscribers, later.id ≠ subscriber.id) →
      subscriber.isOpen = false ∨ .closed subscriber.id ∈ log
  /-- While somebody stays open no hand-over has to be repeated. -/
  reaches : ∀ subscriber ∈ scene.audience.subscribers, subscriber.isOpen = true →
    .closed subscriber.id ∉ log → ∀ notifications before after,
      .shown (.gave notifications before after) ∈ log → after ≠ []
  /-- Each batch has one course, in which at most one list reaches somebody: what its complete
  pass came to.  A hand-over is finished only once that was given to somebody. -/
  courses : ∃ settled current,
    Courses gateway (eventsOf (past ++ log)) next.run settled current

/-- Every passage of a gateway, after whatever came before, delivers to its subscribers. -/
theorem delivers_of_passage {audience : Audience} {past : List Note}
    (distinct : Distinct audience.subscribers)
    (begun : Passage (Noted gateway) ⟨.start, audience⟩ past scene)
    (passage : Passage (Noted gateway) scene log next) :
    Delivers gateway past log scene next := by
  have present : Distinct scene.audience.subscribers := distinct_of_passage begun distinct
  have history := history_of_passage (begun.append passage)
  constructor
  · exact keeps_of_passage passage present
  · intro subscriber member gone
    by_contra stayed
    rw [not_or, Bool.not_eq_false] at stayed
    obtain ⟨later, still, follows⟩ :=
      keeps_of_passage passage present subscriber member stayed.1 stayed.2
    exact gone later still follows.same
  · intro subscriber member isOpen stays notifications before after
    exact reaches_of_passage passage present member isOpen stays
  · exact history.courses

/-- Two subscribers who wait for something. -/
def pair : Audience :=
  ⟨[⟨1, true, []⟩, ⟨2, true, []⟩], 2⟩

def revertedReply : Reply :=
  ⟨⟨"TransactionFailure", "r"⟩, none, some "reverted"⟩

/-- A pass finds a name known, and while its batch is given to two, the one takes it and the
other closes; then a reply comes. -/
def partingLog : List Note :=
  [.shown (.received [mined]), .shown (.took [mined]),
    .shown (.did (.recalled [("sub", "t:x")])), .shown (.passed [minedReceipt]),
    .took 1 [minedReceipt], .closed 2,
    .shown (.gave [minedReceipt] pair.subscribers [⟨1, true, []⟩]), .shown .acknowledged,
    .replied revertedReply,
    .forwarded revertedReply [⟨1, true, []⟩]
      [⟨1, true, [GatewayRun.receipt revertedReply]⟩]]

/-- The one who stays gets the batch and then the receipt, and the other is taken off. -/
theorem delivers_of_parting :
    Distinct pair.subscribers ∧
      Passage (Noted receipting) ⟨.start, pair⟩ [] ⟨.start, pair⟩ ∧
      Passage (Noted receipting) ⟨.start, pair⟩ partingLog
        ⟨.start, ⟨[⟨1, true, [GatewayRun.receipt revertedReply]⟩], 2⟩⟩ ∧
      Delivers receipting [] partingLog ⟨.start, pair⟩
        ⟨.start, ⟨[⟨1, true, [GatewayRun.receipt revertedReply]⟩], 2⟩⟩ ∧
      givenIn partingLog = [minedReceipt, GatewayRun.receipt revertedReply] ∧
      takenBy 1 partingLog = [minedReceipt] := by
  have distinct : Distinct pair.subscribers := by simp [Distinct, pair]
  have known : Proceeds (receipting.begin [mined]) [.recalled [("sub", "t:x")]]
      (.done (.ok [minedReceipt])) := .recall _ ⟨[("sub", "t:x")], ()⟩
  have begun : Passage (Noted receipting) ⟨.start, pair⟩ [] ⟨.start, pair⟩ := .stay
  have received := begun.step (.move 0 (.dispatchBatch [mined]) (.other rfl) rfl)
  have took := received.step (.move 0 .take (.other rfl) rfl)
  have found := took.step (.move 0 (.proceed _) (.proceed known) rfl)
  have passed := found.step (.move 0 (.conclude _) (.conclude _) rfl)
  have registered := passed.step (.move 0 .handOver (.other rfl) rfl)
  have counted := registered.step (.move 0 .handOver (.other rfl) rfl)
  -- The first subscriber takes what was sent to it before the second one closes.
  have stays : Serving ⟨1, true, []⟩ [minedReceipt] [.took 1 [minedReceipt]]
      (some ⟨1, true, []⟩) := .send rfl (.take 1 (.done _))
  have leaves : Serving ⟨2, true, []⟩ [minedReceipt] [.closed 2] none :=
    .close (.refuse _ _ rfl)
  have gave := counted.step (.give rfl (.cons stays (.cons leaves .nil)))
  have acknowledged := gave.step (.move 0 .acknowledge (.other rfl) rfl)
  have replied := acknowledged.step (.move 0 (.dispatchReply revertedReply) (.other rfl) rfl)
  have forwarded := replied.step (.move 0 .forward (.other rfl) rfl)
  exact ⟨distinct, begun, forwarded, delivers_of_passage distinct begun forwarded, rfl, rfl⟩

end Gateway

end TokenRelay
