import TokenRelay.Proofs.Gateway.Handling

/-!
# How the handling of a batch ends

Where the connector answers all lookups of an id in the same way and somebody stays, the answers
decide whether the handling of a batch ends.  If all lookups of the batch are answered, the first
pass ends well, and each further step brings the handling nearer to its end: `Ending` counts the
steps that are left.  Otherwise the first pass fails, and so does each later one, since a failed
pass leaves the same ids unanswered: the handling is `Stuck`.

It makes no difference whether another attempt would be worth it.  A lookup that is refused, and
one that succeeds with a body that is no subscription, fail like one that gets no answer, and a pass
that failed is made again; nothing tells a batch that will never be answered from one that has to
wait.
-/

namespace TokenRelay

variable {μ : Type}

namespace Audience

variable {id : Nat} {audience : Audience}

theorem Attended.subscribers_ne_nil (attended : audience.Attended id) :
    audience.subscribers ≠ [] := by
  obtain ⟨subscriber, member, -⟩ := attended
  exact List.ne_nil_of_mem member

theorem Attended.size_ne_zero (attended : audience.Attended id) : audience.size ≠ 0 :=
  mt List.length_eq_zero_iff.1 attended.subscribers_ne_nil

theorem Attended.prune (attended : audience.Attended id) : audience.prune.Attended id := by
  obtain ⟨subscriber, member, same, isOpen⟩ := attended
  exact ⟨subscriber, List.mem_filter.2 ⟨member, isOpen⟩, same, isOpen⟩

theorem Attended.handOver (attended : audience.Attended id) (notifications : List Notification) :
    (audience.handOver notifications).Attended id := by
  obtain ⟨subscriber, member, same, isOpen⟩ := attended
  exact ⟨_, List.mem_filterMap.2 ⟨subscriber, member, if_pos isOpen⟩, same, isOpen⟩

end Audience

namespace HandOver

/-- How many steps are left to the acknowledgement where somebody stays. -/
def Stage.left : Stage → Nat
  | .register => 4
  | .count _ => 3
  | .wait _ => 5
  | .give => 2
  | .finished => 1

/-- A hand-over that does not wait goes on where somebody stays, and does not come to wait. -/
theorem step_of_attended {id : Nat} {audience : Audience} (attended : audience.Attended id)
    (notifications : List Notification) {stage : Stage} (unfinished : stage ≠ .finished)
    (free : ∀ ticket, stage ≠ .wait ticket) :
    ∃ next after, step ⟨notifications, stage⟩ audience = some (⟨notifications, next⟩, after) ∧
      after.Attended id ∧ (∀ ticket, next ≠ .wait ticket) ∧ next.left + 1 = stage.left := by
  cases stage with
  | register => exact ⟨_, _, rfl, attended, nofun, rfl⟩
  | count ticket =>
      have pruned := attended.prune
      exact ⟨.give, _, if_neg pruned.size_ne_zero, pruned, nofun, rfl⟩
  | wait ticket => exact absurd rfl (free ticket)
  | give =>
      have given := attended.handOver notifications
      exact ⟨.finished, _, if_neg given.size_ne_zero, given, nofun, rfl⟩
  | finished => exact absurd rfl unfinished

end HandOver

namespace Gateway

open KnownNames (Abides IsAnswered)

variable {gateway : Gateway μ} {told : String → Outcome} {id : Nat} {batch : Batch}
  {start desk next : Desk μ} {log events : List Event} {notifications : List Notification}

/-- That the handling ends: it has a bounded number of steps, and makes another one until the pump
is free for the next batch. -/
def Ends (gateway : Gateway μ) (told : String → Outcome) (id : Nat) (start : Desk μ) : Prop :=
  ∃ bound, ∀ steps log desk, Handling gateway told id start steps log desk →
    steps ≤ bound ∧ (desk.scene.run.pump = .idle ∨
      ∃ events next, Handles gateway told desk events next ∧ next.scene.audience.Attended id)

/-- What a step of a hand-over leaves where somebody stays. -/
theorem Handles.of_handingOver {stage : HandOver.Stage}
    (handles : Handles gateway told desk events next)
    (handing : desk.scene.run.pump = .handingOver ⟨notifications, stage⟩)
    (free : ∀ ticket, stage ≠ .wait ticket) (attended : desk.scene.audience.Attended id)
    (still : next.scene.audience.Attended id) :
    (stage = .finished ∧ events = [.acknowledged] ∧ next.scene.run.pump = .idle) ∨
      Silent events ∧ ∃ further, next.scene.run.pump = .handingOver ⟨notifications, further⟩ ∧
        (∀ ticket, further ≠ .wait ticket) ∧ further.left + 1 = stage.left := by
  have onward := handles.onward
  rw [handing] at onward
  obtain ⟨-, ended | ⟨silent, further, standing, steps | ⟨rfl, rfl⟩⟩⟩ := onward
  · exact .inl ended
  · have unfinished : stage ≠ .finished := by
      rintro rfl
      cases steps
    obtain ⟨later, after, goesOn, -, unblocked, fewer⟩ :=
      HandOver.step_of_attended attended notifications unfinished free
    obtain ⟨rfl, -⟩ := Prod.mk.inj (Option.some.inj (steps.symm.trans goesOn))
    exact .inr ⟨silent, later, standing, unblocked, fewer⟩
  · have somebody : next.scene.audience.subscribers.isEmpty = false :=
      List.isEmpty_eq_false_iff.2 still.subscribers_ne_nil
    rw [somebody] at standing
    exact .inr ⟨silent, .finished, standing, nofun, rfl⟩

/-! ## Where all lookups are answered -/

/-- How far a handling has come whose lookups are all answered, and how many steps are left. -/
inductive Ending (gateway : Gateway μ) (told : String → Outcome) (batch : Batch) :
    Nat → List Event → Desk μ → Prop where
  | passing {log : List Event} {desk : Desk μ}
      (begun : desk.scene.run.pump = .processing batch (gateway.begin batch))
      (answered : IsAnswered told desk.memory.names batch) (unmade : results log = [])
      (pending : acknowledgements log = 0) : Ending gateway told batch 5 log desk
  | handingOver {log : List Event} {desk : Desk μ} {notifications : List Notification}
      {stage : HandOver.Stage}
      (handing : desk.scene.run.pump = .handingOver ⟨notifications, stage⟩)
      (free : ∀ ticket, stage ≠ .wait ticket) (once : results log = [.ok notifications])
      (pending : acknowledgements log = 0) : Ending gateway told batch stage.left log desk
  | ended {log : List Event} {desk : Desk μ} (idle : desk.scene.run.pump = .idle)
      (once : ∃ notifications, results log = [.ok notifications])
      (acknowledged : acknowledgements log = 1) : Ending gateway told batch 0 log desk

namespace Ending

variable {left : Nat}

theorem handles (ending : Ending gateway told batch left log desk)
    (handles : Handles gateway told desk events next) (attended : desk.scene.audience.Attended id)
    (still : next.scene.audience.Attended id) :
    ∃ fewer, fewer < left ∧ Ending gateway told batch fewer (log ++ events) next := by
  cases ending with
  | passing begun answered unmade pending =>
      have onward := handles.onward
      rw [begun] at onward
      obtain ⟨deeds, result, now, shown, comes, abides, concluded, rfl⟩ := onward
      obtain ⟨notifications, rfl⟩ := (answered_of_runsAlone comes.runsAlone abides).1.2 answered
      have silent := silent_did deeds
      have made : results (log ++ (deeds.map .did ++ shown)) = results shown := by
        rw [results_append, results_append, unmade, silent.results]
        rfl
      have counted : acknowledgements (log ++ (deeds.map .did ++ shown)) =
          acknowledgements shown := by
        rw [acknowledgements_append, acknowledgements_append, pending, silent.acknowledgements,
          zero_add, zero_add]
      obtain ⟨scene, memory⟩ := next
      cases concluded with
      | passedNothing => exact ⟨0, by decide, .ended rfl ⟨_, made⟩ counted⟩
      | passed some =>
          exact ⟨HandOver.Stage.register.left, by decide,
            .handingOver rfl (fun _ => nofun) made counted⟩
  | @handingOver _ _ notifications stage handing free once pending =>
      rcases handles.of_handingOver handing free attended still with
        ⟨rfl, rfl, idle⟩ | ⟨silent, further, standing, unblocked, fewer⟩
      · refine ⟨0, by decide, .ended idle ⟨notifications, ?_⟩ ?_⟩
        · rw [results_append, once]
          rfl
        · rw [acknowledgements_append, pending]
          rfl
      · refine ⟨further.left, Nat.lt_of_succ_le fewer.le, .handingOver standing unblocked ?_ ?_⟩
        · rw [results_append, once, silent.results]
          rfl
        · rw [acknowledgements_append, pending, silent.acknowledgements]
  | ended idle =>
      have onward := handles.onward
      rw [idle] at onward
      exact onward.elim

theorem beside (ending : Ending gateway told batch left log desk)
    (beside : Beside gateway desk events next) :
    Ending gateway told batch left (log ++ events) next := by
  obtain ⟨memory, pump, -, same⟩ := beside.keeps
  obtain ⟨quiet, unacknowledged⟩ := same log
  cases ending with
  | passing begun answered unmade pending =>
      exact .passing (pump.trans begun) (memory ▸ answered) (quiet.trans unmade)
        (unacknowledged.trans pending)
  | handingOver handing free once pending =>
      exact .handingOver (pump.trans handing) free (quiet.trans once)
        (unacknowledged.trans pending)
  | ended idle once acknowledged =>
      exact .ended (pump.trans idle) (quiet ▸ once) (unacknowledged.trans acknowledged)

/-- Where somebody stays, a handling that has not ended makes another step. -/
theorem goesOn (ending : Ending gateway told batch left log desk)
    (attended : desk.scene.audience.Attended id) :
    desk.scene.run.pump = .idle ∨
      ∃ events next, Handles gateway told desk events next ∧ next.scene.audience.Attended id := by
  cases ending with
  | passing begun =>
      obtain ⟨deeds, result, after, comes, abides⟩ :=
        exists_abiding told (gateway.begin batch) desk.memory
      obtain ⟨events, next, concluded, same⟩ := exists_concluded gateway desk.scene 0 batch result
      exact .inr ⟨_, ⟨next, after⟩,
        .pass 0 begun comes abides ((makes_conclude_iff begun _).2 concluded), same ▸ attended⟩
  | @handingOver _ _ notifications stage handing free =>
      by_cases finished : stage = .finished
      · subst finished
        exact .inr ⟨_, _, .acknowledge 0 (makes_acknowledge_iff.2 ⟨_, handing, rfl, rfl⟩), attended⟩
      · obtain ⟨further, after, steps, still, -⟩ :=
          HandOver.step_of_attended attended notifications finished free
        exact .inr ⟨_, _, .handOver 0 (makes_handOver_iff.2 ⟨_, _, _, handing, steps, rfl, rfl⟩),
          still⟩
  | ended idle => exact .inl idle

theorem of_idle (ending : Ending gateway told batch left log desk)
    (idle : desk.scene.run.pump = .idle) :
    (∃ notifications, results log = [.ok notifications]) ∧ acknowledgements log = 1 := by
  cases ending with
  | passing begun => cases idle.symm.trans begun
  | handingOver handing => cases idle.symm.trans handing
  | ended _ once acknowledged => exact ⟨once, acknowledged⟩

end Ending

/-- A pump that is free takes the next batch. -/
theorem step_take {scene : Scene μ} {behind : Batch} {rest : List Batch}
    (idle : scene.run.pump = .idle) (waits : scene.run.batches = behind :: rest) :
    Step gateway scene [.took behind]
      ⟨{ scene.run with batches := rest, pump := .processing behind (gateway.begin behind) },
        scene.audience⟩ := by
  obtain ⟨⟨batches, replies, ended, pump, forwarding⟩, audience⟩ := scene
  obtain rfl : pump = .idle := idle
  obtain rfl : batches = behind :: rest := waits
  have takes : Makes gateway ⟨⟨behind :: rest, replies, ended, .idle, forwarding⟩, audience⟩ 0 .take
      [.took behind] ⟨⟨rest, replies, ended, .processing behind (gateway.begin behind), forwarding⟩,
        audience⟩ := ⟨[], rfl, rfl⟩
  exact takes.step (.other rfl)

theorem Handling.ending {steps : Nat} (handling : Handling gateway told id start steps log desk)
    (begun : start.scene.run.pump = .processing batch (gateway.begin batch))
    (answered : IsAnswered told start.memory.names batch) :
    ∃ left, steps + left ≤ 5 ∧ Ending gateway told batch left log desk := by
  induction handling with
  | start => exact ⟨5, le_rfl, .passing begun answered rfl rfl⟩
  | own handling handles still induction =>
      obtain ⟨left, bounded, ending⟩ := induction
      obtain ⟨fewer, less, ending⟩ := ending.handles handles handling.attended still
      exact ⟨fewer, by omega, ending⟩
  | beside _ beside _ induction =>
      obtain ⟨left, bounded, ending⟩ := induction
      exact ⟨left, bounded, ending.beside beside⟩

theorem ends_of_answered (begun : start.scene.run.pump = .processing batch (gateway.begin batch))
    (answered : IsAnswered told start.memory.names batch) : Ends gateway told id start := by
  refine ⟨5, fun steps log desk handling => ?_⟩
  obtain ⟨left, bounded, ending⟩ := handling.ending begun answered
  exact ⟨(Nat.le_add_right _ _).trans bounded, ending.goesOn handling.attended⟩

/-! ## Where a lookup is not answered -/

/-- A handling with a lookup that is not answered: the pump stays with the batch, all passes have
failed, and nothing is acknowledged. -/
structure Stuck (gateway : Gateway μ) (told : String → Outcome) (batch : Batch)
    (log : List Event) (desk : Desk μ) : Prop where
  held : desk.scene.run.pump = .processing batch (gateway.begin batch) ∨
    ∃ due, desk.scene.run.pump = .backingOff batch due
  unanswered : ¬ IsAnswered told desk.memory.names batch
  failed : ∀ result ∈ results log, ∃ error, result = .error error
  pending : acknowledgements log = 0

namespace Stuck

theorem of_begun (begun : desk.scene.run.pump = .processing batch (gateway.begin batch))
    (unanswered : ¬ IsAnswered told desk.memory.names batch) :
    Stuck gateway told batch [] desk :=
  ⟨.inl begun, unanswered, List.forall_mem_nil _, rfl⟩

/-- A pass over a batch that is not answered fails, and leaves the batch as little answered. -/
theorem fails {memory after : GatewayMemory μ} {deeds : List Deed}
    {result : Except BridgeError (List Notification)}
    (comes : ComesAlone (gateway.begin batch) memory deeds result after)
    (abides : Abides told (callsOf deeds)) (unanswered : ¬ IsAnswered told memory.names batch) :
    (∃ error, result = .error error) ∧ ¬ IsAnswered told after.names batch := by
  obtain ⟨verdict, same⟩ := answered_of_runsAlone comes.runsAlone abides
  refine ⟨?_, mt (isAnswered_congr same).1 unanswered⟩
  cases result with
  | error error => exact ⟨error, rfl⟩
  | ok notifications => exact absurd (verdict.1 ⟨notifications, rfl⟩) unanswered

theorem handles (stuck : Stuck gateway told batch log desk)
    (handles : Handles gateway told desk events next) :
    Stuck gateway told batch (log ++ events) next := by
  have onward := handles.onward
  rcases stuck.held with begun | ⟨due, failed⟩
  · rw [begun] at onward
    obtain ⟨deeds, result, now, shown, comes, abides, concluded, rfl⟩ := onward
    obtain ⟨⟨error, rfl⟩, still⟩ := fails comes abides stuck.unanswered
    have silent := silent_did deeds
    obtain ⟨scene, memory⟩ := next
    cases concluded
    refine ⟨.inr ⟨_, rfl⟩, still, ?_, ?_⟩
    · rw [results_append, results_append, silent.results]
      exact List.forall_mem_append.2 ⟨stuck.failed, List.forall_mem_singleton.2 ⟨error, rfl⟩⟩
    · rw [acknowledgements_append, acknowledgements_append, stuck.pending, silent.acknowledgements]
      rfl
  · rw [failed] at onward
    obtain ⟨rfl, rfl⟩ := onward
    rw [List.append_nil]
    exact ⟨.inl rfl, stuck.unanswered, stuck.failed, stuck.pending⟩

theorem beside (stuck : Stuck gateway told batch log desk)
    (beside : Beside gateway desk events next) :
    Stuck gateway told batch (log ++ events) next := by
  obtain ⟨memory, pump, -, same⟩ := beside.keeps
  obtain ⟨quiet, unacknowledged⟩ := same log
  exact ⟨pump ▸ stuck.held, memory ▸ stuck.unanswered, quiet ▸ stuck.failed,
    unacknowledged.trans stuck.pending⟩

end Stuck

theorem Handling.stuck {steps : Nat} (handling : Handling gateway told id start steps log desk)
    (begun : start.scene.run.pump = .processing batch (gateway.begin batch))
    (unanswered : ¬ IsAnswered told start.memory.names batch) :
    Stuck gateway told batch log desk := by
  induction handling with
  | start => exact .of_begun begun unanswered
  | own _ handles _ induction => exact induction.handles handles
  | beside _ beside _ induction => exact induction.beside beside

/-- A pass that fails is made again, any number of times. -/
theorem exists_handling (begun : start.scene.run.pump = .processing batch (gateway.begin batch))
    (attended : start.scene.audience.Attended id)
    (unanswered : ¬ IsAnswered told start.memory.names batch) (count : Nat) :
    ∃ log desk, Handling gateway told id start (2 * count) log desk ∧
      (results log).length = count ∧
      desk.scene.run.pump = .processing batch (gateway.begin batch) := by
  induction count with
  | zero => exact ⟨[], start, .start attended, rfl, begun⟩
  | succ count induction =>
      obtain ⟨log, desk, handling, counted, again⟩ := induction
      obtain ⟨deeds, result, after, comes, abides⟩ :=
        exists_abiding told (gateway.begin batch) desk.memory
      have stuck := handling.stuck begun unanswered
      obtain ⟨⟨error, rfl⟩, -⟩ := Stuck.fails comes abides stuck.unanswered
      have failed := handling.own
        (.pass 0 again comes abides ((makes_conclude_iff again _).2 (.failed error)))
        handling.attended
      have retried := failed.own
        (.retry _ (makes_retry_iff.2 ⟨batch, _, rfl, le_rfl, rfl, rfl⟩)) handling.attended
      refine ⟨_, _, retried, ?_, rfl⟩
      rw [List.append_nil, results_append, results_append, (silent_did deeds).results,
        List.length_append, counted]
      rfl

theorem not_ends_of_unanswered
    (begun : start.scene.run.pump = .processing batch (gateway.begin batch))
    (attended : start.scene.audience.Attended id)
    (unanswered : ¬ IsAnswered told start.memory.names batch) :
    ¬ Ends gateway told id start := by
  rintro ⟨bound, ends⟩
  obtain ⟨log, desk, handling, -⟩ := exists_handling begun attended unanswered (bound + 1)
  have bounded := (ends _ log desk handling).1
  omega

/-! ## The main result -/

/--
Whatever fixed answers the connector gives to lookups, and whatever goes on beside while somebody
stays, the handling of a batch ends if and only if all its lookups are answered: their names are
known, or the answer is a subscription or that there is none.  It has then made one pass, which
ended well, acknowledges the batch once within five steps, and the pump can take the batch behind.
Otherwise passes are made without end, all of them fail, the pump stays with the batch and nothing
is acknowledged.  Every handling is a part of a history, and all batches behind keep waiting.
-/
theorem handling_ends_iff (told : String → Outcome)
    (begun : start.scene.run.pump = .processing batch (gateway.begin batch))
    (attended : start.scene.audience.Attended id) :
    (Ends gateway told id start ↔ IsAnswered told start.memory.names batch) ∧
    (IsAnswered told start.memory.names batch → ∀ steps log desk,
      Handling gateway told id start steps log desk → steps ≤ 5 ∧
        (desk.scene.run.pump = .idle → (∃ notifications, results log = [.ok notifications]) ∧
          acknowledgements log = 1 ∧ ∀ behind rest, desk.scene.run.batches = behind :: rest →
            Step gateway desk.scene [.took behind]
              ⟨{ desk.scene.run with
                  batches := rest, pump := .processing behind (gateway.begin behind) },
                desk.scene.audience⟩)) ∧
    (¬ IsAnswered told start.memory.names batch →
      (∀ count, ∃ steps log desk, Handling gateway told id start steps log desk ∧
        (results log).length = count) ∧
      ∀ steps log desk, Handling gateway told id start steps log desk →
        Stuck gateway told batch log desk) ∧
    ∀ steps log desk, Handling gateway told id start steps log desk →
      (∀ past, History gateway past start.scene → History gateway (past ++ log) desk.scene) ∧
        desk.scene.run.batches = start.scene.run.batches ++ received log := by
  refine ⟨⟨fun ends => ?_, ends_of_answered begun⟩, fun answered steps log desk handling => ?_,
    fun unanswered => ⟨fun count => ?_, fun steps log desk handling => ?_⟩,
    fun steps log desk handling => ⟨fun past => handling.history, handling.batches⟩⟩
  · by_contra unanswered
    exact not_ends_of_unanswered begun attended unanswered ends
  · obtain ⟨left, bounded, ending⟩ := handling.ending begun answered
    refine ⟨(Nat.le_add_right _ _).trans bounded, fun idle => ?_⟩
    obtain ⟨once, acknowledged⟩ := ending.of_idle idle
    exact ⟨once, acknowledged, fun behind rest waits => step_take idle waits⟩
  · obtain ⟨log, desk, handling, counted, -⟩ := exists_handling begun attended unanswered count
    exact ⟨_, log, desk, handling, counted⟩
  · exact handling.stuck begun unanswered

/-- A batch is handled, with another one behind it, and one subscriber is there. -/
def handlingDesk : Desk Unit where
  scene :=
    ⟨⟨[[mined]], [], false, .processing [mined] (receipting.begin [mined]), true⟩,
      ⟨[⟨7, true, []⟩], 1⟩⟩
  memory := ⟨[], ()⟩

theorem handlingDesk_begun :
    handlingDesk.scene.run.pump = .processing [mined] (receipting.begin [mined]) :=
  rfl

theorem handlingDesk_attended : handlingDesk.scene.audience.Attended 7 :=
  ⟨_, List.mem_singleton.2 rfl, rfl, rfl⟩

theorem isAnswered_mined_iff (told : String → Outcome) :
    IsAnswered told handlingDesk.memory.names [mined] ↔ ∃ answer, (told "sub").Tells answer := by
  refine List.forall_mem_singleton.trans (or_iff_right ?_)
  rintro ⟨name, impossible⟩
  cases impossible

/-- A lookup that is answered with a subscription or with its absence lets the handling end, and
one that is refused does not. -/
theorem handling_ends_iff_of_receipting :
    let named : String → Outcome :=
      fun id => .carrying Subscription.codec ⟨id, "t:x", "es-1", none⟩
    let absent : String → Outcome := fun _ => .ok ⟨404, .null⟩
    let refused : String → Outcome := fun _ => .ok ⟨500, .null⟩
    Ends receipting named 7 handlingDesk ∧ Ends receipting absent 7 handlingDesk ∧
      ¬ Ends receipting refused 7 handlingDesk ∧
      ∃ steps log desk, Handling receipting refused 7 handlingDesk steps log desk ∧
        (results log).length = 3 ∧ Stuck receipting refused [mined] log desk := by
  intro named absent refused
  have gives : (named "sub").Gives Subscription.codec ⟨"sub", "t:x", "es-1", none⟩ :=
    ⟨_, rfl, rfl, rfl⟩
  have namedEnds := handling_ends_iff named handlingDesk_begun handlingDesk_attended
  have absentEnds := handling_ends_iff absent handlingDesk_begun handlingDesk_attended
  obtain ⟨ends_iff, -, forever, -⟩ :=
    handling_ends_iff refused handlingDesk_begun handlingDesk_attended
  have unanswered : ¬ IsAnswered refused handlingDesk.memory.names [mined] := by
    rw [isAnswered_mined_iff]
    rintro ⟨answer, tells⟩
    exact Outcome.Fails.tells_nothing (.status rfl) (by decide) answer tells
  obtain ⟨again, stuck⟩ := forever unanswered
  obtain ⟨steps, log, desk, handling, counted⟩ := again 3
  refine ⟨namedEnds.1.2 ((isAnswered_mined_iff named).2 ⟨_, .present gives⟩),
    absentEnds.1.2 ((isAnswered_mined_iff absent).2 ⟨_, .absent (.status rfl) rfl⟩),
    mt ends_iff.1 unanswered, ?_⟩
  exact ⟨steps, log, desk, handling, counted, stuck _ _ _ handling⟩

/-- Answers that are always refused, and answers that succeed and cannot be read, hold up the batch
for ever, and with it the batch behind it. -/
theorem handling_endless_of_refused :
    let refused : String → Outcome := fun _ => .ok ⟨500, .null⟩
    let unreadable : String → Outcome := fun _ => .ok ⟨200, .null⟩
    (∀ id, ∃ failure, (refused id).Fails failure ∧ receipting.client.permits failure = false) ∧
      (∀ id, (unreadable id).Succeeds) ∧ handlingDesk.scene.audience.Attended 7 ∧
      ¬ Ends receipting refused 7 handlingDesk ∧ ¬ Ends receipting unreadable 7 handlingDesk := by
  intro refused unreadable
  refine ⟨fun id => ⟨_, .status rfl, rfl⟩, fun id => ⟨_, rfl, rfl⟩, handlingDesk_attended, ?_, ?_⟩
  · refine not_ends_of_unanswered handlingDesk_begun handlingDesk_attended ?_
    rw [isAnswered_mined_iff]
    rintro ⟨answer, tells⟩
    exact Outcome.Fails.tells_nothing (.status rfl) (by decide) answer tells
  · refine not_ends_of_unanswered handlingDesk_begun handlingDesk_attended ?_
    rw [isAnswered_mined_iff]
    rintro ⟨answer, ⟨response, same, good, reads⟩ | ⟨fails, -⟩⟩
    · obtain rfl := Except.ok.inj same
      cases reads
    · exact fails.not_isSuccess rfl

end Gateway

end TokenRelay
