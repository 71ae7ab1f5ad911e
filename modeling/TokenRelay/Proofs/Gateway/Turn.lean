import TokenRelay.Proofs.Gateway.HandOver
import TokenRelay.Proofs.Gateway.Pass

/-!
# A gateway among its subscribers

A scene is a gateway's run with its audience.  It changes by the moves of the run, where a
pass makes its own steps with any replies, and by what subscribers do at any time: they
are put on the list, announced, take from their queues and close.  The feed may dispatch a
batch or a reply, or end, at any time as well.  While notifications are handed over only
the subscribers who are there can do something, and they may do it between any two.

`GatewayRun.Moves` says once what each move needs and does.  Each step of a scene shows
events.  `Turn` says once what a step can do to the pump and to the batches that wait, and
which events it shows; the other modules about runs rest on these two.
-/

namespace TokenRelay

namespace Audience

/-- A subscriber takes a number of notifications from its queue. -/
def take (id count : Nat) (audience : Audience) : Audience :=
  { audience with
    subscribers := audience.subscribers.map fun subscriber =>
      if subscriber.id = id then { subscriber with queue := subscriber.queue.drop count }
      else subscriber }

/-- What may happen to an audience without the gateway's doing. -/
inductive Changes (audience : Audience) : Audience → Prop where
  | enlist (id : Nat) : Changes audience (audience.enlist id)
  | announce : Changes audience audience.announce
  | take (id count : Nat) : Changes audience (audience.take id count)
  | close (id : Nat) : Changes audience (audience.close id)
  | prune : Changes audience audience.prune

end Audience

namespace GatewayRun

section Moves

variable {π : Type} (begin : Batch → π) (retryDelay now : Nat) (run : GatewayRun π)
  (audience : Audience)

/-- What a move needs, and what comes of it. -/
inductive Moves : Move π → GatewayRun π → Audience → List Request → Prop where
  | dispatchBatch (batch : Batch) :
      Moves (.dispatchBatch batch) (run.dispatchBatch batch) audience []
  | dispatchReply (reply : Reply) :
      Moves (.dispatchReply reply) (run.dispatchReply reply) audience []
  | endFeed (goesOn : run.feedEnded = false) :
      Moves .endFeed { run with feedEnded := true } audience []
  | forward {reply : Reply} {rest : List Reply} (forwarding : run.forwarding = true)
      (first : run.replies = reply :: rest) :
      Moves .forward { run with replies := rest } (audience.broadcast (receipt reply)) []
  | endForwarding (forwarding : run.forwarding = true) (ended : run.feedEnded = true)
      (none : run.replies = []) :
      Moves .endForwarding { run with forwarding := false } audience []
  | take {batch : Batch} {rest : List Batch} (idle : run.pump = .idle)
      (first : run.batches = batch :: rest) :
      Moves .take { run with batches := rest, pump := .processing batch (begin batch) }
        audience []
  | proceed {batch : Batch} {pass : π} (next : π)
      (processing : run.pump = .processing batch pass) :
      Moves (.proceed next) { run with pump := .processing batch next } audience []
  | failed {batch : Batch} {pass : π} (error : BridgeError)
      (processing : run.pump = .processing batch pass) :
      Moves (.conclude (.error error))
        { run with pump := .backingOff batch (now + retryDelay) } audience []
  | passedNothing {batch : Batch} {pass : π}
      (processing : run.pump = .processing batch pass) :
      Moves (.conclude (.ok [])) { run with pump := .idle } audience [.acknowledge]
  | passed {batch : Batch} {pass : π} {notifications : List Notification}
      (processing : run.pump = .processing batch pass) (some : notifications ≠ []) :
      Moves (.conclude (.ok notifications))
        { run with pump := .handingOver (.ofList notifications) } audience []
  | retry {batch : Batch} {due : Nat} (waiting : run.pump = .backingOff batch due)
      (late : due ≤ now) :
      Moves .retry { run with pump := .processing batch (begin batch) } audience []
  | handOver {handOver next : HandOver} {after : Audience}
      (handing : run.pump = .handingOver handOver)
      (steps : handOver.step audience = some (next, after)) :
      Moves .handOver { run with pump := .handingOver next } after []
  | acknowledge {notifications : List Notification}
      (handing : run.pump = .handingOver ⟨notifications, .finished⟩) :
      Moves .acknowledge { run with pump := .idle } audience [.acknowledge]
  | stop (idle : run.pump = .idle) (none : run.batches = [])
      (ended : run.feedEnded = true) :
      Moves .stop { run with pump := .stopped, forwarding := false } audience [.release]
  | abort (goesOn : run.pump ≠ .stopped) :
      Moves .abort { run with pump := .stopped } audience [.release]

end Moves

variable {π : Type} {begin : Batch → π} {retryDelay now : Nat} {run next : GatewayRun π}
  {audience after : Audience} {move : Move π} {requests : List Request}

theorem moves_of_step
    (possible : run.step begin retryDelay now audience move = some (next, after, requests)) :
    Moves begin retryDelay now run audience move next after requests := by
  cases move with
  | dispatchBatch batch =>
      cases possible
      exact .dispatchBatch batch
  | dispatchReply reply =>
      cases possible
      exact .dispatchReply reply
  | endFeed =>
      simp only [step] at possible
      split_ifs at possible with ended
      cases possible
      exact .endFeed (Bool.eq_false_of_not_eq_true ended)
  | forward =>
      simp only [step] at possible
      split at possible
      · rename_i reply rest forwarding first
        cases possible
        exact .forward forwarding first
      · cases possible
  | endForwarding =>
      simp only [step] at possible
      split_ifs at possible with done
      cases possible
      simp only [Bool.and_eq_true, List.isEmpty_iff] at done
      exact .endForwarding done.1.1 done.1.2 done.2
  | take =>
      simp only [step] at possible
      split at possible
      · rename_i batch rest idle first
        cases possible
        exact .take idle first
      · cases possible
  | proceed pass =>
      simp only [step] at possible
      split at possible
      · rename_i batch before processing
        cases possible
        exact .proceed pass processing
      · cases possible
  | conclude result =>
      simp only [step] at possible
      split at possible
      · rename_i batch pass processing
        split at possible
        · rename_i error
          cases possible
          exact .failed error processing
        · cases possible
          exact .passedNothing processing
        · rename_i notifications some
          cases possible
          exact .passed processing some
      · cases possible
  | retry =>
      simp only [step] at possible
      split at possible
      · rename_i batch due waiting
        split_ifs at possible with late
        cases possible
        exact .retry waiting late
      · cases possible
  | handOver =>
      simp only [step] at possible
      split at possible
      · rename_i handOver handing
        split at possible
        · rename_i further later steps
          cases possible
          exact .handOver handing steps
        · cases possible
      · cases possible
  | acknowledge =>
      simp only [step] at possible
      split at possible
      · rename_i handOver handing
        obtain ⟨notifications, stage⟩ := handOver
        split_ifs at possible with finished
        cases possible
        obtain rfl : stage = .finished := by simpa [HandOver.isFinished] using finished
        exact .acknowledge handing
      · cases possible
  | stop =>
      simp only [step] at possible
      split at possible
      · rename_i idle none
        split_ifs at possible with ended
        cases possible
        exact .stop idle none ended
      · cases possible
  | abort =>
      simp only [step] at possible
      split at possible
      · cases possible
      · rename_i goesOn
        cases possible
        exact .abort goesOn

/-- A move is made exactly if its needs are met, and does just that. -/
theorem step_eq_some_iff :
    run.step begin retryDelay now audience move = some (next, after, requests) ↔
      Moves begin retryDelay now run audience move next after requests := by
  refine ⟨moves_of_step, fun moves => ?_⟩
  cases moves with
  | dispatchBatch batch => rfl
  | dispatchReply reply => rfl
  | endFeed goesOn => simp [step, goesOn]
  | forward forwarding first => simp [step, forwarding, first]
  | endForwarding forwarding ended none => simp [step, forwarding, ended, none]
  | take idle first => simp [step, idle, first]
  | proceed next processing => simp [step, processing]
  | failed error processing => simp [step, processing]
  | passedNothing processing => simp [step, processing]
  | passed processing some => simp [step, processing]
  | retry waiting late => simp [step, waiting, late]
  | handOver handing steps => simp [step, handing, steps]
  | acknowledge handing => simp [step, handing, HandOver.isFinished]
  | stop idle none ended => simp [step, idle, none, ended]
  | abort goesOn => simp [step]

end GatewayRun

namespace Gateway

variable {μ : Type}

/-- What a run shows. -/
inductive Event where
  | received (batch : Batch)
  | took (batch : Batch)
  /-- A pass did something. -/
  | did (deed : Deed)
  /-- A pass ended with a failure. -/
  | failed (error : BridgeError)
  /-- A pass ended well. -/
  | passed (notifications : List Notification)
  | gave (notifications : List Notification) (before after : List Subscriber)
  | acknowledged

/-- A gateway's run and its audience. -/
structure Scene (μ : Type) where
  run : GatewayRun (Pass μ)
  audience : Audience

def isOfPass : GatewayRun.Move (Pass μ) → Bool
  | .proceed _ => true
  | .conclude _ => true
  | _ => false

/-- The moves that a pump can make, and what a pass does in them. -/
inductive Permits : Pump (Pass μ) → GatewayRun.Move (Pass μ) → List Deed → Prop where
  | proceed {batch : Batch} {pass next : Pass μ} {deeds : List Deed}
      (proceeds : Proceeds pass deeds next) :
      Permits (.processing batch pass) (.proceed next) deeds
  | conclude {batch : Batch} (result : Except BridgeError (List Notification)) :
      Permits (.processing batch (.done result)) (.conclude result) []
  | other {pump : Pump (Pass μ)} {move : GatewayRun.Move (Pass μ)}
      (apart : isOfPass move = false) : Permits pump move []

/-- What a step of a hand-over shows, given the subscribers after it. -/
def given (handOver : HandOver) (before after : Audience) : List Event :=
  match handOver.stage with
  | .give => [.gave handOver.notifications before.subscribers after.subscribers]
  | _ => []

/-- What is seen of a move. -/
def shown (scene : Scene μ) (after : Audience) : GatewayRun.Move (Pass μ) → List Event
  | .dispatchBatch batch => [.received batch]
  | .take => scene.run.batches.head?.toList.map .took
  | .conclude (.error error) => [.failed error]
  | .conclude (.ok notifications) => [.passed notifications]
  | .handOver =>
    match scene.run.pump with
    | .handingOver handOver => given handOver scene.audience after
    | _ => []
  | _ => []

/-- What a request to the feed shows. -/
def asked : GatewayRun.Request → List Event
  | .acknowledge => [.acknowledged]
  | .release => []

/-- One step of a scene, and the events that it shows. -/
inductive Step (gateway : Gateway μ) : Scene μ → List Event → Scene μ → Prop where
  | move {scene : Scene μ} {run : GatewayRun (Pass μ)} {audience : Audience}
      {requests : List GatewayRun.Request} {deeds : List Deed} (now : Nat)
      (move : GatewayRun.Move (Pass μ)) (permits : Permits scene.run.pump move deeds)
      (possible : scene.run.step gateway.begin gateway.retryDelay now scene.audience move =
        some (run, audience, requests)) :
      Step gateway scene
        (deeds.map .did ++ shown scene audience move ++ requests.flatMap asked)
        ⟨run, audience⟩
  /-- The notifications are given while subscribers take and close. -/
  | give {scene : Scene μ} {notifications : List Notification} {after : List Subscriber}
      (giving : scene.run.pump = .handingOver ⟨notifications, .give⟩)
      (gives : Audience.Gives notifications scene.audience.subscribers after) :
      Step gateway scene [.gave notifications scene.audience.subscribers after]
        ⟨{ scene.run with
            pump := .handingOver
              ⟨notifications, if after.isEmpty then .register else .finished⟩ },
          { scene.audience with subscribers := after }⟩
  /-- A subscriber does something. -/
  | change {scene : Scene μ} {audience : Audience}
      (changes : scene.audience.Changes audience) :
      Step gateway scene [] ⟨scene.run, audience⟩

/-- A scene that a gateway may come to, from its start on, and all that was shown. -/
inductive History (gateway : Gateway μ) : List Event → Scene μ → Prop where
  | start (audience : Audience) : History gateway [] ⟨.start, audience⟩
  | step {log events : List Event} {scene next : Scene μ}
      (history : History gateway log scene) (step : Step gateway scene events next) :
      History gateway (log ++ events) next

/-! ## What a step can do -/

/-- What a step can do to the pump and the batches that wait, and what it shows. -/
inductive Turn (gateway : Gateway μ) :
    Pump (Pass μ) → List Batch → List Event → Pump (Pass μ) → List Batch → Prop where
  | aside (pump : Pump (Pass μ)) (batches : List Batch) :
      Turn gateway pump batches [] pump batches
  | received (pump : Pump (Pass μ)) (batches : List Batch) (batch : Batch) :
      Turn gateway pump batches [.received batch] pump (batches ++ [batch])
  | took (batch : Batch) (rest : List Batch) :
      Turn gateway .idle (batch :: rest) [.took batch]
        (.processing batch (gateway.begin batch)) rest
  | proceeded {pass next : Pass μ} {deeds : List Deed} (batch : Batch) (batches : List Batch)
      (proceeds : Proceeds pass deeds next) :
      Turn gateway (.processing batch pass) batches (deeds.map .did)
        (.processing batch next) batches
  | failed (batch : Batch) (batches : List Batch) (error : BridgeError) (due : Nat) :
      Turn gateway (.processing batch (.done (.error error))) batches [.failed error]
        (.backingOff batch due) batches
  | retried (batch : Batch) (batches : List Batch) (due : Nat) :
      Turn gateway (.backingOff batch due) batches []
        (.processing batch (gateway.begin batch)) batches
  | passedNothing (batch : Batch) (batches : List Batch) :
      Turn gateway (.processing batch (.done (.ok []))) batches
        [.passed [], .acknowledged] .idle batches
  | passed {notifications : List Notification} (batch : Batch) (batches : List Batch)
      (some : notifications ≠ []) :
      Turn gateway (.processing batch (.done (.ok notifications))) batches
        [.passed notifications] (.handingOver (.ofList notifications)) batches
  | waited (notifications : List Notification) (batches : List Batch)
      {stage next : HandOver.Stage} (unfinished : stage ≠ .finished)
      (further : next ≠ .finished) :
      Turn gateway (.handingOver ⟨notifications, stage⟩) batches []
        (.handingOver ⟨notifications, next⟩) batches
  | missed {notifications : List Notification} {before : List Subscriber}
      (batches : List Batch) (gives : Audience.Gives notifications before []) :
      Turn gateway (.handingOver ⟨notifications, .give⟩) batches
        [.gave notifications before []] (.handingOver ⟨notifications, .register⟩) batches
  | gave {notifications : List Notification} {before after : List Subscriber}
      (batches : List Batch) (gives : Audience.Gives notifications before after)
      (somebody : after ≠ []) :
      Turn gateway (.handingOver ⟨notifications, .give⟩) batches
        [.gave notifications before after] (.handingOver ⟨notifications, .finished⟩) batches
  | acknowledged (notifications : List Notification) (batches : List Batch) :
      Turn gateway (.handingOver ⟨notifications, .finished⟩) batches [.acknowledged]
        .idle batches
  | stopped (pump : Pump (Pass μ)) (batches : List Batch) :
      Turn gateway pump batches [] .stopped batches

/-- A hand-over goes on if somebody was given the list, and begins again otherwise. -/
theorem turn_give (gateway : Gateway μ) (batches : List Batch)
    {notifications : List Notification} {before after : List Subscriber}
    (gives : Audience.Gives notifications before after) :
    Turn gateway (.handingOver ⟨notifications, .give⟩) batches
      [.gave notifications before after]
      (.handingOver ⟨notifications, if after.isEmpty then .register else .finished⟩)
      batches := by
  cases after with
  | nil => exact .missed batches gives
  | cons first rest => exact .gave batches gives (List.cons_ne_nil first rest)

theorem turn_handOver (gateway : Gateway μ) (batches : List Batch) {handOver next : HandOver}
    {before after : Audience} (steps : handOver.step before = some (next, after)) :
    Turn gateway (.handingOver handOver) batches (given handOver before after)
      (.handingOver next) batches := by
  obtain ⟨notifications, stage⟩ := handOver
  cases stage with
  | register =>
      obtain ⟨rfl, rfl⟩ := by simpa [HandOver.step] using steps
      exact .waited notifications batches nofun nofun
  | count ticket =>
      simp only [HandOver.step] at steps
      split_ifs at steps
      · obtain ⟨rfl, rfl⟩ := by simpa using steps
        exact .waited notifications batches nofun nofun
      · obtain ⟨rfl, rfl⟩ := by simpa using steps
        exact .waited notifications batches nofun nofun
  | wait ticket =>
      simp only [HandOver.step] at steps
      split_ifs at steps
      obtain ⟨rfl, rfl⟩ := by simpa using steps
      exact .waited notifications batches nofun nofun
  | give =>
      have turn := turn_give gateway batches
        (Audience.gives_handOver notifications before.subscribers)
      simp only [HandOver.step, Audience.size, Audience.handOver,
        List.length_eq_zero_iff] at steps
      split_ifs at steps with nobody
      · obtain ⟨rfl, rfl⟩ := by simpa using steps
        rwa [if_pos (List.isEmpty_iff.2 nobody)] at turn
      · obtain ⟨rfl, rfl⟩ := by simpa using steps
        rwa [if_neg (mt List.isEmpty_iff.1 nobody)] at turn
  | finished => simp [HandOver.step] at steps

/-- A move other than those of a pass turns the pump. -/
theorem turn_move (gateway : Gateway μ) {scene : Scene μ} {now : Nat}
    {run : GatewayRun (Pass μ)} {audience : Audience} {requests : List GatewayRun.Request}
    {move : GatewayRun.Move (Pass μ)} (apart : isOfPass move = false)
    (possible : scene.run.step gateway.begin gateway.retryDelay now scene.audience move =
      some (run, audience, requests)) :
    Turn gateway scene.run.pump scene.run.batches
      (shown scene audience move ++ requests.flatMap asked) run.pump run.batches := by
  cases GatewayRun.moves_of_step possible with
  | dispatchBatch batch => exact .received _ _ batch
  | take idle first =>
      rw [idle, first, shown, first]
      exact .took _ _
  | proceed => cases apart
  | failed => cases apart
  | passedNothing => cases apart
  | passed => cases apart
  | retry waiting late =>
      rw [waiting]
      exact .retried _ _ _
  | handOver handing steps =>
      rw [handing, shown, handing]
      exact (List.append_nil (given _ _ _)).symm ▸ turn_handOver gateway _ steps
  | acknowledge handing =>
      rw [handing]
      exact .acknowledged _ _
  | stop => exact .stopped _ _
  | abort => exact .stopped _ _
  | _ => exact .aside _ _

/-- Whatever a scene does is one turn of its pump. -/
theorem Step.turn {gateway : Gateway μ} {scene next : Scene μ} {events : List Event}
    (step : Step gateway scene events next) :
    Turn gateway scene.run.pump scene.run.batches events next.run.pump next.run.batches := by
  cases step with
  | change changes => exact .aside _ _
  | give giving gives =>
      rw [giving]
      exact turn_give gateway _ gives
  | move now move permits possible =>
      obtain ⟨⟨batches, replies, feedEnded, pump, forwarding⟩, before⟩ := scene
      dsimp only at permits
      cases permits with
      | other apart => exact turn_move gateway apart possible
      | proceed proceeds =>
          cases GatewayRun.moves_of_step possible with
          | proceed _ processing =>
              cases processing
              simpa [shown] using Turn.proceeded _ batches proceeds
      | conclude result =>
          cases GatewayRun.moves_of_step possible with
          | failed error processing =>
              cases processing
              exact .failed _ batches _ _
          | passedNothing processing =>
              cases processing
              exact .passedNothing _ batches
          | passed processing some =>
              cases processing
              exact .passed _ batches some

end Gateway

end TokenRelay
