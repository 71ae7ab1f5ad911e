import TokenRelay.Proofs.Feed.Closing
import TokenRelay.Proofs.Feed.Dispatch
import TokenRelay.Proofs.Gateway.Reception

/-!
# Receipts

The replies that a socket dispatches go to a task of their own, which forwards one after the
other while the pump takes batches.  Here the two are put together with the socket.  Whoever
made the socket has its handle first, and may give it commands.  Then the run takes the
handle, and nobody else can give the socket a command: the run acknowledges batches, and the
handle is let go of when the pump stops, which tells the socket to close.

So a feed that nobody told to close before the run began does not end before the pump has
stopped, and the pump does not stop because of that end (`Sound`).  What forwards the replies
goes on after the pump then; it ends with the feed, and only when all replies were forwarded.

A feed that was told to close before ends while the run is at it.  The run returns when the
pump finds no more batches, nothing is forwarded from then on, and the replies that wait at
that moment become no receipts.
-/

namespace TokenRelay

/-- A socket, and a gateway whose run takes its handle. -/
structure Conduit (μ : Type) where
  settings : SocketSettings
  gateway : Gateway μ

namespace Conduit

open Gateway (Pass Scene Note Noted)
open Socket (Phase)

variable {μ : Type}

/-- A socket and the gateway that its handle was given to. -/
structure State (μ : Type) where
  phase : Phase
  /-- The commands that wait to be read by the socket. -/
  orders : List Socket.Command
  /-- The commands that were given before the run took the handle. -/
  called : List Socket.Command
  /-- The run has taken the handle. -/
  begun : Bool
  scene : Scene μ

/-- Neither the socket nor the gateway has done anything. -/
def start (audience : Audience) : State μ :=
  ⟨.unstarted, [], [], false, ⟨.start, audience⟩⟩

/-! ## Steps -/

/-- What the run receives of what the socket does. -/
def receive (run : GatewayRun (Pass μ)) : Socket.Action → GatewayRun (Pass μ)
  | .batch events => run.dispatchBatch events
  | .reply reply => run.dispatchReply reply
  | _ => run

/-- What an action hands to the gateway. -/
def dispatched : Socket.Action → List Note
  | .batch events => [.shown (.received events)]
  | .reply reply => [.replied reply]
  | _ => []

/-- Whether a note is of something that comes from the socket. -/
def isInward : Note → Bool
  | .shown (.received _) => true
  | .replied _ => true
  | _ => false

/-- The commands that the run gives; letting go of the handle is one to close. -/
def ordersOf : Note → List Socket.Command
  | .shown .acknowledged => [.acknowledge]
  | .returned => [.close]
  | .aborted => [.close]
  | _ => []

/-- Commands are lost on a socket that is closed. -/
def command (phase : Phase) (orders more : List Socket.Command) : List Socket.Command :=
  if phase.isClosed then orders else orders ++ more

/-- One step of a conduit, and what is noted of it. -/
inductive Step (conduit : Conduit μ) : State μ → List Note → State μ → Prop where
  | socket {state : State μ} {input : Socket.Input} {rest : List Socket.Command}
      {phase : Phase} {actions : List Socket.Action} (now : Nat)
      (offers : Socket.Offers state.orders input rest)
      (possible : Socket.step conduit.settings now state.phase input =
        some (phase, actions)) :
      Step conduit state (actions.flatMap dispatched)
        { state with
          phase := phase
          orders := rest
          scene := ⟨actions.foldl receive state.scene.run, state.scene.audience⟩ }
  /-- Whoever has the handle before the run gives a command. -/
  | call {state : State μ} (order : Socket.Command) (unbegun : state.begun = false) :
      Step conduit state []
        { state with
          orders := command state.phase state.orders [order]
          called := state.called ++ [order] }
  /-- The run takes the handle. -/
  | begin {state : State μ} : Step conduit state [] { state with begun := true }
  /-- The run makes a step once it has begun, or a subscriber does.  The feed has ended where
  the socket is closed. -/
  | gateway {state : State μ} {notes : List Note} {scene : Scene μ}
      (noted : Noted conduit.gateway state.scene notes scene)
      (own : ∀ note ∈ notes, isInward note = false)
      (begun : state.begun = true ∨ scene.run = state.scene.run)
      (ended : .feedEnded ∈ notes → state.phase.isClosed = true) :
      Step conduit state notes
        { state with
          orders := command state.phase state.orders (notes.flatMap ordersOf)
          scene := scene }

/-! ## Replies and receipts -/

def replied? : Note → Option Reply
  | .replied reply => some reply
  | _ => none

def forwarded? : Note → Option Reply
  | .forwarded reply _ _ => some reply
  | _ => none

/-- The replies that the socket dispatched. -/
def repliedIn (log : List Note) : List Reply :=
  log.filterMap replied?

/-- The replies that were forwarded. -/
def forwardedIn (log : List Note) : List Reply :=
  log.filterMap forwarded?

section Notes

variable (log notes : List Note)

@[simp]
theorem repliedIn_append : repliedIn (log ++ notes) = repliedIn log ++ repliedIn notes :=
  List.filterMap_append

@[simp]
theorem forwardedIn_append :
    forwardedIn (log ++ notes) = forwardedIn log ++ forwardedIn notes :=
  List.filterMap_append

theorem repliedIn_concat (note : Note) :
    repliedIn (log ++ [note]) = repliedIn log ++ (replied? note).toList := by
  rw [repliedIn_append]
  cases note <;> rfl

theorem forwardedIn_concat (note : Note) :
    forwardedIn (log ++ [note]) = forwardedIn log ++ (forwarded? note).toList := by
  rw [forwardedIn_append]
  cases note <;> rfl

end Notes

/-- Other notes do not matter to replies. -/
theorem balanced_concat {log : List Note} {note : Note} {replies : List Reply}
    (balanced : forwardedIn log ++ replies = repliedIn log) (notReplied : replied? note = none)
    (notForwarded : forwarded? note = none) :
    forwardedIn (log ++ [note]) ++ replies = repliedIn (log ++ [note]) := by
  rw [forwardedIn_concat, repliedIn_concat, notReplied, notForwarded]
  simpa using balanced

/-- What the socket dispatches is added to what the run has to forward. -/
theorem foldl_receive (run : GatewayRun (Pass μ)) (actions : List Socket.Action) :
    (actions.foldl receive run).replies =
        run.replies ++ repliedIn (actions.flatMap dispatched) ∧
      forwardedIn (actions.flatMap dispatched) = [] ∧
      (actions.foldl receive run).pump = run.pump ∧
      (actions.foldl receive run).forwarding = run.forwarding ∧
      (actions.foldl receive run).feedEnded = run.feedEnded := by
  induction actions generalizing run with
  | nil => exact ⟨(List.append_nil _).symm, rfl, rfl, rfl, rfl⟩
  | cons action actions induction =>
      obtain ⟨replies, none, pump, forwarding, feedEnded⟩ := induction (receive run action)
      rw [List.foldl_cons, List.flatMap_cons, repliedIn_append, forwardedIn_append, replies,
        none, pump, forwarding, feedEnded]
      cases action with
      | reply reply => exact ⟨List.append_assoc _ _ _, rfl, rfl, rfl, rfl⟩
      | _ => exact ⟨rfl, rfl, rfl, rfl, rfl⟩

/-- Whether a note is of a pump at work or of a subscriber. -/
def isAside : Note → Bool
  | .shown _ => true
  | .enlisted _ => true
  | .took _ _ => true
  | .closed _ => true
  | _ => false

/-- What a step of the gateway can do about replies. -/
inductive Answers (scene : Scene μ) : List Note → Scene μ → Prop where
  | aside {notes : List Note} {next : Scene μ}
      (quiet : ∀ note ∈ notes, isAside note = true)
      (replies : next.run.replies = scene.run.replies)
      (forwarding : next.run.forwarding = scene.run.forwarding)
      (feedEnded : next.run.feedEnded = scene.run.feedEnded)
      (stays : scene.run.pump = .stopped → next.run.pump = .stopped) :
      Answers scene notes next
  | forwarded {reply : Reply} {rest : List Reply} (forwarding : scene.run.forwarding = true)
      (first : scene.run.replies = reply :: rest) :
      Answers scene
        [.forwarded reply scene.audience.subscribers
          (scene.audience.broadcast (GatewayRun.receipt reply)).subscribers]
        ⟨{ scene.run with replies := rest },
          scene.audience.broadcast (GatewayRun.receipt reply)⟩
  | feedEnded :
      Answers scene [.feedEnded] ⟨{ scene.run with feedEnded := true }, scene.audience⟩
  | forwardingEnded (ended : scene.run.feedEnded = true) (none : scene.run.replies = []) :
      Answers scene [.forwardingEnded]
        ⟨{ scene.run with forwarding := false }, scene.audience⟩
  | returned (idle : scene.run.pump = .idle) (ended : scene.run.feedEnded = true) :
      Answers scene [.returned]
        ⟨{ scene.run with pump := .stopped, forwarding := false }, scene.audience⟩
  | aborted :
      Answers scene [.aborted] ⟨{ scene.run with pump := .stopped }, scene.audience⟩

/-- Whether a move is one of a pump at work. -/
def isOfPump : GatewayRun.Move (Pass μ) → Bool
  | .take => true
  | .proceed _ => true
  | .conclude _ => true
  | .retry => true
  | .handOver => true
  | .acknowledge => true
  | _ => false

variable {gateway : Gateway μ} {scene next : Scene μ} {log notes : List Note}

theorem replies_of_pump {begin : Batch → Pass μ} {retryDelay now : Nat}
    {run further : GatewayRun (Pass μ)} {audience after : Audience}
    {move : GatewayRun.Move (Pass μ)} {requests : List GatewayRun.Request}
    (works : isOfPump move = true)
    (possible : run.step begin retryDelay now audience move =
      some (further, after, requests)) :
    further.replies = run.replies ∧ further.forwarding = run.forwarding ∧
      further.feedEnded = run.feedEnded := by
  cases GatewayRun.moves_of_step possible with
  | dispatchBatch => cases works
  | dispatchReply => cases works
  | endFeed => cases works
  | forward => cases works
  | endForwarding => cases works
  | stop => cases works
  | abort => cases works
  | _ => exact ⟨rfl, rfl, rfl⟩

theorem isAside_of_pump {deeds : List Gateway.Deed} {move : GatewayRun.Move (Pass μ)}
    {after : Audience} {requests : List GatewayRun.Request} (works : isOfPump move = true) :
    ∀ note ∈ Gateway.notesOf scene deeds move after requests, isAside note = true := by
  have none : Gateway.sideNotes scene after move = [] := by
    cases move <;> first | rfl | cases works
  intro note member
  rw [Gateway.notesOf, none, List.append_nil] at member
  obtain ⟨event, -, rfl⟩ := List.mem_map.1 member
  rfl

/-- A pump that was stopped stays so. -/
theorem stopped_of_turn {pump : Pump (Pass μ)} {batches waiting : List Batch}
    {events : List Gateway.Event}
    (turn : Gateway.Turn gateway .stopped batches events pump waiting) : pump = .stopped := by
  cases turn <;> rfl

/-- A move that is none of the pump at work does one thing about replies. -/
theorem answers_of_move {now : Nat} {run : GatewayRun (Pass μ)} {after : Audience}
    {requests : List GatewayRun.Request} {deeds : List Gateway.Deed}
    {move : GatewayRun.Move (Pass μ)} (apart : isOfPump move = false)
    (permits : Gateway.Permits scene.run.pump move deeds)
    (possible : scene.run.step gateway.begin gateway.retryDelay now scene.audience move =
      some (run, after, requests))
    (own : ∀ note ∈ Gateway.notesOf scene deeds move after requests, isInward note = false) :
    Answers scene (Gateway.notesOf scene deeds move after requests) ⟨run, after⟩ := by
  cases GatewayRun.moves_of_step possible with
  | forward forwarding first =>
      rw [Gateway.notesOf_forward permits first]
      exact .forwarded forwarding first
  | dispatchBatch batch =>
      cases own (.shown (.received batch)) (by simp [Gateway.notesOf, Gateway.shown])
  | dispatchReply reply =>
      cases own (.replied reply) (List.mem_append_right _ List.mem_cons_self)
  | endFeed =>
      rw [permits.none rfl]
      exact .feedEnded
  | endForwarding forwarding ended none =>
      rw [permits.none rfl]
      exact .forwardingEnded ended none
  | stop idle none ended =>
      rw [permits.none rfl]
      exact .returned idle ended
  | abort =>
      rw [permits.none rfl]
      exact .aborted
  | _ => cases apart

/-- A subscriber who is given something, takes something or closes notes nothing of replies. -/
theorem isAside_of_giving {notifications : List Notification}
    {before after : List Subscriber}
    (given : Gateway.Giving notifications before notes after) :
    ∀ note ∈ notes ++ [.shown (.gave notifications before after)], isAside note = true := by
  intro note member
  rcases List.mem_append.1 member with personal | last
  · obtain ⟨subscriber, -, of⟩ := given.isOf note personal
    cases of <;> rfl
  · rw [List.mem_singleton.1 last]
    rfl

/-- Whatever the gateway or a subscriber does is one of these things about replies. -/
theorem answers_of_noted (noted : Noted gateway scene notes next)
    (own : ∀ note ∈ notes, isInward note = false) : Answers scene notes next := by
  have stays : scene.run.pump = .stopped → next.run.pump = .stopped := by
    intro stopped
    have turn := noted.step.turn
    rw [stopped] at turn
    exact stopped_of_turn turn
  cases noted with
  | move now move permits possible =>
      cases works : isOfPump move with
      | true =>
          obtain ⟨replies, forwarding, feedEnded⟩ := replies_of_pump works possible
          exact .aside (isAside_of_pump works) replies forwarding feedEnded stays
      | false => exact answers_of_move works permits possible own
  | give giving given => exact .aside (isAside_of_giving given) rfl rfl rfl stays
  | enlist fresh => exact .aside (List.forall_mem_singleton.2 rfl) rfl rfl rfl stays
  | announce => exact .aside (List.forall_mem_nil _) rfl rfl rfl stays
  | take member count => exact .aside (List.forall_mem_singleton.2 rfl) rfl rfl rfl stays
  | close id => exact .aside (List.forall_mem_singleton.2 rfl) rfl rfl rfl stays
  | prune => exact .aside (List.forall_mem_nil _) rfl rfl rfl stays

/-! ## What a conduit keeps -/

theorem repliedIn_of_aside (quiet : ∀ note ∈ notes, isAside note = true) :
    repliedIn notes = [] := by
  rw [repliedIn, List.filterMap_eq_nil_iff]
  intro note member
  have aside := quiet note member
  cases note <;> first | rfl | cases aside

theorem forwardedIn_of_aside (quiet : ∀ note ∈ notes, isAside note = true) :
    forwardedIn notes = [] := by
  rw [forwardedIn, List.filterMap_eq_nil_iff]
  intro note member
  have aside := quiet note member
  cases note <;> first | rfl | cases aside

/-- A pump at work does not tell the socket to close. -/
theorem close_not_mem_of_aside (quiet : ∀ note ∈ notes, isAside note = true) :
    .close ∉ notes.flatMap ordersOf := by
  intro member
  obtain ⟨note, noted, orders⟩ := List.mem_flatMap.1 member
  have aside := quiet note noted
  cases note with
  | shown event => cases event <;> simp [ordersOf] at orders
  | returned => cases aside
  | aborted => cases aside
  | _ => simp [ordersOf] at orders

theorem not_isClosed_of_transition {settings : SocketSettings} {now : Nat}
    {phase further : Phase} {input : Socket.Input} {actions : List Socket.Action}
    (does : Socket.Transition settings now phase input further actions) :
    phase.isClosed = false := by
  cases does with
  | unsent sending =>
      cases phase with
      | closed => cases sending
      | _ => rfl
  | _ => rfl

theorem isParting_of_isClosed {phase : Phase} (closed : phase.isClosed = true) :
    phase.isParting = true := by
  cases phase with
  | closed => rfl
  | _ => cases closed

theorem mem_command {phase : Phase} {orders more : List Socket.Command}
    {order : Socket.Command} (member : order ∈ command phase orders more) :
    order ∈ orders ∨ order ∈ more := by
  unfold command at member
  split_ifs at member
  · exact .inl member
  · exact List.mem_append.1 member

/-- A close that is read, or left in the queue, was in the queue. -/
theorem close_mem_of_offers {orders rest : List Socket.Command} {input : Socket.Input}
    (offers : Socket.Offers orders input rest)
    (close : .close ∈ rest ∨ input.command? = some .close) : .close ∈ orders := by
  cases offers with
  | command order rest =>
      rcases close with waits | read
      · exact List.mem_cons_of_mem _ waits
      · cases read
        exact List.mem_cons_self
  | other queue free =>
      rcases close with waits | read
      · exact waits
      · rw [free] at read
        cases read

/-- What holds of every conduit. -/
structure Sound (log : List Note) (state : State μ) : Prop where
  /-- Replies are forwarded in the order of their dispatch, and the others wait. -/
  balanced : forwardedIn log ++ state.scene.run.replies = repliedIn log
  ended : state.scene.run.feedEnded = true → state.phase.isClosed = true
  /-- The socket is told to close by a handle that is let go of, or before the run. -/
  held : state.phase.isParting = true ∨ .close ∈ state.orders →
    state.scene.run.pump = .stopped ∨ .close ∈ state.called
  /-- No reply waits that would not be forwarded, unless the run has returned. -/
  settled : state.scene.run.forwarding = false →
    state.phase.isClosed = true ∧ (state.scene.run.replies = [] ∨ .returned ∈ log)
  /-- A run returns only from a feed that was told to close before, and is silent then. -/
  gone : .returned ∈ log → state.scene.run.forwarding = false ∧ .close ∈ state.called

variable {conduit : Conduit μ} {state via further : State μ}

theorem sound_start (audience : Audience) : Sound [] (start audience : State μ) where
  balanced := rfl
  ended := nofun
  held := by simp [start, Phase.isParting]
  settled := nofun
  gone := nofun

/-- A feed ends while the pump is not stopped only if it was told to close before. -/
theorem Sound.close_of_feedEnded (sound : Sound log state)
    (runs : state.scene.run.pump ≠ .stopped) (ended : state.scene.run.feedEnded = true) :
    .close ∈ state.called :=
  (sound.held (.inl (isParting_of_isClosed (sound.ended ended)))).resolve_left runs

/-- Commands other than to close do not change who told the socket to close. -/
theorem Sound.held_of_command (sound : Sound log state) {more : List Socket.Command}
    (other : .close ∉ more)
    (told : state.phase.isParting = true ∨ .close ∈ command state.phase state.orders more) :
    state.scene.run.pump = .stopped ∨ .close ∈ state.called := by
  apply sound.held
  rcases told with parting | waits
  · exact .inl parting
  · exact .inr ((mem_command waits).resolve_right other)

/-- What was settled stays so whatever is noted next. -/
theorem Sound.settled_append (sound : Sound log state) (notes : List Note)
    (silent : state.scene.run.forwarding = false) :
    state.phase.isClosed = true ∧
      (state.scene.run.replies = [] ∨ .returned ∈ log ++ notes) :=
  (sound.settled silent).imp_right (Or.imp_right (List.mem_append_left _))

/-- A run that has returned did so before a step that is not its return. -/
theorem Sound.gone_append (sound : Sound log state) (unreturned : .returned ∉ notes)
    (member : .returned ∈ log ++ notes) :
    state.scene.run.forwarding = false ∧ .close ∈ state.called :=
  sound.gone ((List.mem_append.1 member).resolve_right unreturned)

theorem returned_not_mem_dispatched (actions : List Socket.Action) :
    .returned ∉ actions.flatMap dispatched := by
  intro member
  obtain ⟨action, -, returned⟩ := List.mem_flatMap.1 member
  cases action <;> simp [dispatched] at returned

theorem Sound.socket (sound : Sound log state) {now : Nat} {input : Socket.Input}
    {rest : List Socket.Command} {phase : Phase} {actions : List Socket.Action}
    (offers : Socket.Offers state.orders input rest)
    (possible : Socket.step conduit.settings now state.phase input = some (phase, actions)) :
    Sound (log ++ actions.flatMap dispatched)
      { state with
        phase := phase
        orders := rest
        scene := ⟨actions.foldl receive state.scene.run, state.scene.audience⟩ } := by
  have does := Socket.transition_of_step possible
  have open' := not_isClosed_of_transition does
  obtain ⟨replies, none, pump, forwarding, feedEnded⟩ :=
    foldl_receive state.scene.run actions
  constructor
  · rw [forwardedIn_append, repliedIn_append, none, List.append_nil, replies,
      ← List.append_assoc, sound.balanced]
  · rw [feedEnded]
    intro ended
    rw [sound.ended ended] at open'
    cases open'
  · rw [pump]
    rintro (parting | waits)
    · rcases does.parting_iff.1 parting with already | close
      · exact sound.held (.inl already)
      · exact sound.held (.inr (close_mem_of_offers offers (.inr close)))
    · exact sound.held (.inr (close_mem_of_offers offers (.inl waits)))
  · rw [forwarding]
    intro silent
    rw [(sound.settled silent).1] at open'
    cases open'
  · rw [forwarding]
    exact sound.gone_append (returned_not_mem_dispatched actions)

/-- A command that is given before the run is kept in mind. -/
theorem Sound.call (sound : Sound log state) (order : Socket.Command) :
    Sound log
      { state with
        orders := command state.phase state.orders [order]
        called := state.called ++ [order] } where
  balanced := sound.balanced
  ended := sound.ended
  held := by
    have before {condition : Prop} (told : condition ∨ .close ∈ state.called) :
        condition ∨ .close ∈ state.called ++ [order] :=
      told.imp_right (List.mem_append_left _)
    rintro (parting | waits)
    · exact before (sound.held (.inl parting))
    · rcases mem_command waits with waited | given
      · exact before (sound.held (.inr waited))
      · exact .inr (List.mem_append_right _ given)
  settled := sound.settled
  gone := fun returned =>
    ⟨(sound.gone returned).1, List.mem_append_left _ (sound.gone returned).2⟩

/-- A pump at work changes nothing about replies. -/
theorem Sound.aside (sound : Sound log state)
    (quiet : ∀ note ∈ notes, isAside note = true)
    (replies : next.run.replies = state.scene.run.replies)
    (forwarding : next.run.forwarding = state.scene.run.forwarding)
    (feedEnded : next.run.feedEnded = state.scene.run.feedEnded)
    (stays : state.scene.run.pump = .stopped → next.run.pump = .stopped) :
    Sound (log ++ notes)
      { state with
        orders := command state.phase state.orders (notes.flatMap ordersOf)
        scene := next } := by
  have unreturned : .returned ∉ notes := fun member => nomatch quiet _ member
  constructor
  · rw [forwardedIn_append, repliedIn_append, forwardedIn_of_aside quiet,
      repliedIn_of_aside quiet, List.append_nil, List.append_nil, replies, sound.balanced]
  · rw [feedEnded]
    exact sound.ended
  · intro told
    exact (sound.held_of_command (close_not_mem_of_aside quiet) told).imp_left stays
  · rw [forwarding, replies]
    exact sound.settled_append notes
  · rw [forwarding]
    exact sound.gone_append unreturned

theorem Sound.answered (sound : Sound log state)
    (answers : Answers state.scene notes next)
    (ended : .feedEnded ∈ notes → state.phase.isClosed = true) :
    Sound (log ++ notes)
      { state with
        orders := command state.phase state.orders (notes.flatMap ordersOf)
        scene := next } := by
  cases answers with
  | aside quiet replies forwarding feedEnded stays =>
      exact sound.aside quiet replies forwarding feedEnded stays
  | forwarded forwarding first =>
      have balanced := sound.balanced
      rw [first] at balanced
      constructor
      · rw [forwardedIn_concat, repliedIn_concat]
        simpa [forwarded?, replied?] using balanced
      · exact sound.ended
      · exact sound.held_of_command List.not_mem_nil
      · intro silent
        rw [forwarding] at silent
        cases silent
      · exact sound.gone_append (by simp)
  | feedEnded =>
      constructor
      · exact balanced_concat sound.balanced rfl rfl
      · exact fun _ => ended List.mem_cons_self
      · exact sound.held_of_command List.not_mem_nil
      · exact sound.settled_append _
      · exact sound.gone_append (by simp)
  | forwardingEnded done none =>
      constructor
      · exact balanced_concat sound.balanced rfl rfl
      · exact sound.ended
      · exact sound.held_of_command List.not_mem_nil
      · exact fun _ => ⟨sound.ended done, .inl none⟩
      · exact fun member => ⟨rfl, (sound.gone_append (by simp) member).2⟩
  | returned idle done =>
      have runs : state.scene.run.pump ≠ .stopped := by
        rw [idle]
        nofun
      constructor
      · exact balanced_concat sound.balanced rfl rfl
      · exact sound.ended
      · exact fun _ => .inl rfl
      · exact fun _ => ⟨sound.ended done, .inr (List.mem_append_right _ List.mem_cons_self)⟩
      · exact fun _ => ⟨rfl, sound.close_of_feedEnded runs done⟩
  | aborted =>
      constructor
      · exact balanced_concat sound.balanced rfl rfl
      · exact sound.ended
      · exact fun _ => .inl rfl
      · exact sound.settled_append _
      · exact sound.gone_append (by simp)

theorem Sound.step (sound : Sound log state) (step : Step conduit state notes further) :
    Sound (log ++ notes) further := by
  cases step with
  | socket now offers possible => exact sound.socket offers possible
  | call order unbegun =>
      rw [List.append_nil]
      exact sound.call order
  | «begin» =>
      rw [List.append_nil]
      exact ⟨sound.balanced, sound.ended, sound.held, sound.settled, sound.gone⟩
  | gateway noted own begun ended => exact sound.answered (answers_of_noted noted own) ended

/-- Along every passage from the start all of this holds. -/
theorem sound_of_passage {audience : Audience}
    (passage : Passage (Step conduit) (start audience) log state) : Sound log state := by
  induction passage with
  | stay => exact sound_start audience
  | step passage step induction => exact induction.step step

/-! ## How receipts are given -/

/-- A reply is forwarded by a step of its own, to all who are there at that moment. -/
theorem Step.forwarded (step : Step conduit state notes further) {reply : Reply}
    {before after : List Subscriber} (member : .forwarded reply before after ∈ notes) :
    notes = [.forwarded reply before after] ∧ before = state.scene.audience.subscribers ∧
      after = before.filterMap (Audience.give [GatewayRun.receipt reply]) := by
  cases step with
  | socket now offers possible =>
      obtain ⟨action, -, noted⟩ := List.mem_flatMap.1 member
      cases action <;> simp [dispatched] at noted
  | call => cases member
  | «begin» => cases member
  | gateway noted own begun ended =>
      cases answers_of_noted noted own with
      | aside quiet => cases quiet _ member
      | forwarded forwarding first =>
          cases List.mem_singleton.1 member
          exact ⟨rfl, rfl, rfl⟩
      | feedEnded => cases List.mem_singleton.1 member
      | forwardingEnded => cases List.mem_singleton.1 member
      | returned => cases List.mem_singleton.1 member
      | aborted => cases List.mem_singleton.1 member

/-- What is noted of a reply that was forwarded is what came of it there and then. -/
theorem forwarded_of_passage {reply : Reply} {before after : List Subscriber}
    {earlier rest : List Note}
    (passage : Passage (Step conduit) state
      (earlier ++ .forwarded reply before after :: rest) further) :
    ∃ between, Passage (Step conduit) state earlier between ∧
      before = between.scene.audience.subscribers ∧
      after = before.filterMap (Audience.give [GatewayRun.receipt reply]) := by
  obtain ⟨between, next, leads, step, -⟩ :=
    passage.split (fun step member => (step.forwarded member).1) rfl
  obtain ⟨-, present, given⟩ := step.forwarded List.mem_cons_self
  exact ⟨between, leads, present, given⟩

/-! ## What is lost when a run returns -/

/-- A run returns by a step of its own, and leaves the replies that wait. -/
theorem Step.returned (step : Step conduit state notes further) (member : .returned ∈ notes) :
    notes = [.returned] ∧ further.scene.run.replies = state.scene.run.replies ∧
      further.scene.run.forwarding = false := by
  cases step with
  | socket now offers possible => exact absurd member (returned_not_mem_dispatched _)
  | call => cases member
  | «begin» => cases member
  | gateway noted own begun ended =>
      cases answers_of_noted noted own with
      | aside quiet => cases quiet _ member
      | forwarded => cases List.mem_singleton.1 member
      | feedEnded => cases List.mem_singleton.1 member
      | forwardingEnded => cases List.mem_singleton.1 member
      | returned => exact ⟨rfl, rfl, rfl⟩
      | aborted => cases List.mem_singleton.1 member

/-- Where the socket is closed and nothing is forwarded, a step changes nothing about replies. -/
theorem Step.silent (step : Step conduit state notes further)
    (closed : state.phase.isClosed = true) (silent : state.scene.run.forwarding = false) :
    (further.phase.isClosed = true ∧ further.scene.run.forwarding = false) ∧
      further.scene.run.replies = state.scene.run.replies ∧
      forwardedIn notes = [] ∧ repliedIn notes = [] := by
  cases step with
  | socket now offers possible =>
      rw [not_isClosed_of_transition (Socket.transition_of_step possible)] at closed
      cases closed
  | call => exact ⟨⟨closed, silent⟩, rfl, rfl, rfl⟩
  | «begin» => exact ⟨⟨closed, silent⟩, rfl, rfl, rfl⟩
  | gateway noted own begun ended =>
      cases answers_of_noted noted own with
      | aside quiet replies forwarding =>
          exact ⟨⟨closed, forwarding.trans silent⟩, replies, forwardedIn_of_aside quiet,
            repliedIn_of_aside quiet⟩
      | forwarded forwarding =>
          rw [silent] at forwarding
          cases forwarding
      | feedEnded => exact ⟨⟨closed, silent⟩, rfl, rfl, rfl⟩
      | forwardingEnded => exact ⟨⟨closed, rfl⟩, rfl, rfl, rfl⟩
      | returned => exact ⟨⟨closed, rfl⟩, rfl, rfl, rfl⟩
      | aborted => exact ⟨⟨closed, silent⟩, rfl, rfl, rfl⟩

/-- From there on no reply is dispatched and none is forwarded. -/
theorem silent_of_passage (passage : Passage (Step conduit) state log further)
    (closed : state.phase.isClosed = true) (silent : state.scene.run.forwarding = false) :
    (further.phase.isClosed = true ∧ further.scene.run.forwarding = false) ∧
      further.scene.run.replies = state.scene.run.replies ∧
      forwardedIn log = [] ∧ repliedIn log = [] := by
  induction passage with
  | stay => exact ⟨⟨closed, silent⟩, rfl, rfl, rfl⟩
  | step passage step induction =>
      obtain ⟨still, same, noneForwarded, noneReplied⟩ := induction
      obtain ⟨later, unchanged, forwarded, replied⟩ := step.silent still.1 still.2
      rw [forwardedIn_append, repliedIn_append, noneForwarded, noneReplied, forwarded, replied]
      exact ⟨later, unchanged.trans same, rfl, rfl⟩

/-- What waits when a run returns waits for ever after. -/
theorem returned_of_passage {audience : Audience} {earlier rest : List Note}
    (passage : Passage (Step conduit) (start audience) (earlier ++ .returned :: rest) state) :
    ∃ between, Passage (Step conduit) (start audience) earlier between ∧
      state.scene.run.replies = between.scene.run.replies ∧
      forwardedIn rest = [] ∧ repliedIn rest = [] := by
  obtain ⟨between, next, leads, step, follows⟩ :=
    passage.split (fun step member => (step.returned member).1) rfl
  obtain ⟨-, same, silent⟩ := step.returned List.mem_cons_self
  have closed := ((sound_of_passage (leads.step step)).settled silent).1
  obtain ⟨-, unchanged, forwarded, replied⟩ := silent_of_passage follows closed silent
  exact ⟨between, leads, unchanged.trans same, forwarded, replied⟩

/-! ## Replies that wait -/

theorem command_nil (phase : Phase) (orders : List Socket.Command) :
    command phase orders [] = orders := by
  unfold command
  split_ifs
  · rfl
  · exact List.append_nil _

/-- A reply that waits can be forwarded whatever the pump does. -/
theorem step_forward {reply : Reply} {rest : List Reply} (begun : state.begun = true)
    (forwarding : state.scene.run.forwarding = true)
    (first : state.scene.run.replies = reply :: rest) :
    Step conduit state
      [.forwarded reply state.scene.audience.subscribers
        (state.scene.audience.broadcast (GatewayRun.receipt reply)).subscribers]
      { state with
        scene := ⟨{ state.scene.run with replies := rest },
          state.scene.audience.broadcast (GatewayRun.receipt reply)⟩ } := by
  have moves : GatewayRun.Moves conduit.gateway.begin conduit.gateway.retryDelay 0
      state.scene.run state.scene.audience .forward { state.scene.run with replies := rest }
      (state.scene.audience.broadcast (GatewayRun.receipt reply)) [] :=
    .forward forwarding first
  have noted := Noted.move 0 .forward (.other rfl) (GatewayRun.step_eq_some_iff.2 moves)
  rw [Gateway.notesOf_forward (.other rfl) first] at noted
  have step := Step.gateway noted (List.forall_mem_singleton.2 rfl) (.inl begun) fun ended => by
    simp at ended
  have same : command state.phase state.orders [] = state.orders := command_nil _ _
  simpa [ordersOf, same] using step

/-- All replies that wait can be forwarded, and the pump stays where it is. -/
theorem exists_drained (replies : List Reply) (waiting : state.scene.run.replies = replies)
    (begun : state.begun = true)
    (forwards : replies ≠ [] → state.scene.run.forwarding = true) :
    ∃ notes audience, forwardedIn notes = replies ∧
      Passage (Step conduit) state notes
        { state with scene := ⟨{ state.scene.run with replies := [] }, audience⟩ } := by
  induction replies generalizing state with
  | nil =>
      obtain ⟨phase, orders, called, holds, ⟨batches, replies, feedEnded, pump, forwards⟩,
        audience⟩ := state
      cases waiting
      exact ⟨[], audience, rfl, .stay⟩
  | cons reply rest induction =>
      have forwarding := forwards (List.cons_ne_nil _ _)
      have step : Step conduit state _ _ := step_forward begun forwarding waiting
      obtain ⟨others, later, all, passage⟩ := @induction
        { state with scene := ⟨{ state.scene.run with replies := rest }, _⟩ }
        rfl begun fun _ => forwarding
      refine ⟨_, later, ?_, (Passage.stay.step step).append passage⟩
      rw [List.nil_append, forwardedIn_append, all]
      rfl

/-! ## What becomes of replies -/

/-- What becomes of the replies that the socket dispatches. -/
structure Receipts (conduit : Conduit μ) (audience : Audience) (log : List Note)
    (state : State μ) : Prop where
  /-- Each reply is forwarded once, in the order of dispatch, and the others wait. -/
  inOrder : forwardedIn log ++ state.scene.run.replies = repliedIn log
  /-- Everybody who is there at that moment is told of the request and its outcome. -/
  tells : ∀ earlier reply before after rest,
    log = earlier ++ .forwarded reply before after :: rest →
      ∃ between, Passage (Step conduit) (start audience) earlier between ∧
        before = between.scene.audience.subscribers ∧
        ∀ subscriber ∈ before, subscriber.isOpen = true →
          { subscriber with
            queue := subscriber.queue ++
              [.receipt ⟨reply.headers.requestId,
                decide (reply.headers.kind = "TransactionSuccess"),
                reply.errorMessage⟩] } ∈ after
  /-- As long as the run has not returned, the replies that wait can be forwarded at once,
  wherever the pump stands. -/
  flows : state.begun = true → .returned ∉ log →
    ∃ notes served, forwardedIn notes = state.scene.run.replies ∧
      Passage (Step conduit) state notes
        { state with scene := ⟨{ state.scene.run with replies := [] }, served⟩ }
  /-- A feed that nobody told to close before the run goes on as long as the run has its
  handle, so that the run does not return while there is a feed. -/
  lasts : (.returned ∈ log → .close ∈ state.called) ∧
    (state.scene.run.pump ≠ .stopped → .close ∉ state.called →
      state.phase.isParting = false ∧ state.scene.run.feedEnded = false)
  /-- When no reply is forwarded any more and the run has not returned, all that were
  dispatched have been. -/
  complete : state.scene.run.forwarding = false → .returned ∉ log →
    forwardedIn log = repliedIn log
  /-- When the run returns, the replies that wait are lost: nothing is dispatched or forwarded
  from then on.  So all that were dispatched have been forwarded exactly if none waits then. -/
  loses : ∀ earlier rest, log = earlier ++ .returned :: rest →
    ∃ between, Passage (Step conduit) (start audience) earlier between ∧
      state.scene.run.replies = between.scene.run.replies ∧
      forwardedIn rest = [] ∧ repliedIn rest = [] ∧
      (forwardedIn earlier = repliedIn earlier ↔ between.scene.run.replies = [])

theorem Sound.forwarded_iff (sound : Sound log state) :
    forwardedIn log = repliedIn log ↔ state.scene.run.replies = [] := by
  rw [← sound.balanced, List.self_eq_append_right]

/--
Every reply that is dispatched becomes a receipt, whatever the run does meanwhile, unless it
waits at the moment when the run returns; and the run returns only from a feed that was told to
close before.
-/
theorem receipts_of_passage {audience : Audience}
    (passage : Passage (Step conduit) (start audience) log state) :
    Receipts conduit audience log state := by
  have sound := sound_of_passage passage
  constructor
  · exact sound.balanced
  · intro earlier reply before after rest split
    subst split
    obtain ⟨between, shorter, present, given⟩ := forwarded_of_passage passage
    refine ⟨between, shorter, present, fun subscriber member isOpen => ?_⟩
    rw [given]
    exact List.mem_filterMap.2 ⟨subscriber, member, if_pos isOpen⟩
  · intro begun unreturned
    apply exists_drained _ rfl begun
    intro some
    rw [← Bool.not_eq_false]
    exact fun silent => some ((sound.settled silent).2.resolve_right unreturned)
  · refine ⟨fun returned => (sound.gone returned).2, fun runs uncalled => ⟨?_, ?_⟩⟩
    · rw [← Bool.not_eq_true]
      exact fun parting => uncalled ((sound.held (.inl parting)).resolve_left runs)
    · rw [← Bool.not_eq_true]
      exact fun ended => uncalled (sound.close_of_feedEnded runs ended)
  · intro silent unreturned
    exact sound.forwarded_iff.2 ((sound.settled silent).2.resolve_right unreturned)
  · intro earlier rest split
    subst split
    obtain ⟨between, shorter, same, forwarded, replied⟩ := returned_of_passage passage
    exact ⟨between, shorter, same, forwarded, replied,
      (sound_of_passage shorter).forwarded_iff⟩

theorem dispatch_of_replies {text : String} {reply : Reply}
    (single : Socket.replies (Socket.dispatch text) = [reply]) :
    Socket.dispatch text = [.reply reply] := by
  unfold Socket.dispatch at single ⊢
  split at single
  · cases single
  · cases single
    rfl
  · cases single

theorem dispatch_of_batches {text : String}
    (single : (Socket.batches (Socket.dispatch text)).map List.length = [0]) :
    Socket.dispatch text = [.batch []] := by
  unfold Socket.dispatch at single ⊢
  split at single
  · rename_i events said
    cases events with
    | nil => rfl
    | cons event rest => cases single
  · cases single
  · cases single

/-- An input that is no command leaves the commands waiting. -/
theorem offers_other (input : Socket.Input) (orders : List Socket.Command)
    (other : input.command? = none) : Socket.Offers orders input orders :=
  .other orders other

/-- What a text says is dispatched while a session is live. -/
theorem step_text (keepalive : Socket.Keepalive) (live : state.phase = .live keepalive)
    {text : String} {actions : List Socket.Action} (said : Socket.dispatch text = actions) :
    Step conduit state (actions.flatMap dispatched)
      { state with
        scene := ⟨actions.foldl receive state.scene.run, state.scene.audience⟩ } := by
  subst said
  obtain ⟨phase, orders, called, begun, scene⟩ := state
  obtain rfl : phase = .live keepalive := live
  exact .socket 0 (offers_other (.arrived (.frame (.text text))) orders rfl) rfl

def relaying : Conduit Unit :=
  ⟨Socket.briskSettings, Gateway.receipting⟩

/-- One subscriber who waits for something. -/
def single : Audience :=
  ⟨[⟨1, true, []⟩], 1⟩

/-- The reply to an operation that succeeded. -/
def minedReply : Reply :=
  ⟨⟨"TransactionSuccess", "r"⟩, none, none⟩

/-- A subscriber that was given some receipts. -/
def told (count : Nat) : List Subscriber :=
  [⟨1, true, List.replicate count (GatewayRun.receipt minedReply)⟩]

theorem dispatch_replyText : Socket.dispatch Socket.replyText = [.reply minedReply] :=
  dispatch_of_replies (by decide +kernel)

/-- A session is live before the run begins. -/
theorem passage_live :
    Passage (Step relaying) (start single) []
      ⟨.live ⟨.idle, .arm 0 60⟩, [], [], false, ⟨.start, single⟩⟩ := by
  have waiting : Passage (Step relaying) (start single) [] (start single) := .stay
  have dialled := waiting.step (.socket 0 (offers_other .start [] rfl) rfl)
  have connected := dialled.step (.socket 0 (offers_other .connected [] rfl) rfl)
  have listening := connected.step (.socket 0 (offers_other .sent [] rfl) rfl)
  have greeted := listening.step (.socket 0 (offers_other .sent [] rfl) rfl)
  have pinged := greeted.step (.socket 0 (offers_other .sent [] rfl) rfl)
  exact pinged

/-- A receipt while a batch is processed, and one after the run was stopped from outside. -/
def abandonedLog : List Note :=
  [.shown (.received []), .shown (.took []), .replied minedReply,
    .forwarded minedReply (told 0) (told 1), .aborted, .replied minedReply, .feedEnded,
    .forwarded minedReply (told 1) (told 2), .forwardingEnded]

def abandoned : State Unit :=
  ⟨.closed, [], [], true, ⟨⟨[], [], true, .stopped, false⟩, ⟨told 2, 1⟩⟩⟩

theorem passage_abandoned : Passage (Step relaying) (start single) abandonedLog abandoned := by
  have batches : Socket.dispatch "[7]" = [.batch []] := dispatch_of_batches (by decide +kernel)
  have begun := passage_live.step .begin
  have received := begun.step (step_text _ rfl batches)
  have took := received.step
    (.gateway (.move 1 .take (.other rfl) rfl) (List.forall_mem_singleton.2 rfl) (.inl rfl) nofun)
  have replied := took.step (step_text _ rfl dispatch_replyText)
  have forwarded := replied.step (step_forward rfl rfl rfl)
  have stopped := forwarded.step
    (.gateway (.move 2 .abort (.other rfl) rfl) (List.forall_mem_singleton.2 rfl) (.inl rfl) nofun)
  have aborted : Passage (Step relaying) (start single) (abandonedLog.take 5)
      ⟨.live ⟨.idle, .arm 0 60⟩, [.close], [], true,
        ⟨⟨[], [], false, .stopped, true⟩, ⟨told 1, 1⟩⟩⟩ := stopped
  have more := aborted.step (step_text _ rfl dispatch_replyText)
  have closing := more.step (.socket 2 (.command .close []) rfl)
  have closed := closing.step (.socket 3 (offers_other .terminated [] rfl) rfl)
  have gone : Passage (Step relaying) (start single) (abandonedLog.take 6)
      ⟨.closed, [], [], true,
        ⟨⟨[], [minedReply], false, .stopped, true⟩, ⟨told 1, 1⟩⟩⟩ := closed
  have ended := gone.step
    (.gateway (.move 3 .endFeed (.other rfl) rfl) (List.forall_mem_singleton.2 rfl) (.inl rfl)
      fun _ => rfl)
  have last := ended.step (step_forward rfl rfl rfl)
  have silent := last.step
    (.gateway (.move 3 .endForwarding (.other rfl) rfl) (List.forall_mem_singleton.2 rfl)
      (.inl rfl) nofun)
  exact silent

/-- A reply is dispatched, the feed is told to close, and only then the run begins. -/
def closedLog : List Note :=
  [.replied minedReply, .feedEnded, .returned]

def closed : State Unit :=
  ⟨.closed, [], [.close], true, ⟨⟨[], [minedReply], true, .stopped, false⟩, single⟩⟩

theorem passage_closed : Passage (Step relaying) (start single) closedLog closed := by
  have replied := passage_live.step (step_text _ rfl dispatch_replyText)
  have told := replied.step (.call .close rfl)
  have closing := told.step (.socket 1 (.command .close []) rfl)
  have parted := closing.step (.socket 1 (offers_other .terminated [] rfl) rfl)
  have begun := parted.step .begin
  have unforwarded : Passage (Step relaying) (start single) (closedLog.take 1)
      ⟨.closed, [], [.close], true, ⟨⟨[], [minedReply], false, .idle, true⟩, single⟩⟩ := begun
  have ended := unforwarded.step
    (.gateway (.move 1 .endFeed (.other rfl) rfl) (List.forall_mem_singleton.2 rfl) (.inl rfl)
      fun _ => rfl)
  have returned := ended.step
    (.gateway (.move 1 .stop (.other rfl) rfl) (List.forall_mem_singleton.2 rfl) (.inl rfl) nofun)
  exact returned

/-- A run that was stopped from outside has forwarded both replies when the feed has ended.  One
that begins on a feed told to close returns with a reply that nobody is told of. -/
theorem receipts_of_closed :
    (Passage (Step relaying) (start single) abandonedLog abandoned ∧
      Receipts relaying single abandonedLog abandoned ∧
      repliedIn abandonedLog = [minedReply, minedReply] ∧
      forwardedIn abandonedLog = [minedReply, minedReply]) ∧
    Passage (Step relaying) (start single) closedLog closed ∧
      Receipts relaying single closedLog closed ∧ .returned ∈ closedLog ∧
      repliedIn closedLog = [minedReply] ∧ forwardedIn closedLog = [] ∧
      closed.scene.audience = single :=
  ⟨⟨passage_abandoned, receipts_of_passage passage_abandoned, rfl, rfl⟩, passage_closed,
    receipts_of_passage passage_closed, by simp [closedLog], rfl, rfl, rfl⟩

end Conduit

end TokenRelay
