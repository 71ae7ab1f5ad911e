import TokenRelay.Proofs.Feed.Wire

/-!
# The protocol of a socket

The states that a socket publishes follow its diagram: each phase has one state that is
shown in it, and each transition publishes a path from the one to the other.  An
acknowledgement is handed over only at a command to do so, once for each command, and after
`Closing` the socket only takes its leave.  `KeepsProtocol` puts this together with what is
known of the wires.
-/

namespace TokenRelay.Socket

/-! ## Published states -/

/-- The state that an action publishes. -/
def Action.state? : Action → Option ConnectionState
  | .publish state => some state
  | _ => none

/-- The states that are published, in order. -/
def published (actions : List Action) : List ConnectionState :=
  actions.filterMap Action.state?

/-- The moves that the diagram of a socket allows. -/
inductive Leads : ConnectionState → ConnectionState → Prop where
  | begins : Leads .disconnected .connecting
  | connects : Leads .connecting .connected
  | fails : Leads .connecting .reconnectWait
  | drops : Leads .connected .reconnectWait
  | closes : Leads .connected .closing
  | retries : Leads .reconnectWait .connecting
  | quits : Leads .reconnectWait .closing
  | ends : Leads .closing .closed

/-- A path of allowed moves through states. -/
inductive Path : ConnectionState → List ConnectionState → ConnectionState → Prop where
  | stay (state : ConnectionState) : Path state [] state
  | move {source via target : ConnectionState} {rest : List ConnectionState}
      (leads : Leads source via) (path : Path via rest target) :
      Path source (via :: rest) target

namespace Path

variable {source via target : ConnectionState} {states others : List ConnectionState}

theorem append (first : Path source states via) (second : Path via others target) :
    Path source (states ++ others) target := by
  induction first with
  | stay state => exact second
  | move leads path induction => exact .move leads (induction second)

theorem isChain (path : Path source states target) :
    List.IsChain Leads (source :: states) := by
  induction path with
  | stay state => exact .singleton state
  | move leads path induction => exact .cons_cons leads induction

end Path

/-- The state that is shown in a phase. -/
def Phase.shown : Phase → ConnectionState
  | .unstarted => .disconnected
  | .connecting => .connecting
  | .greeting _ => .connecting
  | .firstPing => .connected
  | .live _ => .connected
  | .acknowledging _ => .connected
  | .pinging _ => .connected
  | .terminating .overdue => .connected
  | .terminating .closing => .closing
  | .waiting _ => .reconnectWait
  | .closed => .closed

theorem published_dispatch (text : String) : published (dispatch text) = [] := by
  unfold dispatch
  split <;> rfl

variable {settings : SocketSettings} {now : Nat} {phase next : Phase} {input : Input}
  {actions : List Action}

/-- A transition publishes a path from the one state to the other. -/
theorem Transition.path (does : Transition settings now phase input next actions) :
    Path phase.shown (published actions) next.shown := by
  cases does with
  | started => exact .move .begins (.stay _)
  | unreached => exact .move .fails (.stay _)
  | greeted => exact .move .connects (.stay _)
  | unsent sending =>
      cases phase with
      | greeting rest => exact .move .fails (.stay _)
      | firstPing => exact .move .drops (.stay _)
      | acknowledging keepalive => exact .move .drops (.stay _)
      | pinging keepalive => exact .move .drops (.stay _)
      | _ => cases sending
  | closes keepalive => exact .move .closes (.stay _)
  | dispatches keepalive text =>
      rw [published_dispatch]
      exact .stay _
  | left keepalive last => exact .move .drops (.stay _)
  | givenUp => exact .move .drops (.stay _)
  | parted => exact .move .ends (.stay _)
  | redials late => exact .move .retries (.stay _)
  | quits due => exact .move .quits (.move .ends (.stay _))
  | _ => exact .stay _

/-! ## Taking leave -/

/-- Whether an action is of those that may follow the move to `Closing`. -/
def Action.isFarewell : Action → Bool
  | .terminate => true
  | .release => true
  | .publish .closed => true
  | _ => false

/-- Whether nothing but the end is left to the task. -/
def Phase.isParting : Phase → Bool
  | .terminating .closing => true
  | .closed => true
  | _ => false

/-- That a later action is a farewell if an earlier one was the move to `Closing`. -/
def Yields (earlier later : Action) : Prop :=
  earlier = .publish .closing → later.isFarewell = true

theorem publish_not_mem_dispatch (state : ConnectionState) (text : String) :
    .publish state ∉ dispatch text := by
  unfold dispatch
  split <;> simp

/-- Actions that do not publish `Closing` make no demand on what follows them. -/
theorem pairwise_yields {actions : List Action} (other : .publish .closing ∉ actions) :
    actions.Pairwise Yields := by
  apply List.Pairwise.imp_of_mem (R := fun _ _ => True)
  · intro earlier later member _ _ same
    exact absurd (same ▸ member) other
  · exact List.pairwise_of_forall fun _ _ => trivial

namespace Transition

/-- A parting socket goes on parting, and all that it does is a farewell. -/
theorem parts (does : Transition settings now phase input next actions)
    (parting : phase.isParting = true) :
    next.isParting = true ∧ ∀ action ∈ actions, action.isFarewell = true := by
  cases does with
  | parted => exact ⟨rfl, by simp [Action.isFarewell]⟩
  | unsent sending =>
      cases phase with
      | closed => cases sending
      | terminating reason => cases sending
      | _ => cases parting
  | _ => cases parting

/-- `Closing` is published by a socket that is parting then, and only farewells follow it. -/
theorem closing (does : Transition settings now phase input next actions) :
    (.publish .closing ∈ actions → next.isParting = true) ∧ actions.Pairwise Yields := by
  have elsewhere (other : .publish .closing ∉ actions) :
      (.publish .closing ∈ actions → next.isParting = true) ∧ actions.Pairwise Yields :=
    ⟨fun member => absurd member other, pairwise_yields other⟩
  cases does with
  | closes keepalive => exact ⟨fun _ => rfl, by simp [Yields, Action.isFarewell]⟩
  | quits due => exact ⟨fun _ => rfl, by simp [Yields, Action.isFarewell]⟩
  | dispatches keepalive text => exact elsewhere (publish_not_mem_dispatch _ text)
  | _ => exact elsewhere (by simp)

end Transition

/-! ## Acknowledgements -/

/-- Quiet actions hand over no acknowledgement. -/
theorem acknowledgements_of_quiet {topic : String}
    (quiet : ∀ action ∈ actions, action.IsQuiet topic) :
    acknowledgements topic actions = 0 := by
  apply List.count_eq_zero.2
  intro member
  obtain ⟨action, found, shown⟩ := List.mem_filterMap.1 member
  cases action with
  | send frame =>
      cases shown
      exact quiet _ found rfl
  | _ => cases shown

/-- A step hands over an acknowledgement only at a command to do so, and one at most. -/
theorem acknowledgements_of_step (tidy : phase.IsTidy settings.topic)
    (possible : step settings now phase input = some (next, actions)) :
    acknowledgements settings.topic actions ≤
      input.command?.toList.count .acknowledge := by
  cases (does_of_step tidy possible).1 with
  | acknowledged => simp [acknowledgements, sentFrames, Action.frame?, acknowledgement,
      Input.command?]
  | dropped => exact Nat.zero_le _
  | dispatched text =>
      rw [acknowledgements, sentFrames_dispatch]
      exact Nat.zero_le _
  | quiet plain quiet =>
      rw [acknowledgements_of_quiet quiet]
      exact Nat.zero_le _

/-! ## Runs -/

/-- What is kept by every step of a run. -/
structure Conforms (settings : SocketSettings) (history : List Moment) (phase : Phase) :
    Prop where
  wired : Wired settings.topic phase (wires history)
  tidy : phase.IsTidy settings.topic
  single : ∀ moment ∈ history, acknowledgements settings.topic moment.actions ≤
    moment.input.command?.toList.count .acknowledge
  path : Path .disconnected (published (actionsOf history)) phase.shown
  parting : .publish .closing ∈ actionsOf history → phase.isParting = true
  yields : (actionsOf history).Pairwise Yields

theorem conforms_start : Conforms settings [] .unstarted where
  wired := ⟨nofun, .away [] rfl⟩
  tidy := trivial
  single := nofun
  path := .stay _
  parting := nofun
  yields := .nil

theorem Conforms.step {history : List Moment} (conforms : Conforms settings history phase)
    (possible : Socket.step settings now phase input = some (next, actions)) :
    Conforms settings (history ++ [⟨now, input, actions⟩]) next where
  wired := by
    rw [wires_concat]
    exact conforms.wired.transition (transition_of_step possible)
  tidy := (does_of_step conforms.tidy possible).2
  single := by
    intro moment member
    rcases List.mem_append.1 member with old | last
    · exact conforms.single moment old
    · rw [List.mem_singleton.1 last]
      exact acknowledgements_of_step conforms.tidy possible
  path := by
    rw [actionsOf_concat, published, List.filterMap_append]
    exact conforms.path.append (transition_of_step possible).path
  parting := by
    rw [actionsOf_concat]
    intro member
    rcases List.mem_append.1 member with old | new
    · exact ((transition_of_step possible).parts (conforms.parting old)).1
    · exact (transition_of_step possible).closing.1 new
  yields := by
    rw [actionsOf_concat]
    apply List.pairwise_append.2
    refine ⟨conforms.yields, (transition_of_step possible).closing.2, ?_⟩
    intro earlier old later new same
    exact ((transition_of_step possible).parts (conforms.parting (same ▸ old))).2 later new

variable {clock : Phase → Nat → Prop} {log : List Event} {queue : List Command}

theorem Run.conforms (run : Run settings clock log phase queue now) :
    Conforms settings (moments log) phase :=
  run.induct (fun history phase _ => Conforms settings history phase)
    (fun _ => conforms_start) (fun conforms possible => conforms.step possible)
    (fun conforms _ _ => conforms)

/-- Where no moment hands over more than it was told to, neither does a history. -/
theorem acknowledgements_actionsOf {topic : String} {history : List Moment}
    (single : ∀ moment ∈ history, acknowledgements topic moment.actions ≤
      moment.input.command?.toList.count .acknowledge) :
    acknowledgements topic (actionsOf history) ≤ (taken history).count .acknowledge := by
  induction history using List.reverseRecOn with
  | nil => exact Nat.zero_le _
  | append_singleton history moment induction =>
      rw [actionsOf_concat, taken_concat, acknowledgements, sentFrames,
        List.filterMap_append, List.count_append, List.count_append]
      apply Nat.add_le_add
      · exact induction fun earlier member => single earlier (List.mem_append_left _ member)
      · exact single moment (List.mem_append_right _ List.mem_cons_self)

/-- What every run of a socket keeps to. -/
structure KeepsProtocol (settings : SocketSettings) (log : List Event) : Prop where
  /-- On each connection a greeting is followed by pings and acknowledgements. -/
  speaks : ∀ wire ∈ wires (moments log), Speaks settings.topic wire.frames
  /-- Where `Connected` is published, both requests of the connection were written. -/
  greeted : ∀ before moment after, moments log = before ++ moment :: after →
    .publish .connected ∈ moment.actions →
      ∃ wire past, wires (before ++ [moment]) = wire :: past ∧
        wire.written = [.text (listenFrame settings.topic), .text listenRepliesFrame]
  /-- Commands are taken in order, each of them once. -/
  ordered : taken (moments log) <+: given log
  /-- An acknowledgement belongs to a command that was taken. -/
  single : ∀ moment ∈ moments log, acknowledgements settings.topic moment.actions ≤
    moment.input.command?.toList.count .acknowledge
  counted : acknowledgements settings.topic (actionsOf (moments log)) ≤
    (given log).count .acknowledge
  /-- A session that is closed has written what its commands asked for. -/
  settled : ∀ before moment after, moments log = before ++ moment :: after →
    moment.input = .command .close → .terminate ∈ moment.actions →
      ∃ wire past, wires before = wire :: past ∧ wire.pending = [] ∧
        wire.written.filter (· = acknowledgement settings.topic) =
          wire.commands.filterMap (Command.frame? settings.topic)
  published : List.IsChain Leads (.disconnected :: published (actionsOf (moments log)))
  /-- After `Closing` nothing is written, dispatched or connected. -/
  silent : (actionsOf (moments log)).Pairwise Yields

/-- Each moment of a run is a transition, on the wires that its predecessors have left. -/
theorem Run.exists_transition (run : Run settings clock log phase queue now)
    {before after : List Moment} {moment : Moment}
    (split : moments log = before ++ moment :: after) :
    ∃ phase next, Stage settings.topic phase (wires before) ∧
      Transition settings moment.instant phase moment.input next moment.actions := by
  obtain ⟨earlier, phase, next, queue, shorter, rfl, possible⟩ := run.exists_step split
  exact ⟨phase, next, shorter.conforms.wired.stage, transition_of_step possible⟩

/-- `Connected` is published on a wire that carries both requests. -/
theorem Run.greeted (run : Run settings clock log phase queue now)
    {before after : List Moment} {moment : Moment}
    (split : moments log = before ++ moment :: after)
    (connected : .publish .connected ∈ moment.actions) :
    ∃ wire past, wires (before ++ [moment]) = wire :: past ∧
      wire.written = [.text (listenFrame settings.topic), .text listenRepliesFrame] := by
  obtain ⟨phase, next, stage, does⟩ := run.exists_transition split
  obtain ⟨instant, input, actions⟩ := moment
  rw [wires_concat]
  generalize wires before = all at stage ⊢
  cases does with
  | greeted =>
      cases stage with
      | away all gone => cases gone
      | asking past => exact ⟨_, past, rfl, rfl⟩
  | dispatches keepalive text => exact absurd connected (publish_not_mem_dispatch _ text)
  | _ => simp at connected

/-- A session that is closed has an idle wire with all that its commands asked for. -/
theorem Run.settled (run : Run settings clock log phase queue now)
    {before after : List Moment} {moment : Moment}
    (split : moments log = before ++ moment :: after)
    (close : moment.input = .command .close) (terminates : .terminate ∈ moment.actions) :
    ∃ wire past, wires before = wire :: past ∧ wire.pending = [] ∧
      wire.written.filter (· = acknowledgement settings.topic) =
        wire.commands.filterMap (Command.frame? settings.topic) := by
  obtain ⟨phase, next, stage, does⟩ := run.exists_transition split
  obtain ⟨instant, input, actions⟩ := moment
  cases close
  generalize wires before = all at stage ⊢
  cases does with
  | closes keepalive =>
      cases stage with
      | away all gone => cases gone
      | live keepalive past carries =>
          have all := carries.acknowledged
          rw [Wire.frames, carries.pending, List.append_nil] at all
          exact ⟨_, past, rfl, carries.pending, all⟩
  | quits due => simp at terminates

/-- Every run of a socket keeps to the protocol. -/
theorem keepsProtocol_of_run (run : Run settings clock log phase queue now) :
    KeepsProtocol settings log where
  speaks := run.conforms.wired.speaks
  greeted := fun before moment after => run.greeted
  ordered := ⟨queue, run.taken_append_queue⟩
  single := run.conforms.single
  counted := by
    rw [← run.taken_append_queue, List.count_append]
    exact (acknowledgements_actionsOf run.conforms.single).trans (Nat.le_add_right _ _)
  settled := fun before moment after => run.settled
  published := run.conforms.path.isChain
  silent := run.conforms.yields

/-- A connection that its peer closes, and a second one that the user closes. -/
def reconnectingLog : List Event :=
  [.taken ⟨0, .start, [.publish .connecting, .connect]⟩,
    .taken ⟨0, .connected, [.send (.text (listenFrame "tok"))]⟩,
    .taken ⟨1, .sent, [.send (.text listenRepliesFrame)]⟩,
    .taken ⟨1, .sent, [.publish .connected, .send .ping]⟩,
    .taken ⟨2, .sent, []⟩,
    .given .acknowledge,
    .taken ⟨2, .arrived (.frame .close), [.release, .publish .reconnectWait]⟩,
    .taken ⟨7, .delayOver, [.publish .connecting, .connect]⟩,
    .taken ⟨8, .connected, [.send (.text (listenFrame "tok"))]⟩,
    .taken ⟨8, .sent, [.send (.text listenRepliesFrame)]⟩,
    .taken ⟨8, .sent, [.publish .connected, .send .ping]⟩,
    .taken ⟨8, .sent, []⟩,
    .given .close,
    .taken ⟨8, .command .acknowledge, [.send (.text (acknowledgementFrame "tok"))]⟩,
    .taken ⟨9, .sent, []⟩,
    .taken ⟨9, .command .close, [.publish .closing, .terminate]⟩,
    .taken ⟨9, .terminated, [.release, .publish .closed]⟩]

/-- The acknowledgement is written on the second connection before that is closed. -/
theorem keepsProtocol_of_reconnection :
    Run briskSettings AnyTime reconnectingLog .closed [] 9 ∧
      KeepsProtocol briskSettings reconnectingLog ∧
      (wires (moments reconnectingLog)).map Wire.written =
        [greeting "tok" ++ [acknowledgement "tok"], greeting "tok"] := by
  have started : Run briskSettings AnyTime (reconnectingLog.take 1)
      .connecting [] 0 := .take (.start 0) (.other _ rfl) rfl
  have connected : Run briskSettings AnyTime (reconnectingLog.take 2)
      (.greeting [listenRepliesFrame]) [] 0 := .take started (.other _ rfl) rfl
  have listening : Run briskSettings AnyTime (reconnectingLog.take 3)
      (.greeting []) [] 1 :=
    .take (connected.pass 1 (by decide) trivial) (.other _ rfl) rfl
  have greeted : Run briskSettings AnyTime (reconnectingLog.take 4)
      .firstPing [] 1 := .take listening (.other _ rfl) rfl
  have live : Run briskSettings AnyTime (reconnectingLog.take 5)
      (.live ⟨.idle, .arm 2 60⟩) [] 2 :=
    .take (greeted.pass 2 (by decide) trivial) (.other _ rfl) rfl
  have asked : Run briskSettings AnyTime (reconnectingLog.take 6)
      (.live ⟨.idle, .arm 2 60⟩) [.acknowledge] 2 := live.give .acknowledge rfl
  have lost : Run briskSettings AnyTime (reconnectingLog.take 7)
      (.waiting 7) [.acknowledge] 2 := .take asked (.other _ rfl) rfl
  have redialled : Run briskSettings AnyTime (reconnectingLog.take 8)
      .connecting [.acknowledge] 7 :=
    .take (lost.pass 7 (by decide) trivial) (.other _ rfl) rfl
  have restored : Run briskSettings AnyTime (reconnectingLog.take 9)
      (.greeting [listenRepliesFrame]) [.acknowledge] 8 :=
    .take (redialled.pass 8 (by decide) trivial) (.other _ rfl) rfl
  have relistened : Run briskSettings AnyTime (reconnectingLog.take 10)
      (.greeting []) [.acknowledge] 8 := .take restored (.other _ rfl) rfl
  have regreeted : Run briskSettings AnyTime (reconnectingLog.take 11)
      .firstPing [.acknowledge] 8 := .take relistened (.other _ rfl) rfl
  have relive : Run briskSettings AnyTime (reconnectingLog.take 12)
      (.live ⟨.idle, .arm 8 60⟩) [.acknowledge] 8 := .take regreeted (.other _ rfl) rfl
  have closing : Run briskSettings AnyTime (reconnectingLog.take 13)
      (.live ⟨.idle, .arm 8 60⟩) [.acknowledge, .close] 8 := relive.give .close rfl
  have acknowledging : Run briskSettings AnyTime (reconnectingLog.take 14)
      (.acknowledging ⟨.idle, .arm 8 60⟩) [.close] 8 := .take closing (.command _ _) rfl
  have acknowledged : Run briskSettings AnyTime (reconnectingLog.take 15)
      (.live ⟨.idle, .arm 8 60⟩) [.close] 9 :=
    .take (acknowledging.pass 9 (by decide) trivial) (.other _ rfl) rfl
  have terminating : Run briskSettings AnyTime (reconnectingLog.take 16)
      (.terminating .closing) [] 9 := .take acknowledged (.command _ _) rfl
  have closed : Run briskSettings AnyTime reconnectingLog .closed [] 9 :=
    .take terminating (.other _ rfl) rfl
  exact ⟨closed, keepsProtocol_of_run closed, rfl⟩

end TokenRelay.Socket
