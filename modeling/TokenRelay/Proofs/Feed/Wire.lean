import TokenRelay.Proofs.Feed.Run

/-!
# What a socket writes and publishes

A `Wire` is what there is to say of one connection: its frames and the commands of its time.
The frames of every connection are a greeting, or the beginning of one, and after a whole
greeting pings and acknowledgements in any order.  Which of them are on the latest wire can
be read off the phase (`Stage`), and that carries the induction over a run.

The states that are published make a path of the allowed moves, and after the move to
`Closing` the socket only takes its leave.
-/

namespace TokenRelay.Socket

/-! ## Frames -/

/-- The frame that acknowledges a batch. -/
def acknowledgement (topic : String) : Frame :=
  .text (acknowledgementFrame topic)

/-- The frames with which a connection begins. -/
def greeting (topic : String) : List Frame :=
  [.text (listenFrame topic), .text listenRepliesFrame, .ping]

/-- A frame that may follow the greeting. -/
def FollowsGreeting (topic : String) (frame : Frame) : Prop :=
  frame = .ping ∨ frame = acknowledgement topic

/-- Frames are a prefix of the greeting followed by any mix of pings and acknowledgements. -/
def Speaks (topic : String) (frames : List Frame) : Prop :=
  ∃ later, (∀ frame ∈ later, FollowsGreeting topic frame) ∧
    frames <+: greeting topic ++ later

theorem speaks_of_prefix_greeting {topic : String} {frames : List Frame}
    (begun : frames <+: greeting topic) : Speaks topic frames :=
  ⟨[], nofun, by rwa [List.append_nil]⟩

/-- The frame that an action hands over to the connection. -/
def Action.frame? : Action → Option Frame
  | .send frame => some frame
  | _ => none

/-- The frames that are handed over. -/
def sentFrames (actions : List Action) : List Frame :=
  actions.filterMap Action.frame?

/-- How many acknowledgements are handed over. -/
def acknowledgements (topic : String) (actions : List Action) : Nat :=
  (sentFrames actions).count (acknowledgement topic)

/-- The frame that a command asks for. -/
def Command.frame? (topic : String) : Command → Option Frame
  | .acknowledge => some (acknowledgement topic)
  | .close => none

theorem acknowledgement_not_mem_greeting (topic : String) :
    acknowledgement topic ∉ greeting topic := by
  simp only [greeting, acknowledgement, List.mem_cons, Frame.text.injEq, reduceCtorEq,
    List.not_mem_nil, or_false, not_or]
  constructor
  · exact (listenFrame_ne_acknowledgementFrame topic).symm
  · exact (listenRepliesFrame_ne_acknowledgementFrame topic).symm

theorem sentFrames_dispatch (text : String) : sentFrames (dispatch text) = [] := by
  unfold dispatch
  split <;> rfl

/-! ## Wires -/

/-- One connection: what was written on it, and what was asked for meanwhile. -/
structure Wire where
  written : List Frame
  /-- What was handed over and is not known to have been written. -/
  pending : List Frame
  /-- The commands that were taken since the connection was made. -/
  commands : List Command

namespace Wire

/-- All frames that were handed over. -/
def frames (wire : Wire) : List Frame :=
  wire.written ++ wire.pending

/-- A wire after an input. -/
def note (wire : Wire) : Input → Wire
  | .sent => ⟨wire.frames, [], wire.commands⟩
  | .command order => ⟨wire.written, wire.pending, wire.commands ++ [order]⟩
  | _ => wire

/-- Frames are handed over. -/
def hand (wire : Wire) (frames : List Frame) : Wire :=
  ⟨wire.written, wire.pending ++ frames, wire.commands⟩

variable (wire : Wire)

@[simp]
theorem frames_note (input : Input) : (wire.note input).frames = wire.frames := by
  cases input <;> simp [note, frames]

@[simp]
theorem frames_hand (frames : List Frame) :
    (wire.hand frames).frames = wire.frames ++ frames := by
  simp [hand, Wire.frames]

@[simp]
theorem commands_hand (frames : List Frame) : (wire.hand frames).commands = wire.commands :=
  rfl

@[simp]
theorem hand_nil : wire.hand [] = wire := by
  simp [hand]

end Wire

/-- The wires after a moment, the latest first. -/
def advance (wires : List Wire) (moment : Moment) : List Wire :=
  match moment.input with
  | .connected => ⟨[], sentFrames moment.actions, []⟩ :: wires
  | input => wires.modifyHead fun wire => (wire.note input).hand (sentFrames moment.actions)

/-- All wires of a run, the latest first. -/
def wires (history : List Moment) : List Wire :=
  history.foldl advance []

/-- Arrivals change no wire. -/
theorem advance_arrived (all : List Wire) (now : Nat) (arrival : Arrival)
    {actions : List Action} (silent : sentFrames actions = []) :
    advance all ⟨now, .arrived arrival, actions⟩ = all := by
  cases all with
  | nil => rfl
  | cons wire past => simp [advance, Wire.note, silent]

theorem advance_sent (wire : Wire) (past : List Wire) (now : Nat) :
    advance (wire :: past) ⟨now, .sent, []⟩ = wire.note .sent :: past := by
  simp [advance, sentFrames]

theorem wires_concat (history : List Moment) (moment : Moment) :
    wires (history ++ [moment]) = advance (wires history) moment := by
  simp [wires]

/-! ## Stages of a connection -/

/-- A wire on which the greeting is over: what is on its way, and what was acknowledged. -/
structure Wire.Carries (topic : String) (wire : Wire) (pending : List Frame) : Prop where
  pending : wire.pending = pending
  greeted : ∃ later, wire.frames = greeting topic ++ later ∧
    ∀ frame ∈ later, FollowsGreeting topic frame
  /-- Each command to acknowledge has handed over its frame. -/
  acknowledged : wire.frames.filter (· = acknowledgement topic) =
    wire.commands.filterMap (Command.frame? topic)

namespace Wire.Carries

variable {topic : String} {wire : Wire} {pending : List Frame}

theorem speaks (carries : wire.Carries topic pending) : Speaks topic wire.frames := by
  obtain ⟨later, same, follow⟩ := carries.greeted
  exact ⟨later, follow, by rw [same]⟩

/-- A frame that follows the greeting may be handed over. -/
theorem extend (carries : wire.Carries topic pending) {frame : Frame}
    (follows : FollowsGreeting topic frame) :
    ∃ later, wire.frames ++ [frame] = greeting topic ++ later ∧
      ∀ frame ∈ later, FollowsGreeting topic frame := by
  obtain ⟨later, same, follow⟩ := carries.greeted
  refine ⟨later ++ [frame], by rw [same, List.append_assoc], ?_⟩
  intro other member
  rcases List.mem_append.1 member with old | last
  · exact follow other old
  · rwa [List.mem_singleton.1 last]

theorem sent (carries : wire.Carries topic pending) :
    (wire.note .sent).Carries topic [] where
  pending := rfl
  greeted := by
    rw [frames_note]
    exact carries.greeted
  acknowledged := by
    rw [frames_note]
    exact carries.acknowledged

theorem ping (carries : wire.Carries topic []) : (wire.hand [.ping]).Carries topic [.ping] where
  pending := by
    simp [hand, carries.pending]
  greeted := by
    rw [frames_hand]
    exact carries.extend (.inl rfl)
  acknowledged := by
    rw [frames_hand, List.filter_append, carries.acknowledged]
    simp [acknowledgement]

theorem acknowledge (carries : wire.Carries topic []) :
    ((wire.note (.command .acknowledge)).hand [acknowledgement topic]).Carries topic
      [acknowledgement topic] where
  pending := by
    simp [note, hand, carries.pending]
  greeted := by
    rw [frames_hand, frames_note]
    exact carries.extend (.inr rfl)
  acknowledged := by
    rw [frames_hand, frames_note, List.filter_append, carries.acknowledged]
    simp [note, hand, Command.frame?]

end Wire.Carries

/-- How far the latest wire is in a phase. -/
inductive Stage (topic : String) : Phase → List Wire → Prop where
  | away {phase : Phase} (wires : List Wire) (gone : phase.isAlive = false) :
      Stage topic phase wires
  | listening (past : List Wire) :
      Stage topic (.greeting [listenRepliesFrame])
        (⟨[], [.text (listenFrame topic)], []⟩ :: past)
  | asking (past : List Wire) :
      Stage topic (.greeting [])
        (⟨[.text (listenFrame topic)], [.text listenRepliesFrame], []⟩ :: past)
  | firstPing (past : List Wire) :
      Stage topic .firstPing
        (⟨[.text (listenFrame topic), .text listenRepliesFrame], [.ping], []⟩ :: past)
  | live (keepalive : Keepalive) {wire : Wire} (past : List Wire)
      (carries : wire.Carries topic []) : Stage topic (.live keepalive) (wire :: past)
  | acknowledging (keepalive : Keepalive) {wire : Wire} (past : List Wire)
      (carries : wire.Carries topic [acknowledgement topic]) :
      Stage topic (.acknowledging keepalive) (wire :: past)
  | pinging (keepalive : Keepalive) {wire : Wire} (past : List Wire)
      (carries : wire.Carries topic [.ping]) :
      Stage topic (.pinging keepalive) (wire :: past)

/-- All wires speak as they should, and the latest is as far as the phase says. -/
structure Wired (topic : String) (phase : Phase) (wires : List Wire) : Prop where
  speaks : ∀ wire ∈ wires, Speaks topic wire.frames
  stage : Stage topic phase wires

/-- The wire of a connection whose first ping was sent. -/
theorem carries_greeting (topic : String) :
    (Wire.mk (greeting topic) [] []).Carries topic [] where
  pending := rfl
  greeted := ⟨[], by simp [Wire.frames], nofun⟩
  acknowledged := by
    apply List.filter_eq_nil_iff.2
    intro frame member same
    rw [of_decide_eq_true same, Wire.frames, List.append_nil] at member
    exact acknowledgement_not_mem_greeting topic member

namespace Wired

variable {settings : SocketSettings} {topic : String} {phase next : Phase} {input : Input}
  {actions : List Action} {now : Nat} {wire : Wire} {all past : List Wire}

/-- A latest wire may go on as long as it speaks as it should. -/
theorem follow (wired : Wired topic phase (wire :: past)) {later : Wire}
    (speaks : Speaks topic later.frames) (stage : Stage topic next (later :: past)) :
    Wired topic next (later :: past) where
  speaks := by
    intro other member
    rcases List.mem_cons.1 member with rfl | earlier
    · exact speaks
    · exact wired.speaks other (List.mem_cons_of_mem _ earlier)
  stage := stage

/-- A moment without a frame leaves the frames of all wires. -/
theorem quiet (wired : Wired topic phase all) {moment : Moment}
    (silent : sentFrames moment.actions = []) (other : moment.input ≠ .connected)
    (gone : next.isAlive = false) : Wired topic next (advance all moment) where
  speaks := by
    have same : advance all moment = all.modifyHead fun wire => wire.note moment.input := by
      unfold advance
      split
      · exact absurd ‹_› other
      · simp [silent]
    rw [same]
    cases all with
    | nil => nofun
    | cons wire past =>
        intro later member
        rcases List.mem_cons.1 member with rfl | earlier
        · rw [Wire.frames_note]
          exact wired.speaks wire List.mem_cons_self
        · exact wired.speaks later (List.mem_cons_of_mem _ earlier)
  stage := .away _ gone

/-- A transition leads from one stage to the next. -/
theorem transition (wired : Wired settings.topic phase all)
    (does : Transition settings now phase input next actions) :
    Wired settings.topic next (advance all ⟨now, input, actions⟩) := by
  have stage := wired.stage
  cases does with
  | connected =>
      refine ⟨?_, .listening all⟩
      intro wire member
      rcases List.mem_cons.1 member with rfl | earlier
      · exact speaks_of_prefix_greeting ⟨_, rfl⟩
      · exact wired.speaks wire earlier
  | listened text rest =>
      cases stage with
      | away all gone => cases gone
      | listening past =>
          exact wired.follow (speaks_of_prefix_greeting ⟨_, rfl⟩) (.asking past)
  | greeted =>
      cases stage with
      | away all gone => cases gone
      | asking past =>
          exact wired.follow (speaks_of_prefix_greeting ⟨_, rfl⟩) (.firstPing past)
  | pinged =>
      cases stage with
      | away all gone => cases gone
      | firstPing past =>
          exact wired.follow (carries_greeting _).speaks (.live _ past (carries_greeting _))
  | acknowledges keepalive =>
      cases stage with
      | away all gone => cases gone
      | live keepalive past carries =>
          exact wired.follow carries.acknowledge.speaks
            (.acknowledging keepalive past carries.acknowledge)
  | pings due =>
      cases stage with
      | away all gone => cases gone
      | live keepalive past carries =>
          exact wired.follow carries.ping.speaks (.pinging _ past carries.ping)
  | acknowledged keepalive =>
      cases stage with
      | away all gone => cases gone
      | acknowledging keepalive past carries =>
          rw [advance_sent]
          exact wired.follow carries.sent.speaks (.live keepalive past carries.sent)
  | pingedAgain keepalive =>
      cases stage with
      | away all gone => cases gone
      | pinging keepalive past carries =>
          rw [advance_sent]
          exact wired.follow carries.sent.speaks (.live _ past carries.sent)
  | dispatches keepalive text =>
      rwa [advance_arrived all now _ (sentFrames_dispatch text)]
  | overlooks keepalive =>
      rwa [advance_arrived all now _ rfl]
  | answered keepalive =>
      cases stage with
      | away all gone => cases gone
      | live keepalive past carries =>
          rw [advance_arrived _ now _ rfl]
          exact wired.follow carries.speaks (.live _ past carries)
  | _ => exact wired.quiet rfl nofun rfl

end Wired

end TokenRelay.Socket
