import Mathlib
import TokenRelay.Feed.Socket

/-!
# What a socket does

An acknowledgement is written only on command, and batches and replies are dispatched only
of text frames that arrive; whatever else happens to a socket does neither.  A command to
acknowledge that is taken while the socket waits for its next connection is dropped, and
one that is queued while it connects is written on the new connection.
-/

namespace TokenRelay.Socket

/-! ## Frames of the greeting are no acknowledgements -/

theorem ofFields_type_topic (kind topic : String) :
    Json.ofFields [("type", .text kind), ("topic", .text topic)] =
      .object [("topic", .text topic), ("type", .text kind)] := by
  have before : "topic" < "type" := by
    decide +kernel
  simp [Json.ofFields, Json.setField, before]

theorem listenFrame_ne_acknowledgementFrame (topic : String) :
    listenFrame topic ≠ acknowledgementFrame topic := by
  rw [listenFrame, acknowledgementFrame, ofFields_type_topic, ofFields_type_topic]
  intro equal
  have chars := congrArg String.toList equal
  simp only [Json.compact, Json.compactFields, String.toList_append, List.append_assoc,
    List.append_cancel_left_eq] at chars
  revert chars
  decide +kernel

theorem listenRepliesFrame_ne_acknowledgementFrame (topic : String) :
    listenRepliesFrame ≠ acknowledgementFrame topic := by
  rw [listenRepliesFrame, acknowledgementFrame, ofFields_type_topic]
  intro equal
  have chars := congrArg String.toList equal
  simp only [Json.ofFields, List.foldl, Json.setField, Json.compact, Json.compactFields,
    String.toList_append, List.append_assoc, List.append_cancel_left_eq] at chars
  cases chars

/-! ## Quiet steps -/

/-- An action that neither dispatches anything nor writes an acknowledgement. -/
def Action.IsQuiet (topic : String) : Action → Prop
  | .send frame => frame ≠ .text (acknowledgementFrame topic)
  | .batch _ => False
  | .reply _ => False
  | _ => True

/-- No frame that is left of the greeting is an acknowledgement. -/
def Phase.IsTidy (topic : String) : Phase → Prop
  | .greeting rest => acknowledgementFrame topic ∉ rest
  | _ => True

/-- All actions are quiet, and no acknowledgement is left in the greeting. -/
structure Next.IsQuiet (topic : String) (next : Next) : Prop where
  actions : ∀ action ∈ next.2, action.IsQuiet topic
  tidy : next.1.IsTidy topic

/-- Whether an input is neither a command to acknowledge nor a text frame. -/
def Input.isPlain : Input → Bool
  | .command .acknowledge => false
  | .arrived (.frame (.text _)) => false
  | _ => true

section Step

variable {settings : SocketSettings} {now : Nat}

theorem isQuiet_dial (topic : String) : dial.IsQuiet topic where
  actions := by simp [dial, Action.IsQuiet]
  tidy := trivial

theorem isQuiet_backOff (topic : String) : (backOff settings now).IsQuiet topic where
  actions := by simp [backOff, Action.IsQuiet]
  tidy := trivial

theorem isQuiet_drop (topic : String) : (drop settings now).IsQuiet topic where
  actions := by simp [drop, backOff, Action.IsQuiet]
  tidy := trivial

theorem isQuiet_awaitPong (topic : String) (ping : Timer) :
    (awaitPong settings now ping).IsQuiet topic where
  actions := nofun
  tidy := trivial

theorem isQuiet_greeting (topic : String) :
    Next.IsQuiet topic (.greeting [listenRepliesFrame], [.send (.text (listenFrame topic))])
    where
  actions := by
    simpa [Action.IsQuiet] using listenFrame_ne_acknowledgementFrame topic
  tidy := by
    simpa [Phase.IsTidy] using (listenRepliesFrame_ne_acknowledgementFrame topic).symm

/-- A plain input makes a quiet step. -/
theorem isQuiet_of_isPlain {phase : Phase} {input : Input} {next : Next}
    (tidy : phase.IsTidy settings.topic) (plain : input.isPlain = true)
    (possible : step settings now phase input = some next) :
    next.IsQuiet settings.topic := by
  cases phase with
  | unstarted =>
      cases input <;> cases possible
      exact isQuiet_dial _
  | connecting =>
      cases input <;> cases possible
      · exact isQuiet_greeting _
      · exact isQuiet_backOff _
  | greeting rest =>
      cases rest with
      | nil =>
          cases input <;> cases possible
          · exact ⟨by simp [Action.IsQuiet], trivial⟩
          · exact isQuiet_drop _
      | cons text rest =>
          have others := List.not_mem_of_not_mem_cons tidy
          have first := List.ne_of_not_mem_cons tidy
          cases input <;> cases possible
          · exact ⟨by simpa [Action.IsQuiet] using first.symm, others⟩
          · exact isQuiet_drop _
  | firstPing =>
      cases input <;> cases possible
      · exact isQuiet_awaitPong _ _
      · exact isQuiet_drop _
  | live keepalive =>
      cases input with
      | command command =>
          cases command with
          | acknowledge => cases plain
          | close =>
              cases possible
              exact ⟨by simp [commanded, Action.IsQuiet], trivial⟩
      | arrived arrival =>
          cases possible
          rcases arrival with frame | failure | -
          · cases frame with
            | text text => cases plain
            | ping => exact ⟨nofun, trivial⟩
            | pong => exact ⟨nofun, trivial⟩
            | close => exact isQuiet_drop _
          · exact isQuiet_drop _
          · exact isQuiet_drop _
      | pingDue =>
          simp only [step] at possible
          split_ifs at possible
          cases possible
          exact ⟨by simp [Action.IsQuiet], trivial⟩
      | pongOverdue =>
          simp only [step] at possible
          split_ifs at possible
          cases possible
          exact ⟨by simp [Action.IsQuiet], trivial⟩
      | _ => cases possible
  | acknowledging keepalive =>
      cases input <;> cases possible
      · exact ⟨nofun, trivial⟩
      · exact isQuiet_drop _
  | pinging keepalive =>
      cases input <;> cases possible
      · exact isQuiet_awaitPong _ _
      · exact isQuiet_drop _
  | terminating reason =>
      cases reason <;> cases input <;> cases possible
      · exact isQuiet_drop _
      · exact ⟨by simp [Action.IsQuiet], trivial⟩
  | waiting due =>
      cases input with
      | command command =>
          cases command with
          | acknowledge => cases plain
          | close =>
              cases possible
              exact ⟨by simp [Action.IsQuiet], trivial⟩
      | delayOver =>
          simp only [step] at possible
          split_ifs at possible
          cases possible
          exact isQuiet_dial _
      | _ => cases possible
  | closed => cases possible

/-! ## What a step may do -/

/-- What an input can make the task do, by the kinds that matter. -/
inductive Does (settings : SocketSettings) : Input → List Action → Prop where
  | acknowledged : Does settings (.command .acknowledge)
      [.send (.text (acknowledgementFrame settings.topic))]
  | dropped : Does settings (.command .acknowledge) []
  | dispatched (text : String) :
      Does settings (.arrived (.frame (.text text))) (dispatch text)
  | quiet {input : Input} {actions : List Action} (plain : input.isPlain = true)
      (quiet : ∀ action ∈ actions, action.IsQuiet settings.topic) :
      Does settings input actions

/-- A step does what its input allows, and leaves no acknowledgement in the greeting. -/
theorem does_of_step {phase next : Phase} {input : Input} {actions : List Action}
    (tidy : phase.IsTidy settings.topic)
    (possible : step settings now phase input = some (next, actions)) :
    Does settings input actions ∧ next.IsTidy settings.topic := by
  by_cases plain : input.isPlain = true
  · have quiet := isQuiet_of_isPlain tidy plain possible
    exact ⟨.quiet plain quiet.actions, quiet.tidy⟩
  · cases input with
    | command command =>
        cases command with
        | acknowledge =>
            cases phase with
            | live keepalive =>
                cases possible
                exact ⟨.acknowledged, trivial⟩
            | waiting due =>
                cases possible
                exact ⟨.dropped, trivial⟩
            | greeting rest => cases rest <;> cases possible
            | terminating reason => cases reason <;> cases possible
            | _ => cases possible
        | close => exact absurd rfl plain
    | arrived arrival =>
        rcases arrival with frame | failure | -
        · cases frame with
          | text text =>
              cases phase with
              | live keepalive =>
                  cases possible
                  exact ⟨.dispatched text, trivial⟩
              | greeting rest => cases rest <;> cases possible
              | terminating reason => cases reason <;> cases possible
              | _ => cases possible
          | _ => exact absurd rfl plain
        · exact absurd rfl plain
        · exact absurd rfl plain
    | _ => exact absurd rfl plain

end Step

end TokenRelay.Socket
