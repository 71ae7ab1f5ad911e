import TokenRelay.Proofs.Feed.Protocol

/-!
# The cadence of reconnection

The clock is punctual: time does not go on past a timer that is due.  How long the transport
takes for anything is left open, and commands may come at any instant.

While nobody closes the socket, its attempts to connect are one at the start and one after
each end of an attempt or of a session, exactly the delay after it.  That is an equation
between two lists, with the attempt that is still to come at the end of the first
(`attempts_append_redial`), and each step keeps it.
-/

namespace TokenRelay.Socket

/-! ## What is counted -/

/-- Whether an action begins an attempt to connect. -/
def Action.isAttempt : Action → Bool
  | .connect => true
  | _ => false

/-- Whether an action lets the connection go. -/
def Action.isRelease : Action → Bool
  | .release => true
  | _ => false

namespace Input

def isStart : Input → Bool
  | .start => true
  | _ => false

def isOpening : Input → Bool
  | .connected => true
  | _ => false

/-- Whether an input is the end of an attempt or of a session. -/
def isEnd : Input → Bool
  | .connectFailed => true
  | .sendFailed => true
  | .arrived arrival => arrival.isEnd
  | .terminated => true
  | _ => false

end Input

/-- Whether an attempt to connect is made. -/
def Moment.isAttempt (moment : Moment) : Bool :=
  moment.actions.any Action.isAttempt

/-- The instants of the moments that are of a kind. -/
def instants (kind : Moment → Bool) (history : List Moment) : List Nat :=
  (history.filter kind).map (·.instant)

/-- The instants at which attempts began. -/
def attempts (history : List Moment) : List Nat :=
  instants Moment.isAttempt history

/-- When the socket was started. -/
def starts (history : List Moment) : List Nat :=
  instants (·.input.isStart) history

/-- When attempts and sessions ended. -/
def ends (history : List Moment) : List Nat :=
  instants (·.input.isEnd) history

/-- How many connections were made. -/
def opened (history : List Moment) : Nat :=
  history.countP (·.input.isOpening)

/-- How many connections were let go of. -/
def released (history : List Moment) : Nat :=
  (actionsOf history).countP Action.isRelease

/-- When the next attempt is due. -/
def Phase.redial? : Phase → Option Nat
  | .waiting due => some due
  | _ => none

section Counting

variable {kind : Moment → Bool} {moment : Moment} (history : List Moment)

theorem instants_of_kind (shown : kind moment = true) :
    instants kind (history ++ [moment]) = instants kind history ++ [moment.instant] := by
  simp [instants, shown]

theorem instants_of_other (other : kind moment = false) :
    instants kind (history ++ [moment]) = instants kind history := by
  simp [instants, other]

theorem opened_concat (moment : Moment) :
    opened (history ++ [moment]) =
      opened history + if moment.input.isOpening then 1 else 0 := by
  cases shown : moment.input.isOpening <;> simp [opened, shown]

theorem released_concat (moment : Moment) :
    released (history ++ [moment]) =
      released history + moment.actions.countP Action.isRelease := by
  rw [released, actionsOf_concat, List.countP_append, released]

end Counting

theorem not_isAttempt_dispatch (text : String) :
    (dispatch text).any Action.isAttempt = false := by
  unfold dispatch
  split <;> rfl

theorem countP_release_dispatch (text : String) :
    (dispatch text).countP Action.isRelease = 0 := by
  unfold dispatch
  split <;> rfl

variable {settings : SocketSettings} {clock : Phase → Nat → Prop} {log : List Event}
  {phase next : Phase} {input : Input} {actions : List Action} {queue : List Command}
  {now : Nat} {history : List Moment}

/-! ## Connections -/

/-- The connections that are open in a phase. -/
def Phase.connections (phase : Phase) : Nat :=
  if phase.isInSession then 1 else 0

/-- A transition opens and releases what the phases say. -/
theorem Transition.connections (does : Transition settings now phase input next actions) :
    phase.connections + (if input.isOpening then 1 else 0) =
      next.connections + actions.countP Action.isRelease := by
  cases does with
  | unsent sending =>
      cases phase with
      | greeting rest => rfl
      | firstPing => rfl
      | acknowledging keepalive => rfl
      | pinging keepalive => rfl
      | _ => cases sending
  | dispatches keepalive text =>
      rw [countP_release_dispatch]
      rfl
  | _ => rfl

/-- A connection is open in a session, and none besides. -/
theorem Run.opened_eq (run : Run settings clock log phase queue now) :
    opened (moments log) = released (moments log) + phase.connections := by
  apply run.induct fun history phase _ =>
    opened history = released history + phase.connections
  · intro now
    rfl
  · intro history phase now input next actions same possible
    rw [opened_concat, released_concat, same, Nat.add_assoc,
      (transition_of_step possible).connections]
    ring
  · intro history phase now later same forward permitted
    exact same

/-! ## Attempts -/

/-- What a step that does not close the socket means for its attempts. -/
inductive Pulse (delay now : Nat) : Phase → Moment → Phase → Prop where
  | begins : Pulse delay now .unstarted ⟨now, .start, dial.2⟩ .connecting
  | redials {due : Nat} (late : due ≤ now) :
      Pulse delay now (.waiting due) ⟨now, .delayOver, dial.2⟩ .connecting
  | ends {phase : Phase} {input : Input} {actions : List Action}
      (begun : phase.shown ≠ .disconnected) (free : phase.redial? = none)
      (last : input.isEnd = true) (other : input.isStart = false)
      (silent : actions.any Action.isAttempt = false) :
      Pulse delay now phase ⟨now, input, actions⟩ (.waiting (now + delay))
  | goesOn {phase next : Phase} {input : Input} {actions : List Action}
      (begun : phase.shown ≠ .disconnected) (same : next.redial? = phase.redial?)
      (going : input.isEnd = false) (other : input.isStart = false)
      (silent : actions.any Action.isAttempt = false) (shown : next.shown ≠ .disconnected)
      (open' : next.isParting = false) : Pulse delay now phase ⟨now, input, actions⟩ next

theorem Transition.pulse (does : Transition settings now phase input next actions)
    (open' : phase.isParting = false) (other : input.command? ≠ some .close) :
    Pulse settings.feed.reconnectDelay now phase ⟨now, input, actions⟩ next := by
  cases does with
  | started => exact .begins
  | redials late => exact .redials late
  | unreached => exact .ends nofun rfl rfl rfl rfl
  | unsent sending =>
      cases phase with
      | greeting rest => exact .ends nofun rfl rfl rfl rfl
      | firstPing => exact .ends nofun rfl rfl rfl rfl
      | acknowledging keepalive => exact .ends nofun rfl rfl rfl rfl
      | pinging keepalive => exact .ends nofun rfl rfl rfl rfl
      | _ => cases sending
  | left keepalive last => exact .ends nofun rfl last rfl rfl
  | givenUp => exact .ends nofun rfl rfl rfl rfl
  | closes keepalive => exact absurd rfl other
  | quits due => exact absurd rfl other
  | parted => cases open'
  | dispatches keepalive text =>
      exact .goesOn nofun rfl rfl rfl (not_isAttempt_dispatch text) nofun rfl
  | _ => exact .goesOn nofun rfl rfl rfl rfl nofun rfl

/-- What holds of the attempts of a socket that nobody has closed. -/
structure Paced (settings : SocketSettings) (history : List Moment) (phase : Phase)
    (now : Nat) : Prop where
  open' : phase.isParting = false
  fresh : phase.shown = .disconnected → history = []
  begun : phase.shown ≠ .disconnected → ∃ first, starts history = [first]
  /-- The attempts with the one that is due are the first one and one after each end. -/
  paced : attempts history ++ phase.redial?.toList =
    starts history ++ (ends history).map (· + settings.feed.reconnectDelay)
  timely : ∀ due, phase.redial? = some due → now ≤ due

theorem paced_start (now : Nat) : Paced settings [] .unstarted now where
  open' := rfl
  fresh := fun _ => rfl
  begun := fun begun => absurd rfl begun
  paced := rfl
  timely := nofun

/-- The attempt that was due is made at its instant, since the clock is punctual. -/
theorem Paced.redial {due : Nat} (paced : Paced settings history (.waiting due) now)
    (late : due ≤ now) :
    Paced settings (history ++ [⟨now, .delayOver, dial.2⟩]) .connecting now := by
  have punctual : now = due := le_antisymm (paced.timely due rfl) late
  have tried : attempts (history ++ [⟨now, .delayOver, dial.2⟩]) = attempts history ++ [now] :=
    instants_of_kind history rfl
  have started : starts (history ++ [⟨now, .delayOver, dial.2⟩]) = starts history :=
    instants_of_other history rfl
  have ended : ends (history ++ [⟨now, .delayOver, dial.2⟩]) = ends history :=
    instants_of_other history rfl
  constructor
  · rfl
  · nofun
  · intro _
    rw [started]
    exact paced.begun nofun
  · rw [tried, started, ended, ← paced.paced, punctual]
    exact List.append_nil _
  · nofun

/-- An end makes the next attempt due. -/
theorem Paced.ended (paced : Paced settings history phase now)
    (shown : phase.shown ≠ .disconnected) (free : phase.redial? = none)
    (last : input.isEnd = true) (other : input.isStart = false)
    (silent : actions.any Action.isAttempt = false) :
    Paced settings (history ++ [⟨now, input, actions⟩])
      (.waiting (now + settings.feed.reconnectDelay)) now := by
  have tried : attempts (history ++ [⟨now, input, actions⟩]) = attempts history :=
    instants_of_other history silent
  have started : starts (history ++ [⟨now, input, actions⟩]) = starts history :=
    instants_of_other history other
  have ended : ends (history ++ [⟨now, input, actions⟩]) = ends history ++ [now] :=
    instants_of_kind history last
  have same := paced.paced
  rw [free, Option.toList_none, List.append_nil] at same
  constructor
  · rfl
  · nofun
  · intro _
    rw [started]
    exact paced.begun shown
  · rw [tried, started, ended, same, List.map_append, List.append_assoc]
    rfl
  · rintro due ⟨⟩
    exact Nat.le_add_right now _

/-- Nothing else makes a difference. -/
theorem Paced.goesOn (paced : Paced settings history phase now)
    (shown : phase.shown ≠ .disconnected) (same : next.redial? = phase.redial?)
    (going : input.isEnd = false) (other : input.isStart = false)
    (silent : actions.any Action.isAttempt = false) (still : next.shown ≠ .disconnected)
    (open' : next.isParting = false) :
    Paced settings (history ++ [⟨now, input, actions⟩]) next now := by
  have tried : attempts (history ++ [⟨now, input, actions⟩]) = attempts history :=
    instants_of_other history silent
  have started : starts (history ++ [⟨now, input, actions⟩]) = starts history :=
    instants_of_other history other
  have ended : ends (history ++ [⟨now, input, actions⟩]) = ends history :=
    instants_of_other history going
  constructor
  · exact open'
  · exact fun disconnected => absurd disconnected still
  · intro _
    rw [started]
    exact paced.begun shown
  · rw [tried, started, ended, same]
    exact paced.paced
  · rw [same]
    exact paced.timely

theorem Paced.step {moment : Moment} (paced : Paced settings history phase now)
    (pulse : Pulse settings.feed.reconnectDelay now phase moment next) :
    Paced settings (history ++ [moment]) next now := by
  cases pulse with
  | begins =>
      cases paced.fresh rfl
      exact ⟨rfl, nofun, fun _ => ⟨now, rfl⟩, rfl, nofun⟩
  | redials late => exact paced.redial late
  | ends shown free last other silent => exact paced.ended shown free last other silent
  | goesOn shown same going other silent still open' =>
      exact paced.goesOn shown same going other silent still open'

theorem Paced.pass (paced : Paced settings history phase now) {later : Nat}
    (permitted : Punctual phase later) : Paced settings history phase later where
  open' := paced.open'
  fresh := paced.fresh
  begun := paced.begun
  paced := paced.paced
  timely := by
    intro due waiting
    apply permitted
    cases phase with
    | waiting instant => exact waiting
    | _ => cases waiting

/-- As long as nobody has closed the socket its attempts are paced. -/
theorem Run.paced (run : Run settings Punctual log phase queue now)
    (open' : .close ∉ taken (moments log)) : Paced settings (moments log) phase now := by
  revert open'
  apply run.induct fun history phase now =>
    .close ∉ taken history → Paced settings history phase now
  · intro now open'
    exact paced_start now
  · intro history phase now input next actions induction possible open'
    rw [taken_concat, List.mem_append, not_or] at open'
    obtain ⟨before, last⟩ := open'
    apply (induction before).step
    apply (transition_of_step possible).pulse (induction before).open'
    intro close
    exact last (by simp [close])
  · intro history phase now later induction forward permitted open'
    exact (induction open').pass permitted

/-- An attempt is due only while the socket waits for it. -/
theorem Phase.eq_waiting {due : Nat} (waits : phase.redial? = some due) :
    phase = .waiting due := by
  cases phase with
  | waiting instant =>
      cases waits
      rfl
  | _ => cases waits

/-- Once the socket has begun, the attempts are a first one and one after each end. -/
theorem Paced.exists_first (paced : Paced settings history phase now)
    (begun : phase.shown ≠ .disconnected) :
    ∃ first, attempts history ++ phase.redial?.toList =
      first :: (ends history).map (· + settings.feed.reconnectDelay) := by
  obtain ⟨first, started⟩ := paced.begun begun
  use first
  rw [paced.paced, started]
  rfl

theorem Paced.length_eq (paced : Paced settings history phase now)
    (begun : phase.shown ≠ .disconnected) :
    (attempts history).length + phase.redial?.toList.length = (ends history).length + 1 := by
  obtain ⟨first, same⟩ := paced.exists_first begun
  rw [← List.length_append, same, List.length_cons, List.length_map]

theorem Paced.length_le (paced : Paced settings history phase now) :
    (attempts history).length ≤ (ends history).length + 1 := by
  by_cases begun : phase.shown = .disconnected
  · rw [paced.fresh begun]
    exact Nat.zero_le _
  · rw [← paced.length_eq begun]
    exact Nat.le_add_right _ _

/-- An end is followed by the next attempt, or that attempt is still due. -/
theorem Paced.follows (paced : Paced settings history phase now) {place instant : Nat}
    (ended : (ends history)[place]? = some instant) :
    (attempts history)[place + 1]? = some (instant + settings.feed.reconnectDelay) ∨
      phase = .waiting (instant + settings.feed.reconnectDelay) ∧
        place + 1 = (attempts history).length ∧
        now ≤ instant + settings.feed.reconnectDelay := by
  have begun : phase.shown ≠ .disconnected := by
    intro unstarted
    rw [paced.fresh unstarted] at ended
    cases ended
  obtain ⟨first, same⟩ := paced.exists_first begun
  have next := congrArg (·[place + 1]?) same
  simp only [List.getElem?_cons_succ, List.getElem?_map, ended, Option.map_some] at next
  cases waits : phase.redial? with
  | none =>
      rw [waits, Option.toList_none, List.append_nil] at next
      exact .inl next
  | some due =>
      rw [waits, Option.toList_some] at next
      rcases lt_or_ge (place + 1) (attempts history).length with made | rest
      · rw [List.getElem?_append_left made] at next
        exact .inl next
      · rw [List.getElem?_append_right rest, List.getElem?_singleton] at next
        split_ifs at next with last
        cases next
        exact .inr ⟨phase.eq_waiting waits, by omega, paced.timely _ waits⟩

/-! ## The cadence -/

/-- The cadence of a socket at a point of a run in which nobody has closed it. -/
structure KeepsCadence (settings : SocketSettings) (log : List Event) (phase : Phase)
    (queue : List Command) (now : Nat) : Prop where
  /-- An end is followed by its own attempt, the delay after it, unless that is to come. -/
  follows : ∀ place instant, (ends (moments log))[place]? = some instant →
    (attempts (moments log))[place + 1]? = some (instant + settings.feed.reconnectDelay) ∨
      phase = .waiting (instant + settings.feed.reconnectDelay) ∧
        place + 1 = (attempts (moments log)).length ∧
        now ≤ instant + settings.feed.reconnectDelay
  /-- There are no other attempts than these and the first. -/
  only : (attempts (moments log)).length ≤ (ends (moments log)).length + 1
  /-- An attempt that is to come can be made when it is due, whatever is queued. -/
  possible : ∀ due, phase = .waiting due →
    Run settings Punctual (log ++ [.taken ⟨due, .delayOver, dial.2⟩]) .connecting queue due
  /-- No two connections are open at any time. -/
  single : ∀ before, before <+: moments log → opened before ≤ released before + 1
  /-- An attempt is made only when all connections were let go of and all attempts are over. -/
  alone : ∀ before moment after, moments log = before ++ moment :: after →
    moment.isAttempt = true →
      opened before = released before ∧ (attempts before).length = (ends before).length

theorem Run.opened_le (run : Run settings clock log phase queue now)
    {before : List Moment} (begins : before <+: moments log) :
    opened before ≤ released before + 1 := by
  obtain ⟨earlier, phase, queue, now, shorter, rfl⟩ := run.exists_prefix begins
  rw [shorter.opened_eq, Phase.connections]
  split_ifs <;> omega

/-- An attempt is made in the beginning, or when it is due. -/
theorem Transition.attempted (does : Transition settings now phase input next actions)
    (attempt : actions.any Action.isAttempt = true) :
    phase = .unstarted ∨ ∃ due, phase = .waiting due := by
  cases does with
  | started => exact .inl rfl
  | redials late => exact .inr ⟨_, rfl⟩
  | dispatches keepalive text =>
      rw [not_isAttempt_dispatch] at attempt
      cases attempt
  | _ => cases attempt

/-- An attempt is made when no connection is open and no other attempt is under way. -/
theorem Run.alone (run : Run settings Punctual log phase queue now)
    (open' : .close ∉ taken (moments log)) {before after : List Moment} {moment : Moment}
    (split : moments log = before ++ moment :: after) (attempt : moment.isAttempt = true) :
    opened before = released before ∧ (attempts before).length = (ends before).length := by
  obtain ⟨earlier, phase, next, queue, shorter, rfl, possible⟩ := run.exists_step split
  have paced : Paced settings (moments earlier) phase moment.instant := by
    apply shorter.paced
    intro close
    apply open'
    rw [split, taken, List.filterMap_append]
    exact List.mem_append_left _ close
  rcases (transition_of_step possible).attempted attempt with rfl | ⟨due, rfl⟩
  · rw [shorter.opened_eq, paced.fresh rfl]
    exact ⟨rfl, rfl⟩
  · have begun : (Phase.waiting due).shown ≠ .disconnected := by
      simp [Phase.shown]
    constructor
    · exact shorter.opened_eq
    · exact Nat.succ.inj (paced.length_eq begun)

/-- As long as nobody has closed it, a socket keeps its cadence. -/
theorem keepsCadence_of_run (run : Run settings Punctual log phase queue now)
    (open' : .close ∉ taken (moments log)) :
    KeepsCadence settings log phase queue now where
  follows := fun place instant => (run.paced open').follows
  only := (run.paced open').length_le
  possible := by
    rintro due rfl
    have waited := run.pass due ((run.paced open').timely due rfl)
      fun instant same => (Option.some.inj same).le
    exact .take waited (.other queue rfl) (if_pos le_rfl)
  single := fun before => run.opened_le
  alone := fun before moment after => run.alone open'

/-- An attempt that fails, commands while the socket waits, and a handshake that fails. -/
def failingLog : List Event :=
  [.taken ⟨0, .start, dial.2⟩,
    .taken ⟨1, .connectFailed, [.publish .reconnectWait]⟩,
    .given .acknowledge,
    .taken ⟨1, .command .acknowledge, []⟩,
    .given .acknowledge,
    .taken ⟨4, .command .acknowledge, []⟩,
    .taken ⟨6, .delayOver, dial.2⟩,
    .taken ⟨6, .connected, [.send (.text (listenFrame "tok"))]⟩,
    .taken ⟨8, .sendFailed, [.release, .publish .reconnectWait]⟩,
    .given .acknowledge,
    .taken ⟨13, .delayOver, dial.2⟩]

/-- Each of the two ends is followed by an attempt five milliseconds later. -/
theorem keepsCadence_of_failures :
    Run briskSettings Punctual failingLog .connecting [.acknowledge] 13 ∧
      .close ∉ taken (moments failingLog) ∧
      KeepsCadence briskSettings failingLog .connecting [.acknowledge] 13 ∧
      attempts (moments failingLog) = [0, 6, 13] ∧ ends (moments failingLog) = [1, 8] := by
  have dialled : Run briskSettings Punctual (failingLog.take 1) .connecting [] 0 :=
    .take (.start 0) (.other _ rfl) rfl
  have unreached : Run briskSettings Punctual (failingLog.take 2) (.waiting 6) [] 1 :=
    .take (dialled.pass 1 (by decide) nofun) (.other _ rfl) rfl
  have ignored : Run briskSettings Punctual (failingLog.take 4) (.waiting 6) [] 1 :=
    .take (unreached.give .acknowledge rfl) (.command _ _) rfl
  have late : Run briskSettings Punctual (failingLog.take 6) (.waiting 6) [] 4 :=
    .take ((ignored.give .acknowledge rfl).pass 4 (by decide) (by simp [Punctual, Phase.due?]))
      (.command _ _) rfl
  have redialled : Run briskSettings Punctual (failingLog.take 7) .connecting [] 6 :=
    .take (late.pass 6 (by decide) (by simp [Punctual, Phase.due?])) (.other _ rfl) rfl
  have connected : Run briskSettings Punctual (failingLog.take 8)
      (.greeting [listenRepliesFrame]) [] 6 := .take redialled (.other _ rfl) rfl
  have unsent : Run briskSettings Punctual (failingLog.take 9) (.waiting 13) [] 8 :=
    .take (connected.pass 8 (by decide) nofun) (.other _ rfl) rfl
  have again : Run briskSettings Punctual failingLog .connecting [.acknowledge] 13 :=
    .take ((unsent.give .acknowledge rfl).pass 13 (by decide) (by simp [Punctual, Phase.due?]))
      (.other _ rfl) rfl
  have open' : .close ∉ taken (moments failingLog) := by
    simp [failingLog, moments, taken, Event.moment?, Input.command?]
  exact ⟨again, open', keepsCadence_of_run again open', rfl, rfl⟩

end TokenRelay.Socket
