import Mathlib
import TokenRelay.Feed.Socket

/-!
# The keepalive of a session

A session is what a socket does with one connection.  Its clock is explicit: sending a frame
takes no time, and time goes on only up to the next instant at which a timer is due.

Pings that are sent and pongs that arrive are the signals of a session.  The last of them
says how its timers stand: after a ping the deadline is armed and the next ping is not, and
after a pong it is the other way round.  So a session is overdue exactly when a pong is, and
it never goes on past that instant.
-/

namespace TokenRelay.Socket

/-! ## Sessions under a clock -/

/-- An input that is taken at an instant, and what the socket does on it. -/
structure Moment where
  instant : Nat
  input : Input
  actions : List Action

namespace Phase

/-- Whether a frame is being sent. -/
def isSending : Phase → Bool
  | .greeting _ => true
  | .firstPing => true
  | .acknowledging _ => true
  | .pinging _ => true
  | _ => false

/-- Whether a connection is kept. -/
def isAlive : Phase → Bool
  | .live _ => true
  | phase => phase.isSending

/-- Whether a connection is kept or being terminated. -/
def isInSession : Phase → Bool
  | .terminating _ => true
  | phase => phase.isAlive

/-- That time may go on to an instant: nothing is being sent, and nothing is due before. -/
structure Rests (phase : Phase) (later : Nat) : Prop where
  idle : phase.isSending = false
  timely : ∀ due, phase.due? = some due → later ≤ due

end Phase

/--
A session with a connection that was made at an instant: all its moments, the phase that
they lead to and the present instant.
-/
inductive Session (settings : SocketSettings) (since : Nat) :
    List Moment → Phase → Nat → Prop where
  | connected {phase : Phase} {actions : List Action}
      (possible : step settings since .connecting .connected = some (phase, actions)) :
      Session settings since [⟨since, .connected, actions⟩] phase since
  | step {log : List Moment} {phase next : Phase} {now : Nat} {input : Input}
      {actions : List Action} (session : Session settings since log phase now)
      (going : phase.isInSession = true)
      (possible : step settings now phase input = some (next, actions)) :
      Session settings since (log ++ [⟨now, input, actions⟩]) next now
  | pass {log : List Moment} {phase : Phase} {now : Nat} (later : Nat)
      (session : Session settings since log phase now) (forward : now ≤ later)
      (rests : phase.Rests later) : Session settings since log phase later

variable {settings : SocketSettings} {since now : Nat} {log : List Moment} {phase : Phase}

/-- The moments of a session are in order, and none is still to come. -/
theorem Session.ordered (session : Session settings since log phase now) :
    log.Pairwise (fun earlier later => earlier.instant ≤ later.instant) ∧
      ∀ moment ∈ log, moment.instant ≤ now := by
  induction session with
  | connected => simp
  | step session going possible induction =>
      obtain ⟨sorted, past⟩ := induction
      refine ⟨List.pairwise_append.2 ⟨sorted, List.pairwise_singleton _ _, ?_⟩, ?_⟩
      · intro earlier member later last
        rw [List.mem_singleton.1 last]
        exact past earlier member
      · intro moment member
        rcases List.mem_append.1 member with old | last
        · exact past moment old
        · rw [List.mem_singleton.1 last]
  | pass later session forward rests induction =>
      exact ⟨induction.1, fun moment member => (induction.2 moment member).trans forward⟩

/-! ## Signals -/

/-- What keeps a session alive: pings that are sent, and pongs that arrive. -/
inductive Signal where
  | ping
  | pong
  deriving DecidableEq

/-- Whether an action sends a ping. -/
def Action.isPing : Action → Bool
  | .send .ping => true
  | _ => false

/-- Whether an input is a pong. -/
def Input.isPong : Input → Bool
  | .arrived (.frame .pong) => true
  | _ => false

/-- The signal of a moment. -/
def Moment.signal? (moment : Moment) : Option Signal :=
  if moment.actions.any Action.isPing then some .ping
  else if moment.input.isPong then some .pong
  else none

/-- The last signal, and when it was. -/
def lastSignal (log : List Moment) : Option (Signal × Nat) :=
  (log.filterMap fun moment => moment.signal?.map (·, moment.instant)).getLast?

/-- When the last pong arrived. -/
def lastPong (log : List Moment) : Option Nat :=
  ((log.filter fun moment => moment.signal? = some .pong).map (·.instant)).getLast?

theorem lastSignal_concat (log : List Moment) (moment : Moment) :
    lastSignal (log ++ [moment]) =
      (moment.signal?.map (·, moment.instant)).or (lastSignal log) := by
  unfold lastSignal
  cases signal : moment.signal? <;> simp [signal]

theorem lastPong_concat (log : List Moment) (moment : Moment) :
    lastPong (log ++ [moment]) =
      if moment.signal? = some .pong then some moment.instant else lastPong log := by
  unfold lastPong
  split_ifs with signal <;> simp [signal]

/-- The last signal stands in the log, and no signal after it. -/
theorem exists_of_lastSignal {signal : Signal} {instant : Nat}
    (last : lastSignal log = some (signal, instant)) :
    ∃ before moment after, log = before ++ moment :: after ∧ moment.signal? = some signal ∧
      moment.instant = instant ∧ ∀ later ∈ after, later.signal? = none := by
  induction log using List.reverseRecOn with
  | nil => cases last
  | append_singleton log moment induction =>
      rw [lastSignal_concat] at last
      cases shown : moment.signal? with
      | none =>
          rw [shown] at last
          obtain ⟨before, found, after, rfl, same, there, silent⟩ := induction last
          refine ⟨before, found, after ++ [moment], by simp, same, there, ?_⟩
          intro later member
          rcases List.mem_append.1 member with old | new
          · exact silent later old
          · rwa [List.mem_singleton.1 new]
      | some found =>
          rw [shown] at last
          obtain ⟨rfl, rfl⟩ := by simpa using last
          exact ⟨log, moment, [], rfl, shown, rfl, nofun⟩

/-! ## What a moment can do -/

/-- What a moment can do to the phase of a session. -/
inductive Beat (settings : SocketSettings) : Phase → Moment → Phase → Prop where
  | greets {rest others : List String} {moment : Moment} (silent : moment.signal? = none) :
      Beat settings (.greeting rest) moment (.greeting others)
  | pingsFirst {moment : Moment} (signal : moment.signal? = some .ping) :
      Beat settings (.greeting []) moment .firstPing
  | begins {moment : Moment} (silent : moment.signal? = none) :
      Beat settings .firstPing moment
        (.live ⟨.idle, .arm moment.instant settings.feed.pingTimeout⟩)
  | keeps {keepalive : Keepalive} {phase next : Phase} {moment : Moment}
      (before : phase = .live keepalive ∨ phase = .acknowledging keepalive)
      (after : next = .live keepalive ∨ next = .acknowledging keepalive)
      (silent : moment.signal? = none) : Beat settings phase moment next
  | answered {keepalive : Keepalive} {moment : Moment}
      (signal : moment.signal? = some .pong) :
      Beat settings (.live keepalive) moment
        (.live ⟨.arm moment.instant settings.feed.pingInterval, .idle⟩)
  | pings {keepalive : Keepalive} {moment : Moment}
      (due : keepalive.ping.isDue moment.instant = true)
      (signal : moment.signal? = some .ping) :
      Beat settings (.live keepalive) moment (.pinging ⟨.idle, keepalive.deadline⟩)
  | pinged {keepalive : Keepalive} {moment : Moment} (silent : moment.signal? = none) :
      Beat settings (.pinging keepalive) moment
        (.live ⟨keepalive.ping, .arm moment.instant settings.feed.pingTimeout⟩)
  | ends {phase next : Phase} {moment : Moment} (gone : next.isAlive = false) :
      Beat settings phase moment next

section Step

variable {input : Input} {actions : List Action} {next : Phase}

theorem signal?_eq_none (quiet : actions.any Action.isPing = false)
    (noPong : input.isPong = false) : (Moment.mk now input actions).signal? = none := by
  simp [Moment.signal?, quiet, noPong]

theorem signal?_dispatch (text : String) :
    (Moment.mk now (.arrived (.frame (.text text))) (dispatch text)).signal? = none := by
  apply signal?_eq_none
  · unfold dispatch
    split <;> rfl
  · rfl

/-- Each step of a session is one of these. -/
theorem beat_of_step (going : phase.isInSession = true)
    (possible : step settings now phase input = some (next, actions)) :
    Beat settings phase ⟨now, input, actions⟩ next := by
  cases phase with
  | unstarted => cases going
  | connecting => cases going
  | greeting rest =>
      cases rest with
      | nil =>
          cases input <;> cases possible
          · exact .pingsFirst rfl
          · exact .ends rfl
      | cons text rest =>
          cases input <;> cases possible
          · exact .greets rfl
          · exact .ends rfl
  | firstPing =>
      cases input <;> cases possible
      · exact .begins rfl
      · exact .ends rfl
  | live keepalive =>
      cases input with
      | command command =>
          cases command <;> cases possible
          · exact .keeps (.inl rfl) (.inr rfl) rfl
          · exact .ends rfl
      | arrived arrival =>
          rcases arrival with frame | failure | -
          · cases frame <;> cases possible
            · exact .keeps (.inl rfl) (.inl rfl) (signal?_dispatch _)
            · exact .keeps (.inl rfl) (.inl rfl) rfl
            · exact .answered rfl
            · exact .ends rfl
          · cases possible
            exact .ends rfl
          · cases possible
            exact .ends rfl
      | pingDue =>
          simp only [step] at possible
          split_ifs at possible with due
          cases possible
          exact .pings due rfl
      | pongOverdue =>
          simp only [step] at possible
          split_ifs at possible
          cases possible
          exact .ends rfl
      | _ => cases possible
  | acknowledging keepalive =>
      cases input <;> cases possible
      · exact .keeps (.inr rfl) (.inl rfl) rfl
      · exact .ends rfl
  | pinging keepalive =>
      cases input <;> cases possible
      · exact .pinged rfl
      · exact .ends rfl
  | terminating reason =>
      cases reason <;> cases input <;> cases possible
      · exact .ends rfl
      · exact .ends rfl
  | waiting due => cases going
  | closed => cases going

/-- Only a live session whose deadline is due takes note that a pong is overdue. -/
theorem isDue_of_pongOverdue
    (possible : step settings now phase .pongOverdue = some (next, actions)) :
    ∃ keepalive, phase = .live keepalive ∧ keepalive.deadline.isDue now = true := by
  cases phase with
  | live keepalive =>
      simp only [step] at possible
      split_ifs at possible with due
      exact ⟨keepalive, rfl, due⟩
  | greeting rest => cases rest <;> cases possible
  | terminating reason => cases reason <;> cases possible
  | _ => cases possible

end Step

/-! ## What the timers say -/

/-- How the timers of a session stand by its last signal. -/
inductive Standing (settings : SocketSettings) (log : List Moment) (now : Nat) :
    Keepalive → Prop where
  | awaiting {ping : Nat} (last : lastSignal log = some (.ping, ping))
      (early : now ≤ ping + settings.feed.pingTimeout)
      (paced : ∀ pong, lastPong log = some pong → ping = pong + settings.feed.pingInterval) :
      Standing settings log now ⟨.idle, .arm ping settings.feed.pingTimeout⟩
  | answered {pong : Nat} (last : lastSignal log = some (.pong, pong))
      (same : lastPong log = some pong)
      (early : now ≤ pong + settings.feed.pingInterval) :
      Standing settings log now ⟨.arm pong settings.feed.pingInterval, .idle⟩

/-- What is known of a session in a phase. -/
inductive Account (settings : SocketSettings) (log : List Moment) (now : Nat) :
    Phase → Prop where
  | greeting (rest : List String) (unsigned : lastSignal log = none)
      (silent : lastPong log = none) : Account settings log now (.greeting rest)
  | firstPing (last : lastSignal log = some (.ping, now)) (silent : lastPong log = none) :
      Account settings log now .firstPing
  | live {keepalive : Keepalive} (standing : Standing settings log now keepalive) :
      Account settings log now (.live keepalive)
  | acknowledging {keepalive : Keepalive} (standing : Standing settings log now keepalive) :
      Account settings log now (.acknowledging keepalive)
  | pinging {pong : Nat} (last : lastSignal log = some (.ping, now))
      (same : lastPong log = some pong) (paced : now = pong + settings.feed.pingInterval) :
      Account settings log now (.pinging ⟨.idle, .idle⟩)
  | gone {phase : Phase} (gone : phase.isAlive = false) : Account settings log now phase

@[simp]
theorem isDue_idle (instant : Nat) : Timer.idle.isDue instant = false :=
  rfl

@[simp]
theorem isDue_arm (instant armed after : Nat) :
    (Timer.arm armed after).isDue instant = true ↔ armed + after ≤ instant := by
  simp [Timer.isDue, Timer.arm]

theorem Standing.append {keepalive : Keepalive} {moment : Moment}
    (standing : Standing settings log now keepalive) (silent : moment.signal? = none) :
    Standing settings (log ++ [moment]) now keepalive := by
  have sameSignal : lastSignal (log ++ [moment]) = lastSignal log := by
    rw [lastSignal_concat, silent]
    rfl
  have samePong : lastPong (log ++ [moment]) = lastPong log := by
    rw [lastPong_concat, silent]
    rfl
  cases standing with
  | awaiting last early paced =>
      exact .awaiting (sameSignal.trans last) early (samePong ▸ paced)
  | answered last same early =>
      exact .answered (sameSignal.trans last) (samePong.trans same) early

/-- Where time may go on to, a session's timers leave it room for. -/
theorem Standing.pass {keepalive : Keepalive} {later : Nat}
    (standing : Standing settings log now keepalive)
    (rests : Phase.Rests (.live keepalive) later) :
    Standing settings log later keepalive := by
  cases standing with
  | awaiting last early paced => exact .awaiting last (rests.timely _ rfl) paced
  | answered last same early => exact .answered last same (rests.timely _ rfl)

/-- Between the frames that it sends a session's timers are both at hand. -/
theorem Account.standing {keepalive : Keepalive} (account : Account settings log now phase)
    (kept : phase = .live keepalive ∨ phase = .acknowledging keepalive) :
    Standing settings log now keepalive := by
  rcases kept with rfl | rfl
  · cases account with
    | live standing => exact standing
    | gone gone => cases gone
  · cases account with
    | acknowledging standing => exact standing
    | gone gone => cases gone

theorem Account.step {next : Phase} {moment : Moment}
    (account : Account settings log now phase) (present : moment.instant = now)
    (beat : Beat settings phase moment next) :
    Account settings (log ++ [moment]) now next := by
  subst present
  have signals := lastSignal_concat log moment
  have pongs := lastPong_concat log moment
  cases beat with
  | greets silent =>
      cases account with
      | greeting _ unsigned none =>
          rw [silent] at signals pongs
          exact .greeting _ (signals.trans unsigned) (pongs.trans none)
      | gone gone => cases gone
  | pingsFirst signal =>
      rw [signal] at signals pongs
      cases account with
      | greeting _ unsigned none => exact .firstPing signals (pongs.trans none)
      | gone gone => cases gone
  | begins silent =>
      rw [silent] at signals pongs
      cases account with
      | firstPing last none =>
          refine .live (.awaiting (signals.trans last) (Nat.le_add_right _ _) ?_)
          intro pong found
          rw [pongs.trans none] at found
          cases found
      | gone gone => cases gone
  | @keeps keepalive _ _ _ before after silent =>
      have standing := (account.standing before).append silent
      rcases after with rfl | rfl
      · exact .live standing
      · exact .acknowledging standing
  | answered signal =>
      rw [signal] at signals pongs
      exact .live (.answered signals (pongs.trans (if_pos rfl)) (Nat.le_add_right _ _))
  | pings due signal =>
      rw [signal] at signals pongs
      cases account with
      | live standing =>
          cases standing with
          | awaiting last early paced => cases due
          | answered last same early =>
              rw [isDue_arm] at due
              exact .pinging signals (pongs.trans same) (Nat.le_antisymm early due)
      | gone gone => cases gone
  | pinged silent =>
      rw [silent] at signals pongs
      cases account with
      | pinging last same paced =>
          refine .live (.awaiting (signals.trans last) (Nat.le_add_right _ _) ?_)
          intro pong found
          obtain rfl := Option.some.inj ((pongs.trans same).symm.trans found)
          exact paced
      | gone gone => cases gone
  | ends gone => exact .gone gone

theorem Account.pass {later : Nat} (account : Account settings log now phase)
    (rests : phase.Rests later) : Account settings log later phase := by
  cases account with
  | greeting rest unsigned silent => cases rests.idle
  | firstPing last silent => cases rests.idle
  | live standing => exact .live (standing.pass rests)
  | acknowledging standing => cases rests.idle
  | pinging last same paced => cases rests.idle
  | gone gone => exact .gone gone

theorem Session.account (session : Session settings since log phase now) :
    Account settings log now phase := by
  induction session with
  | connected possible =>
      cases possible
      exact .greeting _ rfl rfl
  | step session going possible induction =>
      exact induction.step rfl (beat_of_step going possible)
  | pass later session forward rests induction => exact induction.pass rests

/-! ## How long a session lasts -/

theorem Standing.timers {keepalive : Keepalive}
    (standing : Standing settings log now keepalive) :
    keepalive.deadline.isArmed = !keepalive.ping.isArmed ∧
      ((∃ ping, lastSignal log = some (.ping, ping) ∧
          keepalive = ⟨.idle, .arm ping settings.feed.pingTimeout⟩) ∨
        ∃ pong, lastSignal log = some (.pong, pong) ∧
          keepalive = ⟨.arm pong settings.feed.pingInterval, .idle⟩) := by
  cases standing with
  | awaiting last early paced => exact ⟨rfl, .inl ⟨_, last, rfl⟩⟩
  | answered last same early => exact ⟨rfl, .inr ⟨_, last, rfl⟩⟩

theorem Standing.step_pongOverdue {keepalive : Keepalive} {ping : Nat}
    (standing : Standing settings log now keepalive)
    (last : lastSignal log = some (.ping, ping))
    (due : now = ping + settings.feed.pingTimeout) :
    step settings now (.live keepalive) .pongOverdue =
      some (.terminating .overdue, [.terminate]) := by
  cases standing with
  | awaiting known early paced =>
      obtain ⟨-, rfl⟩ := by simpa using known.symm.trans last
      exact if_pos ((isDue_arm _ _ _).2 due.ge)
  | answered known same early => cases known.symm.trans last

theorem Standing.le_of_ping {keepalive : Keepalive} {ping : Nat}
    (standing : Standing settings log now keepalive)
    (last : lastSignal log = some (.ping, ping)) :
    now ≤ ping + settings.feed.pingTimeout := by
  cases standing with
  | awaiting known early paced =>
      obtain ⟨-, rfl⟩ := by simpa using known.symm.trans last
      exact early
  | answered known same early => cases known.symm.trans last

theorem Standing.le_of_pong {keepalive : Keepalive} {pong : Nat}
    (standing : Standing settings log now keepalive) (last : lastPong log = some pong) :
    now ≤ pong + settings.feed.pingInterval + settings.feed.pingTimeout := by
  cases standing with
  | awaiting known early paced => rwa [paced pong last] at early
  | answered known same early =>
      obtain rfl := Option.some.inj (same.symm.trans last)
      exact Nat.le_add_right_of_le early

/-- A kept connection has not waited longer than it may for a pong to its last ping. -/
theorem Account.le_of_ping {ping : Nat} (account : Account settings log now phase)
    (alive : phase.isAlive = true) (last : lastSignal log = some (.ping, ping)) :
    now ≤ ping + settings.feed.pingTimeout := by
  cases account with
  | greeting rest unsigned silent => cases unsigned.symm.trans last
  | firstPing known silent =>
      obtain ⟨-, rfl⟩ := by simpa using known.symm.trans last
      exact Nat.le_add_right _ _
  | live standing => exact standing.le_of_ping last
  | acknowledging standing => exact standing.le_of_ping last
  | pinging known same paced =>
      obtain ⟨-, rfl⟩ := by simpa using known.symm.trans last
      exact Nat.le_add_right _ _
  | gone gone => cases gone.symm.trans alive

/-- A kept connection has not gone longer without a pong than an interval and a timeout. -/
theorem Account.le_of_pong {pong : Nat} (account : Account settings log now phase)
    (alive : phase.isAlive = true) (last : lastPong log = some pong) :
    now ≤ pong + settings.feed.pingInterval + settings.feed.pingTimeout := by
  cases account with
  | greeting rest unsigned silent => cases silent.symm.trans last
  | firstPing known silent => cases silent.symm.trans last
  | live standing => exact standing.le_of_pong last
  | acknowledging standing => exact standing.le_of_pong last
  | pinging known same paced =>
      obtain rfl := Option.some.inj (same.symm.trans last)
      exact Nat.le_add_right_of_le paced.le
  | gone gone => cases gone.symm.trans alive

/-! ## When a pong is overdue -/

/-- That a peer answers each ping before the time for it is over. -/
def AnswersInTime (settings : SocketSettings) (log : List Moment) (now : Nat) : Prop :=
  ∀ before ping after, log = before ++ ping :: after → ping.signal? = some .ping →
    (∃ pong ∈ after, pong.signal? = some .pong ∧
        pong.instant < ping.instant + settings.feed.pingTimeout) ∨
      now < ping.instant + settings.feed.pingTimeout

theorem append_cons_eq_concat {before after : List Moment} {moment last : Moment}
    (split : log ++ [last] = before ++ moment :: after) :
    (before = log ∧ moment = last) ∨ ∃ rest, log = before ++ moment :: rest := by
  rcases List.eq_nil_or_concat after with rfl | ⟨rest, latest, rfl⟩
  · obtain ⟨same, equal⟩ := List.append_inj' split rfl
    exact .inl ⟨same.symm, (List.cons.inj equal).1.symm⟩
  · rw [List.concat_eq_append, ← List.cons_append, ← List.append_assoc] at split
    exact .inr ⟨rest, (List.append_inj' split rfl).1⟩

/-- Each moment but the first is a step of the session that its predecessors make up. -/
theorem Session.exists_step (session : Session settings since log phase now)
    {before after : List Moment} {moment : Moment} (split : log = before ++ moment :: after)
    (other : moment.input ≠ .connected) :
    ∃ phase next, Session settings since before phase moment.instant ∧
      phase.isInSession = true ∧
      Socket.step settings moment.instant phase moment.input =
        some (next, moment.actions) := by
  induction session generalizing after with
  | connected possible =>
      rcases append_cons_eq_concat ((List.nil_append _).trans split) with
        ⟨-, rfl⟩ | ⟨rest, earlier⟩
      · exact absurd rfl other
      · cases before <;> cases earlier
  | step session going possible induction =>
      rcases append_cons_eq_concat split with ⟨rfl, rfl⟩ | ⟨rest, earlier⟩
      · exact ⟨_, _, session, going, possible⟩
      · exact induction earlier
  | pass later session forward rests induction => exact induction split

/-- A session is given up as overdue just when the time for a pong to its last ping is over. -/
theorem Session.overdue (session : Session settings since log phase now)
    {before after : List Moment} {moment : Moment} (split : log = before ++ moment :: after)
    (overdue : moment.input = .pongOverdue) :
    ∃ ping, lastSignal before = some (.ping, ping) ∧
      moment.instant = ping + settings.feed.pingTimeout := by
  obtain ⟨earlier, next, history, -, possible⟩ :=
    session.exists_step split (overdue ▸ nofun)
  rw [overdue] at possible
  obtain ⟨keepalive, rfl, due⟩ := isDue_of_pongOverdue possible
  cases history.account with
  | live standing =>
      cases standing with
      | awaiting last early paced =>
          rw [isDue_arm] at due
          exact ⟨_, last, Nat.le_antisymm early due⟩
      | answered last same early => cases due
  | gone gone => cases gone

/-- A peer that answers in time is never overdue. -/
theorem Session.ne_pongOverdue (session : Session settings since log phase now)
    (answers : AnswersInTime settings log now) {moment : Moment} (member : moment ∈ log) :
    moment.input ≠ .pongOverdue := by
  intro overdue
  obtain ⟨before, after, split⟩ := List.append_of_mem member
  obtain ⟨ping, last, instant⟩ := session.overdue split overdue
  obtain ⟨first, sent, between, rfl, signal, rfl, silent⟩ := exists_of_lastSignal last
  obtain ⟨sorted, past⟩ := session.ordered
  have regrouped : log = first ++ sent :: (between ++ moment :: after) := by
    rw [split, List.append_assoc, List.cons_append]
  rcases answers _ _ _ regrouped signal with ⟨pong, answer, pongs, early⟩ | early
  · rcases List.mem_append.1 answer with quiet | rest
    · rw [silent pong quiet] at pongs
      cases pongs
    · have late : moment.instant ≤ pong.instant := by
        rcases List.mem_cons.1 rest with rfl | later
        · exact le_rfl
        · rw [split] at sorted
          exact List.rel_of_pairwise_cons (List.pairwise_append.1 sorted).2.1 later
      omega
  · have reached := past moment member
    omega

/-- What the keepalive guarantees at a point of a session. -/
structure KeptInTime (settings : SocketSettings) (log : List Moment) (phase : Phase)
    (now : Nat) : Prop where
  /-- One timer is armed: the deadline since the last ping, or the next ping since a pong. -/
  timers : ∀ keepalive, phase = .live keepalive ∨ phase = .acknowledging keepalive →
    keepalive.deadline.isArmed = !keepalive.ping.isArmed ∧
      ((∃ ping, lastSignal log = some (.ping, ping) ∧
          keepalive = ⟨.idle, .arm ping settings.feed.pingTimeout⟩) ∨
        ∃ pong, lastSignal log = some (.pong, pong) ∧
          keepalive = ⟨.arm pong settings.feed.pingInterval, .idle⟩)
  /-- A session is given up as overdue when the time for a pong to its last ping is over. -/
  overdue : ∀ before moment after, log = before ++ moment :: after →
    moment.input = .pongOverdue →
      ∃ ping, lastSignal before = some (.ping, ping) ∧
        moment.instant = ping + settings.feed.pingTimeout
  /-- It can be given up then. -/
  ends : ∀ keepalive ping, phase = .live keepalive →
    lastSignal log = some (.ping, ping) → now = ping + settings.feed.pingTimeout →
      Socket.step settings now phase .pongOverdue =
        some (.terminating .overdue, [.terminate])
  /-- No connection is kept past that instant. -/
  kept : ∀ ping, phase.isAlive = true → lastSignal log = some (.ping, ping) →
    now ≤ ping + settings.feed.pingTimeout
  /-- A peer that answers in time is never given up as overdue. -/
  answered : AnswersInTime settings log now → ∀ moment ∈ log, moment.input ≠ .pongOverdue
  /-- No connection is kept long after its last pong. -/
  bounded : ∀ pong, phase.isAlive = true → lastPong log = some pong →
    now ≤ pong + settings.feed.pingInterval + settings.feed.pingTimeout

/-- Every session is kept in time. -/
theorem keptInTime_of_session (session : Session settings since log phase now) :
    KeptInTime settings log phase now where
  timers := fun keepalive kept => (session.account.standing kept).timers
  overdue := fun before moment after split overdue => session.overdue split overdue
  ends := fun keepalive ping live last due => by
    subst live
    exact (session.account.standing (.inl rfl)).step_pongOverdue last due
  kept := fun ping alive last => session.account.le_of_ping alive last
  answered := fun answers moment member => session.ne_pongOverdue answers member
  bounded := fun pong alive last => session.account.le_of_pong alive last

/-- Settings with a ping every ten milliseconds and sixty for the pong to it. -/
def briskSettings : SocketSettings :=
  ⟨"tok", ⟨5, 10, 60⟩⟩

/-- A session whose peer answers the first ping twice and then falls silent. -/
def silentLog : List Moment :=
  [⟨0, .connected, [.send (.text (listenFrame "tok"))]⟩,
    ⟨0, .sent, [.send (.text listenRepliesFrame)]⟩,
    ⟨0, .sent, [.publish .connected, .send .ping]⟩,
    ⟨0, .sent, []⟩,
    ⟨2, .arrived (.frame .pong), []⟩,
    ⟨3, .arrived (.frame .pong), []⟩,
    ⟨13, .pingDue, [.send .ping]⟩,
    ⟨13, .sent, []⟩,
    ⟨20, .arrived (.frame .ping), []⟩,
    ⟨73, .pongOverdue, [.terminate]⟩]

/-- It is given up sixty milliseconds after the ping that its last pong made due. -/
theorem keptInTime_of_silent_peer :
    Session briskSettings 0 silentLog (.terminating .overdue) 73 ∧
      KeptInTime briskSettings silentLog (.terminating .overdue) 73 ∧
      lastSignal silentLog = some (.ping, 13) ∧ lastPong silentLog = some 3 := by
  have connected : Session briskSettings 0 (silentLog.take 1)
      (.greeting [listenRepliesFrame]) 0 := .connected rfl
  have listening : Session briskSettings 0 (silentLog.take 2) (.greeting []) 0 :=
    connected.step rfl rfl
  have greeted : Session briskSettings 0 (silentLog.take 3) .firstPing 0 :=
    listening.step rfl rfl
  have pinged : Session briskSettings 0 (silentLog.take 4) (.live ⟨.idle, .arm 0 60⟩) 0 :=
    greeted.step rfl rfl
  have answered : Session briskSettings 0 (silentLog.take 5) (.live ⟨.arm 2 10, .idle⟩) 2 :=
    (pinged.pass 2 (by decide) ⟨rfl, by decide⟩).step rfl rfl
  have again : Session briskSettings 0 (silentLog.take 6) (.live ⟨.arm 3 10, .idle⟩) 3 :=
    (answered.pass 3 (by decide) ⟨rfl, by decide⟩).step rfl rfl
  have pinging : Session briskSettings 0 (silentLog.take 7) (.pinging ⟨.idle, .idle⟩) 13 :=
    (again.pass 13 (by decide) ⟨rfl, by decide⟩).step rfl rfl
  have awaiting : Session briskSettings 0 (silentLog.take 8)
      (.live ⟨.idle, .arm 13 60⟩) 13 := pinging.step rfl rfl
  have silent : Session briskSettings 0 (silentLog.take 9)
      (.live ⟨.idle, .arm 13 60⟩) 20 :=
    (awaiting.pass 20 (by decide) ⟨rfl, by decide⟩).step rfl rfl
  have overdue : Session briskSettings 0 silentLog (.terminating .overdue) 73 :=
    (silent.pass 73 (by decide) ⟨rfl, by decide⟩).step rfl rfl
  exact ⟨overdue, keptInTime_of_session overdue, rfl, rfl⟩

end TokenRelay.Socket
