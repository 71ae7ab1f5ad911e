import TokenRelay.Proofs.Feed.Keepalive
import TokenRelay.Proofs.Feed.Socket

/-!
# Runs of a socket

A run leads from the start through any number of connections.  Commands are given at any
moment and wait in a queue, inputs are taken in any order in which the socket can take them,
and time goes on as far as a clock permits.  Nothing is said about the transport: whatever it
answers to the socket's actions, and whenever, makes one of the runs.

`Transition` lists what a step can do.  Proofs about runs go through that list, and by
`Run.induct` from what one step keeps to what a whole run keeps.
-/

namespace TokenRelay.Socket

/-! ## Transitions -/

/-- Whether an arrival is the last on its connection. -/
def Arrival.isEnd : Arrival → Bool
  | .frame .close => true
  | .failure _ => true
  | .ended => true
  | _ => false

/-- What a step at an instant can do. -/
inductive Transition (settings : SocketSettings) (now : Nat) :
    Phase → Input → Phase → List Action → Prop where
  | started :
      Transition settings now .unstarted .start .connecting [.publish .connecting, .connect]
  | connected :
      Transition settings now .connecting .connected (.greeting [listenRepliesFrame])
        [.send (.text (listenFrame settings.topic))]
  | unreached :
      Transition settings now .connecting .connectFailed
        (.waiting (now + settings.feed.reconnectDelay)) [.publish .reconnectWait]
  | listened (text : String) (rest : List String) :
      Transition settings now (.greeting (text :: rest)) .sent (.greeting rest)
        [.send (.text text)]
  | greeted :
      Transition settings now (.greeting []) .sent .firstPing
        [.publish .connected, .send .ping]
  | pinged :
      Transition settings now .firstPing .sent
        (.live ⟨.idle, .arm now settings.feed.pingTimeout⟩) []
  | unsent {phase : Phase} (sending : phase.isSending = true) :
      Transition settings now phase .sendFailed
        (.waiting (now + settings.feed.reconnectDelay)) [.release, .publish .reconnectWait]
  | acknowledges (keepalive : Keepalive) :
      Transition settings now (.live keepalive) (.command .acknowledge)
        (.acknowledging keepalive) [.send (.text (acknowledgementFrame settings.topic))]
  | closes (keepalive : Keepalive) :
      Transition settings now (.live keepalive) (.command .close) (.terminating .closing)
        [.publish .closing, .terminate]
  | dispatches (keepalive : Keepalive) (text : String) :
      Transition settings now (.live keepalive) (.arrived (.frame (.text text)))
        (.live keepalive) (dispatch text)
  | overlooks (keepalive : Keepalive) :
      Transition settings now (.live keepalive) (.arrived (.frame .ping))
        (.live keepalive) []
  | answered (keepalive : Keepalive) :
      Transition settings now (.live keepalive) (.arrived (.frame .pong))
        (.live ⟨.arm now settings.feed.pingInterval, .idle⟩) []
  | left (keepalive : Keepalive) {arrival : Arrival} (last : arrival.isEnd = true) :
      Transition settings now (.live keepalive) (.arrived arrival)
        (.waiting (now + settings.feed.reconnectDelay)) [.release, .publish .reconnectWait]
  | pings {keepalive : Keepalive} (due : keepalive.ping.isDue now = true) :
      Transition settings now (.live keepalive) .pingDue
        (.pinging ⟨.idle, keepalive.deadline⟩) [.send .ping]
  | overdue {keepalive : Keepalive} (due : keepalive.deadline.isDue now = true) :
      Transition settings now (.live keepalive) .pongOverdue (.terminating .overdue)
        [.terminate]
  | acknowledged (keepalive : Keepalive) :
      Transition settings now (.acknowledging keepalive) .sent (.live keepalive) []
  | pingedAgain (keepalive : Keepalive) :
      Transition settings now (.pinging keepalive) .sent
        (.live ⟨keepalive.ping, .arm now settings.feed.pingTimeout⟩) []
  | givenUp :
      Transition settings now (.terminating .overdue) .terminated
        (.waiting (now + settings.feed.reconnectDelay)) [.release, .publish .reconnectWait]
  | parted :
      Transition settings now (.terminating .closing) .terminated .closed
        [.release, .publish .closed]
  | redials {due : Nat} (late : due ≤ now) :
      Transition settings now (.waiting due) .delayOver .connecting
        [.publish .connecting, .connect]
  | disregards (due : Nat) :
      Transition settings now (.waiting due) (.command .acknowledge) (.waiting due) []
  | quits (due : Nat) :
      Transition settings now (.waiting due) (.command .close) .closed
        [.publish .closing, .publish .closed]

variable {settings : SocketSettings} {now : Nat} {phase next : Phase} {input : Input}
  {actions : List Action}

/-- Each step is one of these transitions. -/
theorem transition_of_step (possible : step settings now phase input = some (next, actions)) :
    Transition settings now phase input next actions := by
  cases phase with
  | unstarted =>
      cases input <;> cases possible
      exact .started
  | connecting =>
      cases input <;> cases possible
      · exact .connected
      · exact .unreached
  | greeting rest =>
      cases rest with
      | nil =>
          cases input <;> cases possible
          · exact .greeted
          · exact .unsent rfl
      | cons text rest =>
          cases input <;> cases possible
          · exact .listened text rest
          · exact .unsent rfl
  | firstPing =>
      cases input <;> cases possible
      · exact .pinged
      · exact .unsent rfl
  | live keepalive =>
      cases input with
      | command command =>
          cases command <;> cases possible
          · exact .acknowledges keepalive
          · exact .closes keepalive
      | arrived arrival =>
          rcases arrival with frame | failure | -
          · cases frame <;> cases possible
            · exact .dispatches keepalive _
            · exact .overlooks keepalive
            · exact .answered keepalive
            · exact .left keepalive rfl
          · cases possible
            exact .left keepalive rfl
          · cases possible
            exact .left keepalive rfl
      | pingDue =>
          simp only [step] at possible
          split_ifs at possible with due
          cases possible
          exact .pings due
      | pongOverdue =>
          simp only [step] at possible
          split_ifs at possible with due
          cases possible
          exact .overdue due
      | _ => cases possible
  | acknowledging keepalive =>
      cases input <;> cases possible
      · exact .acknowledged keepalive
      · exact .unsent rfl
  | pinging keepalive =>
      cases input <;> cases possible
      · exact .pingedAgain keepalive
      · exact .unsent rfl
  | terminating reason =>
      cases reason <;> cases input <;> cases possible
      · exact .givenUp
      · exact .parted
  | waiting due =>
      cases input with
      | command command =>
          cases command <;> cases possible
          · exact .disregards due
          · exact .quits due
      | delayOver =>
          simp only [step] at possible
          split_ifs at possible with late
          cases possible
          exact .redials late
      | _ => cases possible
  | closed => cases possible

/-! ## Runs -/

/-- What happens to a socket: a command is given to it, or it takes an input. -/
inductive Event where
  | given (command : Command)
  | taken (moment : Moment)

namespace Event

def command? : Event → Option Command
  | .given command => some command
  | _ => none

def moment? : Event → Option Moment
  | .taken moment => some moment
  | _ => none

end Event

/-- The command that an input takes. -/
def Input.command? : Input → Option Command
  | .command order => some order
  | _ => none

/-- The commands that were given. -/
def given (log : List Event) : List Command :=
  log.filterMap Event.command?

/-- The moments of a log. -/
def moments (log : List Event) : List Moment :=
  log.filterMap Event.moment?

/-- The commands that were taken. -/
def taken (log : List Moment) : List Command :=
  log.filterMap (·.input.command?)

/-- What was done, in order. -/
def actionsOf (log : List Moment) : List Action :=
  log.flatMap (·.actions)

/-- The inputs that may be taken where commands are queued, and what is left of them. -/
inductive Offers : List Command → Input → List Command → Prop where
  | command (command : Command) (rest : List Command) :
      Offers (command :: rest) (.command command) rest
  | other {input : Input} (queue : List Command) (free : input.command? = none) :
      Offers queue input queue

/--
A run of a socket: what has happened, the phase and the queue of commands that it has led to,
and the present instant.  The clock says how far time may go on in a phase.
-/
inductive Run (settings : SocketSettings) (clock : Phase → Nat → Prop) :
    List Event → Phase → List Command → Nat → Prop where
  | start (now : Nat) : Run settings clock [] .unstarted [] now
  /-- A command is given; it would be refused once the socket is closed. -/
  | give {log : List Event} {phase : Phase} {queue : List Command} {now : Nat}
      (run : Run settings clock log phase queue now) (command : Command)
      (open' : phase.isClosed = false) :
      Run settings clock (log ++ [.given command]) phase (queue ++ [command]) now
  | take {log : List Event} {phase next : Phase} {queue rest : List Command} {now : Nat}
      {input : Input} {actions : List Action} (run : Run settings clock log phase queue now)
      (offers : Offers queue input rest)
      (possible : step settings now phase input = some (next, actions)) :
      Run settings clock (log ++ [.taken ⟨now, input, actions⟩]) next rest now
  | pass {log : List Event} {phase : Phase} {queue : List Command} {now : Nat}
      (run : Run settings clock log phase queue now) (later : Nat) (forward : now ≤ later)
      (permitted : clock phase later) : Run settings clock log phase queue later

/-- The clock that lets time go on as it likes. -/
def AnyTime (_ : Phase) (_ : Nat) : Prop :=
  True

/-- The clock that lets no timer that is due wait. -/
def Punctual (phase : Phase) (later : Nat) : Prop :=
  ∀ due, phase.due? = some due → later ≤ due

section Log

variable (log : List Event) (history : List Moment)

@[simp]
theorem moments_given (command : Command) :
    moments (log ++ [.given command]) = moments log := by
  simp [moments, Event.moment?]

@[simp]
theorem moments_taken (moment : Moment) :
    moments (log ++ [.taken moment]) = moments log ++ [moment] := by
  simp [moments, Event.moment?]

@[simp]
theorem given_given (command : Command) :
    given (log ++ [.given command]) = given log ++ [command] := by
  simp [given, Event.command?]

@[simp]
theorem given_taken (moment : Moment) : given (log ++ [.taken moment]) = given log := by
  simp [given, Event.command?]

theorem taken_concat (moment : Moment) :
    taken (history ++ [moment]) = taken history ++ moment.input.command?.toList := by
  cases shown : moment.input.command? <;> simp [taken, shown]

theorem actionsOf_concat (moment : Moment) :
    actionsOf (history ++ [moment]) = actionsOf history ++ moment.actions := by
  simp [actionsOf]

end Log

namespace Run

variable {clock : Phase → Nat → Prop} {log : List Event} {queue : List Command}

/-- What holds at the start, and what steps and the passing of time keep, holds of every run. -/
theorem induct (holds : List Moment → Phase → Nat → Prop)
    (start : ∀ now, holds [] .unstarted now)
    (step : ∀ {history phase now input next actions}, holds history phase now →
      Socket.step settings now phase input = some (next, actions) →
      holds (history ++ [⟨now, input, actions⟩]) next now)
    (pass : ∀ {history phase now later}, holds history phase now → now ≤ later →
      clock phase later → holds history phase later)
    (run : Run settings clock log phase queue now) : holds (moments log) phase now := by
  induction run with
  | start now => exact start now
  | give run command open' induction => rwa [moments_given]
  | take run offers possible induction =>
      rw [moments_taken]
      exact step induction possible
  | pass run later forward permitted induction => exact pass induction forward permitted

/-- Commands are taken in the order in which they are given, each of them once. -/
theorem taken_append_queue (run : Run settings clock log phase queue now) :
    taken (moments log) ++ queue = given log := by
  induction run with
  | start now => rfl
  | give run command open' induction =>
      rw [moments_given, given_given, ← induction, List.append_assoc]
  | take run offers possible induction =>
      rw [moments_taken, given_taken, taken_concat, ← induction, List.append_assoc]
      congr 1
      cases offers with
      | command command rest => rfl
      | other queue free => simp [free]
  | pass run later forward permitted induction => exact induction

/-- Each moment of a run is a step of the run that its predecessors make up. -/
theorem exists_step (run : Run settings clock log phase queue now)
    {before after : List Moment} {moment : Moment}
    (split : moments log = before ++ moment :: after) :
    ∃ earlier phase next queue, Run settings clock earlier phase queue moment.instant ∧
      moments earlier = before ∧
      Socket.step settings moment.instant phase moment.input =
        some (next, moment.actions) := by
  induction run generalizing after with
  | start now => cases before <;> cases split
  | give run command open' induction =>
      rw [moments_given] at split
      exact induction split
  | take run offers possible induction =>
      rw [moments_taken] at split
      rcases append_cons_eq_concat split with ⟨rfl, rfl⟩ | ⟨rest, earlier⟩
      · exact ⟨_, _, _, _, run, rfl, possible⟩
      · exact induction earlier
  | pass run later forward permitted induction => exact induction split

/-- Each part of what a run has come through is what a run has come through. -/
theorem exists_prefix (run : Run settings clock log phase queue now)
    {before : List Moment} (begins : before <+: moments log) :
    ∃ earlier phase queue now, Run settings clock earlier phase queue now ∧
      moments earlier = before := by
  obtain ⟨rest, split⟩ := begins
  cases rest with
  | nil =>
      rw [List.append_nil] at split
      exact ⟨log, phase, queue, now, run, split.symm⟩
  | cons moment after =>
      obtain ⟨earlier, phase, next, queue, shorter, same, possible⟩ :=
        run.exists_step split.symm
      exact ⟨earlier, phase, queue, moment.instant, shorter, same⟩

end Run

end TokenRelay.Socket
