import TokenRelay.Proofs.Feed.Cadence

/-!
# Attempts after a close

A command to close, which is also what letting go of the socket gives, waits in the queue until
the socket reads it, and no attempt to connect is made once it was read.  The socket reads its
queue in a session and while it waits for the next attempt, and there the command is in a race
with all else that is ready.  In a session none of its rivals is an attempt; in the wait the
end of the delay is one.

So an unread close holds off the attempts of a socket that takes what is ready before time goes
on (`Continues`) unless the delay is zero or ends at this very instant.  In the second case one
attempt may still be made, which is ready already (`Continues.attempts_append_ready`); in the
first any number of them (`Continues.redialling`).
-/

namespace TokenRelay.Socket

/-! ## What may follow -/

/-- Whether the socket reads its queue in a phase. -/
def Phase.isReading : Phase → Bool
  | .live _ => true
  | .waiting _ => true
  | _ => false

/-- The instants of the attempts that can be made at an instant. -/
def Phase.ready (now : Nat) : Phase → List Nat
  | .waiting due => if due ≤ now then [now] else []
  | _ => []

/--
What may happen to a socket from a phase, a queue and an instant on.  It takes what is ready in
any order, but time goes on only when no timer is due and no command can be read.
-/
inductive Continues (settings : SocketSettings) (phase : Phase) (queue : List Command)
    (now : Nat) : List Event → Phase → List Command → Nat → Prop where
  | stay : Continues settings phase queue now [] phase queue now
  | give {later : List Event} {reached : Phase} {rest : List Command} {instant : Nat}
      (on : Continues settings phase queue now later reached rest instant)
      (command : Command) (open' : reached.isClosed = false) :
      Continues settings phase queue now (later ++ [.given command]) reached
        (rest ++ [command]) instant
  | take {later : List Event} {reached next : Phase} {rest fewer : List Command}
      {instant : Nat} {input : Input} {actions : List Action}
      (on : Continues settings phase queue now later reached rest instant)
      (offers : Offers rest input fewer)
      (possible : step settings instant reached input = some (next, actions)) :
      Continues settings phase queue now (later ++ [.taken ⟨instant, input, actions⟩]) next
        fewer instant
  | pass {later : List Event} {reached : Phase} {rest : List Command} {instant : Nat}
      (on : Continues settings phase queue now later reached rest instant) (until' : Nat)
      (forward : instant ≤ until') (idle : reached.isReading = true → rest = [])
      (punctual : Punctual reached until') :
      Continues settings phase queue now later reached rest until'

variable {settings : SocketSettings} {clock : Phase → Nat → Prop} {log later : List Event}
  {phase next reached : Phase} {queue rest : List Command} {input : Input}
  {actions : List Action} {now instant : Nat}

/-- What follows on a run makes a longer run. -/
theorem Run.extend (run : Run settings AnyTime log phase queue now)
    (on : Continues settings phase queue now later reached rest instant) :
    Run settings AnyTime (log ++ later) reached rest instant := by
  induction on with
  | stay =>
      rw [List.append_nil]
      exact run
  | give on command open' induction =>
      rw [← List.append_assoc]
      exact induction.give command open'
  | take on offers possible induction =>
      rw [← List.append_assoc]
      exact induction.take offers possible
  | pass on until' forward idle punctual induction =>
      exact induction.pass until' forward trivial

/-! ## A close that was given -/

namespace Transition

/-- A socket becomes parting by reading a close. -/
theorem parting_iff (does : Transition settings now phase input next actions) :
    next.isParting = true ↔ phase.isParting = true ∨ input.command? = some .close := by
  cases does with
  | unsent sending =>
      cases phase with
      | greeting rest => simp [Phase.isParting, Input.command?]
      | firstPing => simp [Phase.isParting, Input.command?]
      | acknowledging keepalive => simp [Phase.isParting, Input.command?]
      | pinging keepalive => simp [Phase.isParting, Input.command?]
      | _ => cases sending
  | _ => simp [Phase.isParting, Input.command?]

/-- No step leads back to the start. -/
theorem begun (does : Transition settings now phase input next actions) :
    next.shown ≠ .disconnected := by
  cases does with
  | _ => simp [Phase.shown]

end Transition

/-- The socket is parting exactly when it has read a close. -/
theorem Run.parting_iff (run : Run settings clock log phase queue now) :
    phase.isParting = true ↔ .close ∈ taken (moments log) := by
  apply run.induct fun history phase _ => phase.isParting = true ↔ .close ∈ taken history
  · intro now
    simp [Phase.isParting, taken]
  · intro history phase now input next actions induction possible
    rw [taken_concat, List.mem_append, ← induction, Option.mem_toList]
    exact (transition_of_step possible).parting_iff
  · intro history phase now later induction forward permitted
    exact induction

/-- A close that was given and not read waits in the queue. -/
theorem Run.close_mem_queue (run : Run settings clock log phase queue now)
    (called : .close ∈ given log) (open' : phase.isParting = false) : .close ∈ queue := by
  rw [← run.taken_append_queue, List.mem_append] at called
  rcases called with read | waits
  · rw [run.parting_iff.2 read] at open'
    cases open'
  · exact waits

/-- The next attempt is due at most the delay from now. -/
theorem Run.due_le (run : Run settings clock log phase queue now) (due : Nat)
    (waits : phase.redial? = some due) : due ≤ now + settings.feed.reconnectDelay := by
  revert due
  apply run.induct fun _ phase now =>
    ∀ due, phase.redial? = some due → due ≤ now + settings.feed.reconnectDelay
  · nofun
  · intro history phase now input next actions induction possible due waits
    cases transition_of_step possible with
    | disregards instant => exact induction due waits
    | unreached => exact (Option.some.inj waits).ge
    | unsent sending => exact (Option.some.inj waits).ge
    | left keepalive last => exact (Option.some.inj waits).ge
    | givenUp => exact (Option.some.inj waits).ge
    | _ => cases waits
  · intro history phase now later induction forward permitted due waits
    exact (induction due waits).trans (Nat.add_le_add_right forward _)

/-- A parting socket makes no attempt. -/
theorem Transition.silent_of_parting
    (does : Transition settings now phase input next actions)
    (parting : phase.isParting = true) : actions.any Action.isAttempt = false := by
  rw [List.any_eq_false]
  intro action member
  have farewell := (does.parts parting).2 action member
  cases action with
  | connect => cases farewell
  | _ => nofun

/-- Once the close was read no attempt is made. -/
theorem Continues.parted (parting : phase.isParting = true)
    (on : Continues settings phase queue now later reached rest instant) :
    reached.isParting = true ∧ attempts (moments later) = [] := by
  induction on with
  | stay => exact ⟨parting, rfl⟩
  | give on command open' induction => rwa [moments_given]
  | take on offers possible induction =>
      have does := transition_of_step possible
      refine ⟨(does.parts induction.1).1, ?_⟩
      rw [moments_taken]
      exact (instants_of_other _ (does.silent_of_parting induction.1)).trans induction.2
  | pass on until' forward idle punctual induction => exact induction

/-! ## A delay that is not zero -/

theorem Phase.ready_of_later {due : Nat} (early : now < due) :
    (Phase.waiting due).ready now = [] :=
  if_neg (Nat.not_le_of_lt early)

/-- A step makes no attempt but the one that is ready, and makes none ready. -/
theorem Transition.attempts_append_ready
    (does : Transition settings now phase input next actions)
    (begun : phase.shown ≠ .disconnected) (delayed : settings.feed.reconnectDelay ≠ 0) :
    attempts [⟨now, input, actions⟩] ++ next.ready now <+: phase.ready now := by
  have early : now < now + settings.feed.reconnectDelay :=
    Nat.lt_add_of_pos_right (Nat.pos_of_ne_zero delayed)
  have quiet (silent : actions.any Action.isAttempt = false) (idle : next.ready now = []) :
      attempts [⟨now, input, actions⟩] ++ next.ready now <+: phase.ready now := by
    rw [idle, show attempts [⟨now, input, actions⟩] = [] from instants_of_other [] silent]
    exact List.nil_prefix
  cases does with
  | started => exact absurd rfl begun
  | redials late =>
      rw [Phase.ready, if_pos late]
      exact List.prefix_rfl
  | disregards due => exact List.prefix_rfl
  | dispatches keepalive text => exact quiet (not_isAttempt_dispatch text) rfl
  | unreached => exact quiet rfl (Phase.ready_of_later early)
  | unsent sending => exact quiet rfl (Phase.ready_of_later early)
  | left keepalive last => exact quiet rfl (Phase.ready_of_later early)
  | givenUp => exact quiet rfl (Phase.ready_of_later early)
  | _ => exact quiet rfl rfl

/-- While a close is unread no attempt becomes ready by the passing of time. -/
theorem ready_of_idle (called : phase.isParting = false → .close ∈ queue)
    (idle : phase.isReading = true → queue = []) : phase.ready now = [] := by
  cases phase with
  | waiting due =>
      have waits := called rfl
      rw [idle rfl] at waits
      cases waits
  | _ => rfl

/--
After a close, what was attempted and what is ready was ready when the close was called, if the
delay is not zero.
-/
theorem Continues.attempts_append_ready (run : Run settings AnyTime log phase queue now)
    (called : .close ∈ given log) (begun : phase.shown ≠ .disconnected)
    (delayed : settings.feed.reconnectDelay ≠ 0)
    (on : Continues settings phase queue now later reached rest instant) :
    reached.shown ≠ .disconnected ∧
      attempts (moments later) ++ reached.ready instant <+: phase.ready now := by
  induction on with
  | stay => exact ⟨begun, List.prefix_rfl⟩
  | give on command open' induction => rwa [moments_given]
  | take on offers possible induction =>
      have does := transition_of_step possible
      refine ⟨does.begun, ?_⟩
      rw [moments_taken, attempts, instants, List.filter_append, List.map_append,
        List.append_assoc]
      exact ((List.prefix_append_right_inj _).2
        (does.attempts_append_ready induction.1 delayed)).trans induction.2
  | @pass later reached rest instant on until' forward idle punctual induction =>
      refine ⟨induction.1, ?_⟩
      have given' : .close ∈ given (log ++ later) := by
        rw [given, List.filterMap_append]
        exact List.mem_append_left _ called
      have still : reached.isParting = false → .close ∈ rest :=
        (run.extend on).close_mem_queue given'
      rw [ready_of_idle still idle, List.append_nil]
      exact (List.prefix_append _ _).trans induction.2

/-! ## A delay of zero -/

/-- A socket that is not parting can always come to wait for its next attempt at once. -/
theorem exists_waiting (now : Nat) (open' : phase.isParting = false)
    (begun : phase.shown ≠ .disconnected) :
    (∃ due, phase = .waiting due) ∨
      ∃ input actions, input.command? = none ∧ actions.any Action.isAttempt = false ∧
        step settings now phase input =
          some (.waiting (now + settings.feed.reconnectDelay), actions) := by
  cases phase with
  | unstarted => exact absurd rfl begun
  | connecting => exact .inr ⟨.connectFailed, _, rfl, rfl, rfl⟩
  | greeting texts =>
      cases texts with
      | nil => exact .inr ⟨.sendFailed, _, rfl, rfl, rfl⟩
      | cons text texts => exact .inr ⟨.sendFailed, _, rfl, rfl, rfl⟩
  | firstPing => exact .inr ⟨.sendFailed, _, rfl, rfl, rfl⟩
  | live keepalive => exact .inr ⟨.arrived .ended, _, rfl, rfl, rfl⟩
  | acknowledging keepalive => exact .inr ⟨.sendFailed, _, rfl, rfl, rfl⟩
  | pinging keepalive => exact .inr ⟨.sendFailed, _, rfl, rfl, rfl⟩
  | terminating reason =>
      cases reason with
      | overdue => exact .inr ⟨.terminated, _, rfl, rfl, rfl⟩
      | closing => cases open'
  | waiting due => exact .inl ⟨due, rfl⟩
  | closed => cases open'

/-- Without a delay a socket that is not parting can come to where an attempt is ready. -/
theorem Run.exists_ready (run : Run settings AnyTime log phase queue now)
    (open' : phase.isParting = false) (begun : phase.shown ≠ .disconnected)
    (immediate : settings.feed.reconnectDelay = 0) :
    ∃ later due, due ≤ now ∧ attempts (moments later) = [] ∧
      Continues settings phase queue now later (.waiting due) queue now := by
  rcases exists_waiting now open' begun with
    ⟨due, rfl⟩ | ⟨input, actions, free, silent, possible⟩
  · have soon : due ≤ now + settings.feed.reconnectDelay := run.due_le due rfl
    rw [immediate] at soon
    exact ⟨[], due, soon, rfl, .stay⟩
  · refine ⟨[.taken ⟨now, input, actions⟩], _, ?_, instants_of_other [] silent,
      .take .stay (.other queue free) possible⟩
    rw [immediate]
    exact le_rfl

/-- Without a delay attempts that fail can follow each other without end. -/
theorem Continues.redialling {due : Nat}
    (on : Continues settings phase queue now later (.waiting due) queue now) (soon : due ≤ now)
    (none : attempts (moments later) = []) (immediate : settings.feed.reconnectDelay = 0)
    (count : Nat) :
    ∃ later due, due ≤ now ∧ attempts (moments later) = List.replicate count now ∧
      Continues settings phase queue now later (.waiting due) queue now := by
  induction count with
  | zero => exact ⟨later, due, soon, none, on⟩
  | succ count induction =>
      obtain ⟨before, due, soon, made, on⟩ := induction
      have redials : step settings now (.waiting due) .delayOver = some dial := if_pos soon
      have dialled := on.take (.other queue rfl) redials
      have fails : step settings now .connecting .connectFailed =
          some (.waiting (now + settings.feed.reconnectDelay), [.publish .reconnectWait]) := rfl
      have failed := dialled.take (.other queue rfl) fails
      refine ⟨_, _, ?_, ?_, failed⟩
      · rw [immediate]
        exact le_rfl
      · rw [moments_taken, moments_taken, List.replicate_succ', ← made]
        exact (instants_of_other _ rfl).trans (instants_of_kind _ rfl)

/-! ## What a close means -/

/-- What a close that was called means for the attempts that may follow. -/
structure HoldsOff (settings : SocketSettings) (log : List Event) (phase : Phase)
    (queue : List Command) (now : Nat) : Prop where
  /-- An attempt can follow while the close is unread, if there is no delay or it is over. -/
  possible : (∃ later reached rest instant,
      Continues settings phase queue now later reached rest instant ∧
        attempts (moments later) ≠ []) ↔
    .close ∉ taken (moments log) ∧
      (settings.feed.reconnectDelay = 0 ∨ phase.ready now ≠ [])
  /-- With a delay, no other attempt follows than one that is ready. -/
  bounded : settings.feed.reconnectDelay ≠ 0 → ∀ later reached rest instant,
    Continues settings phase queue now later reached rest instant →
      attempts (moments later) <+: phase.ready now
  /-- Without a delay, any number of attempts can come before the close is read. -/
  unbounded : settings.feed.reconnectDelay = 0 → .close ∉ taken (moments log) →
    ∀ count, ∃ later reached rest instant,
      Continues settings phase queue now later reached rest instant ∧
        attempts (moments later) = List.replicate count now

theorem Run.unbounded (run : Run settings AnyTime log phase queue now)
    (begun : phase.shown ≠ .disconnected) (immediate : settings.feed.reconnectDelay = 0)
    (unread : .close ∉ taken (moments log)) (count : Nat) :
    ∃ later reached rest instant,
      Continues settings phase queue now later reached rest instant ∧
        attempts (moments later) = List.replicate count now := by
  have open' : phase.isParting = false := by
    rwa [← run.parting_iff, Bool.not_eq_true] at unread
  obtain ⟨before, first, soon, none, on⟩ := run.exists_ready open' begun immediate
  obtain ⟨later, due, -, made, on⟩ := on.redialling soon none immediate count
  exact ⟨later, .waiting due, queue, now, on, made⟩

/-- An attempt that is ready can be made. -/
theorem exists_attempt_of_ready (ready : phase.ready now ≠ []) :
    ∃ later reached rest instant,
      Continues settings phase queue now later reached rest instant ∧
        attempts (moments later) ≠ [] := by
  cases phase with
  | waiting due =>
      have late : due ≤ now := by
        by_contra early
        exact ready (if_neg early)
      have redials : step settings now (.waiting due) .delayOver = some dial := if_pos late
      exact ⟨_, _, _, _, .take .stay (.other queue rfl) redials, nofun⟩
  | _ => exact absurd rfl ready

/-- A socket that was told to close after its start holds off all but these attempts. -/
theorem holdsOff_of_run (run : Run settings AnyTime log phase queue now)
    (begun : phase.shown ≠ .disconnected) (called : .close ∈ given log) :
    HoldsOff settings log phase queue now where
  possible := by
    constructor
    · rintro ⟨later, reached, rest, instant, on, made⟩
      constructor
      · rw [← run.parting_iff]
        exact fun parting => made (on.parted parting).2
      · rw [or_iff_not_imp_left]
        intro delayed none
        have tried := (on.attempts_append_ready run called begun delayed).2
        rw [none] at tried
        exact made (List.append_eq_nil_iff.1 (List.prefix_nil.1 tried)).1
    · rintro ⟨unread, immediate | ready⟩
      · obtain ⟨later, reached, rest, instant, on, made⟩ :=
          run.unbounded begun immediate unread 1
        refine ⟨later, reached, rest, instant, on, ?_⟩
        rw [made]
        exact List.cons_ne_nil _ _
      · exact exists_attempt_of_ready ready
  bounded := fun delayed later reached rest instant on =>
    (List.prefix_append _ _).trans (on.attempts_append_ready run called begun delayed).2
  unbounded := run.unbounded begun

/-- A configuration of a feed that makes a new connection at once. -/
def hastyConfig : Config :=
  { Config.ofUrl "http://eth" with feed := ⟨0, 10000, 60000⟩ }

/-- Settings without any delay before another attempt. -/
def hastySettings : SocketSettings :=
  ⟨hastyConfig.topic, hastyConfig.feed⟩

/-- The socket is told to close while its first attempt is under way. -/
def hastyLog : List Event :=
  [.taken ⟨0, .start, dial.2⟩, .given .close]

/-- The first attempt fails, and the second begins before the close is read. -/
def hastyRest : List Event :=
  [.taken ⟨3, .connectFailed, [.publish .reconnectWait]⟩, .taken ⟨3, .delayOver, dial.2⟩]

/-- An attempt is made after the close although the configuration is accepted. -/
theorem holdsOff_of_hasty :
    hastyConfig.validate = .ok () ∧
      Run hastySettings AnyTime hastyLog .connecting [.close] 0 ∧
      HoldsOff hastySettings hastyLog .connecting [.close] 0 ∧
      Continues hastySettings .connecting [.close] 0 hastyRest .connecting [.close] 3 ∧
      Run hastySettings AnyTime (hastyLog ++ hastyRest) .connecting [.close] 3 ∧
      attempts (moments hastyRest) = [3] := by
  have dialled : Run hastySettings AnyTime (hastyLog.take 1) .connecting [] 0 :=
    .take (.start 0) (.other _ rfl) rfl
  have called : Run hastySettings AnyTime hastyLog .connecting [.close] 0 :=
    dialled.give .close rfl
  have later : Continues hastySettings .connecting [.close] 0 [] .connecting [.close] 3 :=
    .pass .stay 3 (by decide) nofun nofun
  have unreached : Continues hastySettings .connecting [.close] 0 (hastyRest.take 1)
      (.waiting 3) [.close] 3 := .take later (.other _ rfl) rfl
  have redialled : Continues hastySettings .connecting [.close] 0 hastyRest
      .connecting [.close] 3 := .take unreached (.other _ rfl) rfl
  have begun : Phase.connecting.shown ≠ .disconnected := by decide
  have asked : .close ∈ given hastyLog := List.mem_cons_self
  exact ⟨by decide +kernel, called, holdsOff_of_run called begun asked, redialled,
    called.extend redialled, rfl⟩

end TokenRelay.Socket
