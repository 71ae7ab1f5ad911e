import TokenRelay.Proofs.Delivery.System

/-!
# The cursor of a delivery

An acknowledgement does not say which copy it is for.  One for a copy that came before the
connection was lost may be written on the next, where the connector takes it for the batch
at its cursor; the copy that was sent again is acknowledged there too, and so the cursor
moves past a batch that nobody was given.

So the cursor is safe only on a condition, which is stated exactly here, and it is safe as
long as acknowledgements keep to the connection of their copy.  Each step of a delivery is
a turn of its ledger or a credit, and the theorems about ledgers carry over.
-/

namespace TokenRelay.Delivery

variable {μ : Type}

/-! ## What a log tells -/

namespace Event

def copy? : Event → Option Copy
  | .dispatched copy => some copy
  | _ => none

def gateway? : Event → Option Gateway.Event
  | .gateway event => some event
  | _ => none

/-- Whether an acknowledgement came to the connector. -/
def isCredit : Event → Bool
  | .credited _ _ _ => true
  | _ => false

end Event

/-- The copies that were dispatched, oldest first. -/
def copies (log : List Event) : List Copy :=
  log.filterMap Event.copy?

/-- The part of a log that the gateway wrote. -/
def gatewayLog (log : List Event) : List Gateway.Event :=
  log.filterMap Event.gateway?

@[simp]
theorem copies_append (log events : List Event) :
    copies (log ++ events) = copies log ++ copies events :=
  List.filterMap_append

@[simp]
theorem gatewayLog_append (log events : List Event) :
    gatewayLog (log ++ events) = gatewayLog log ++ gatewayLog events :=
  List.filterMap_append

@[simp]
theorem copies_map_gateway (events : List Gateway.Event) :
    copies (events.map .gateway) = [] := by
  rw [copies, List.filterMap_map, List.filterMap_eq_nil_iff]
  intro event member
  rfl

@[simp]
theorem gatewayLog_map_gateway (events : List Gateway.Event) :
    gatewayLog (events.map .gateway) = events := by
  rw [gatewayLog, List.filterMap_map]
  exact List.filterMap_some

/-! ## The ledger of a state -/

/-- What counts of a state and of what was shown. -/
def ledger (log : List Event) (state : State μ) : Ledger where
  cursor := state.cursor
  outstanding := state.outstanding
  connection := state.connection
  inbound := state.inbound.filterMap Shipment.place?
  outbound := state.outbound.filterMap (·.number)
  waiting := state.orders.filterMap Order.number?
  issued := state.issued
  copies := copies log

/-- How the parts of a state and what was shown agree. -/
structure Tidy (delivery : Delivery μ) (log : List Event) (state : State μ) : Prop where
  phase : state.phase.IsTidy delivery.settings.topic
  inbound : ∀ frame, .other frame ∈ state.inbound → ∀ text, frame = .text text →
    ∀ events, FeedMessage.parse text ≠ .ok (.batch events)
  outbound : ∀ parcel ∈ state.outbound, parcel.number.isSome ↔
    parcel.frame = .text (Socket.acknowledgementFrame delivery.settings.topic)
  gateway : Gateway.History delivery.gateway (gatewayLog log) state.scene
  received : Gateway.received (gatewayLog log) =
    (copies log).map fun copy => delivery.source.batch copy.place
  issued : state.issued = Gateway.acknowledgements (gatewayLog log)

theorem tidy_start (delivery : Delivery μ) (audience : Audience) :
    Tidy delivery [] (start audience) where
  phase := trivial
  inbound := nofun
  outbound := nofun
  gateway := .start audience
  received := rfl
  issued := rfl

/-! ## What the socket does to a state -/

section Socket

variable {delivery : Delivery μ} {log : List Event} {state : State μ}

/-- Quiet actions on an unmarked input only put unmarked frames on their way. -/
theorem perform_quiet {origin : Origin} (unmarked : origin.number? = none)
    (actions : List Socket.Action)
    (quiet : ∀ action ∈ actions, action.IsQuiet delivery.settings.topic) (state : State μ) :
    ∃ frames : List Frame,
      (∀ frame ∈ frames,
        frame ≠ .text (Socket.acknowledgementFrame delivery.settings.topic)) ∧
      actions.foldl (perform origin) state =
        { state with outbound := state.outbound ++ frames.map fun frame => ⟨frame, none⟩ } := by
  induction actions generalizing state with
  | nil => exact ⟨[], nofun, by simp⟩
  | cons action rest induction =>
      have first := quiet action List.mem_cons_self
      obtain ⟨frames, others, performed⟩ := induction
        (fun action member => quiet action (List.mem_cons_of_mem _ member))
        (perform origin state action)
      rw [List.foldl_cons, performed]
      cases action with
      | send frame =>
          refine ⟨frame :: frames, List.forall_mem_cons.2 ⟨first, others⟩, ?_⟩
          simp [perform, unmarked]
      | batch events => exact absurd first not_false
      | reply reply => exact absurd first not_false
      | publish connection => exact ⟨frames, others, rfl⟩
      | connect => exact ⟨frames, others, rfl⟩
      | terminate => exact ⟨frames, others, rfl⟩
      | release => exact ⟨frames, others, rfl⟩

theorem shown_quiet (origin : Origin) (connection : Nat) (actions : List Socket.Action)
    (quiet : ∀ action ∈ actions, action.IsQuiet delivery.settings.topic) :
    actions.flatMap (shown origin connection) = [] := by
  rw [List.flatMap_eq_nil_iff]
  intro action member
  have isQuiet := quiet action member
  cases action <;> first | rfl | cases isQuiet

/-- A step of the socket that does nothing of note leaves the ledger as it was. -/
theorem Tidy.quiet (tidy : Tidy delivery log state) {phase : Socket.Phase}
    (phaseTidy : phase.IsTidy delivery.settings.topic) {actions : List Socket.Action}
    (quiet : ∀ action ∈ actions, action.IsQuiet delivery.settings.topic)
    {origin : Origin} (unmarked : origin.number? = none) :
    Tidy delivery log (actions.foldl (perform origin) { state with phase := phase }) ∧
      ledger log (actions.foldl (perform origin) { state with phase := phase }) =
        ledger log state := by
  obtain ⟨frames, others, performed⟩ :=
    perform_quiet unmarked actions quiet { state with phase := phase }
  rw [performed]
  constructor
  · exact { tidy with
      phase := phaseTidy
      outbound := by
        intro parcel member
        rcases List.mem_append.1 member with old | new
        · exact tidy.outbound parcel old
        · obtain ⟨frame, present, rfl⟩ := List.mem_map.1 new
          simpa using others frame present }
  · simp [ledger, List.filterMap_map]

end Socket

/-- What a step does to the ledger, and what it shows of credits. -/
inductive Counts (log : List Event) (state : State μ) (events : List Event)
    (next : State μ) : Prop where
  | turn (plain : ∀ event ∈ events, event.isCredit = false)
      (turn : Ledger.Turn (ledger log state) (ledger (log ++ events) next))
  | credit {number : Nat} {rest : List Nat}
      (shown : events = [.credited (some number) state.connection state.cursor])
      (first : (ledger log state).outbound = number :: rest)
      (credited : ledger (log ++ events) next = (ledger log state).credit rest)

theorem Counts.aside {log events : List Event} {state next : State μ}
    (plain : ∀ event ∈ events, event.isCredit = false)
    (same : ledger (log ++ events) next = ledger log state) :
    Counts log state events next := by
  refine .turn plain ?_
  rw [same]
  exact .aside

/-- A step keeps the parts of a state in agreement and counts in the ledger. -/
structure Keeps (delivery : Delivery μ) (log : List Event) (state : State μ)
    (events : List Event) (next : State μ) : Prop where
  tidy : Tidy delivery (log ++ events) next
  counts : Counts log state events next

section Step

variable {delivery : Delivery μ} {log : List Event} {state : State μ}

/-- A step that shows nothing and is a turn of the ledger. -/
theorem Keeps.turn {next : State μ} (tidy : Tidy delivery log next)
    (turn : Ledger.Turn (ledger log state) (ledger log next)) :
    Keeps delivery log state [] next where
  tidy := by rwa [List.append_nil]
  counts := .turn nofun (by rwa [List.append_nil])

/-- A step that shows nothing and leaves the ledger as it was. -/
theorem Keeps.aside {next : State μ} (tidy : Tidy delivery log next)
    (same : ledger log next = ledger log state) : Keeps delivery log state [] next :=
  .turn tidy (same ▸ .aside)

theorem Tidy.withOrders (tidy : Tidy delivery log state) (orders : List Order) :
    Tidy delivery log { state with orders := orders } :=
  { tidy with }

theorem Tidy.fewer_shipments (tidy : Tidy delivery log state) {shipment : Shipment}
    {rest : List Shipment} (first : state.inbound = shipment :: rest) :
    Tidy delivery log { state with inbound := rest } :=
  { tidy with
    inbound := fun frame member =>
      tidy.inbound frame (by rw [first]; exact List.mem_cons_of_mem _ member) }

theorem Tidy.fewer_parcels (tidy : Tidy delivery log state) {parcel : Parcel}
    {rest : List Parcel} (first : state.outbound = parcel :: rest) :
    Tidy delivery log { state with outbound := rest } :=
  { tidy with
    outbound := fun other member =>
      tidy.outbound other (by rw [first]; exact List.mem_cons_of_mem _ member) }

/-- The connector may send a batch, and what is no text of a batch. -/
theorem Tidy.shipped (tidy : Tidy delivery log state) {shipment : Shipment}
    (noBatch : ∀ frame, shipment = .other frame → ∀ text, frame = .text text →
      ∀ events, FeedMessage.parse text ≠ .ok (.batch events)) :
    Tidy delivery log { state with inbound := state.inbound ++ [shipment] } :=
  { tidy with
    inbound := by
      intro frame member
      rcases List.mem_append.1 member with old | new
      · exact tidy.inbound frame old
      · exact noBatch frame (List.mem_singleton.1 new).symm }

/-- The socket drops an acknowledgement or sends it on. -/
theorem Tidy.acknowledge (tidy : Tidy delivery log state) {number : Nat} {rest : List Order}
    (first : state.orders = .acknowledge number :: rest) {phase : Socket.Phase}
    (phaseTidy : phase.IsTidy delivery.settings.topic) {actions : List Socket.Action}
    (does : Socket.Does delivery.settings (.command .acknowledge) actions) :
    Keeps delivery log state
      (actions.flatMap (shown (.order (.acknowledge number)) state.connection))
      (actions.foldl (perform (.order (.acknowledge number)))
        { state with orders := rest, phase := phase }) := by
  have waiting : (ledger log state).waiting =
      number :: rest.filterMap Order.number? := by
    simp [ledger, first, Order.number?]
  have fewer : Tidy delivery log { state with orders := rest, phase := phase } :=
    { tidy with phase := phaseTidy }
  cases does with
  | acknowledged =>
      refine .turn ?_ ?_
      · exact { fewer with
          outbound := by
            intro parcel member
            rcases List.mem_append.1 member with old | new
            · exact tidy.outbound parcel old
            · rw [List.mem_singleton.1 new]
              simp [Origin.number?, Order.number?] }
      · have written := Ledger.Turn.written waiting
        simpa [ledger, perform, Origin.number?, Order.number?] using written
  | dropped =>
      refine .turn fewer ?_
      have forgotten := Ledger.Turn.forgotten waiting
      simpa [ledger] using forgotten
  | quiet plain => cases plain

/-- The gateway is dispatched something, and nothing else happens. -/
theorem Tidy.dispatch (tidy : Tidy delivery log state) {scene : Gateway.Scene μ}
    {events : List Gateway.Event} {shown : List Event}
    (step : Gateway.Step delivery.gateway state.scene events scene)
    (gatewayShown : gatewayLog shown = events)
    (received : Gateway.received events =
      (copies shown).map fun copy => delivery.source.batch copy.place)
    (unasked : Gateway.acknowledgements events = 0) :
    Tidy delivery (log ++ shown) { state with scene := scene } where
  phase := tidy.phase
  inbound := tidy.inbound
  outbound := tidy.outbound
  gateway := by
    rw [gatewayLog_append, gatewayShown]
    exact tidy.gateway.step step
  received := by
    rw [gatewayLog_append, copies_append, gatewayShown, Gateway.received_append,
      List.map_append, tidy.received, received]
  issued := by
    rw [gatewayLog_append, gatewayShown, Gateway.acknowledgements_append, unasked]
    exact tidy.issued

/-- The socket dispatches what arrived: a copy of a batch, a reply or nothing. -/
theorem Tidy.arrive (tidy : Tidy delivery log state) {shipment : Shipment}
    {rest : List Shipment} (first : state.inbound = shipment :: rest)
    {phase : Socket.Phase} (phaseTidy : phase.IsTidy delivery.settings.topic) {text : String}
    (frame : shipment.frame delivery.source = .text text) :
    Keeps delivery log state
      ((Socket.dispatch text).flatMap (shown (.shipment shipment) state.connection))
      ((Socket.dispatch text).foldl (perform (.shipment shipment))
        { state with inbound := rest, phase := phase }) := by
  have left : Tidy delivery log { state with inbound := rest, phase := phase } :=
    { tidy.fewer_shipments first with phase := phaseTidy }
  cases shipment with
  | batch place =>
      cases frame
      have parsed : Socket.dispatch (delivery.source.text place) =
          [.batch (delivery.source.batch place)] := by
        rw [Socket.dispatch, delivery.source.parse_text]
      rw [parsed]
      have arrived : (ledger log state).inbound =
          place :: rest.filterMap Shipment.place? := by
        simp [ledger, first, Shipment.place?]
      have dispatched := Ledger.Turn.dispatched arrived
      refine ⟨?_, .turn ?_ ?_⟩
      · exact left.dispatch
          (.move 0 (.dispatchBatch (delivery.source.batch place)) (.other rfl) rfl)
          rfl rfl rfl
      · simp [shown, Event.isCredit, Origin.place?, Shipment.place?]
      · simpa [ledger, copies, shown, perform, Origin.place?, Shipment.place?,
          Event.copy?, List.filterMap_cons] using dispatched
  | other sent =>
      cases frame
      have noBatch := tidy.inbound (.text text) (by rw [first]; exact List.mem_cons_self)
        text rfl
      unfold Socket.dispatch
      split
      · rename_i events parsed
        exact absurd parsed (noBatch events)
      · rename_i reply parsed
        refine ⟨?_, .aside nofun ?_⟩
        · exact left.dispatch (.move 0 (.dispatchReply reply) (.other rfl) rfl)
            rfl rfl rfl
        · simp [ledger, first, Shipment.place?, shown, perform, List.filterMap_cons]
      · refine .aside left ?_
        simp [ledger, first, Shipment.place?, List.filterMap_cons]

/-- A plain input that is no marked order leaves the ledger as it was. -/
theorem Tidy.plain (tidy : Tidy delivery log state) {phase : Socket.Phase} {now : Nat}
    {input : Socket.Input} {actions : List Socket.Action}
    (possible : Socket.step delivery.settings now state.phase input = some (phase, actions))
    (plain : input.isPlain = true) (origin : Origin) (unmarked : origin.number? = none) :
    actions.flatMap (shown origin state.connection) = [] ∧
      Tidy delivery log (actions.foldl (perform origin) { state with phase := phase }) ∧
      ledger log (actions.foldl (perform origin) { state with phase := phase }) =
        ledger log state := by
  have quiet := Socket.isQuiet_of_isPlain tidy.phase plain possible
  exact ⟨shown_quiet origin _ actions quiet.actions,
    tidy.quiet quiet.tidy quiet.actions unmarked⟩

/-- Another shipment arrives, which may be a text. -/
theorem Tidy.arriveOther (tidy : Tidy delivery log state) {frame : Frame}
    {rest : List Shipment} (first : state.inbound = .other frame :: rest)
    {phase : Socket.Phase} {actions : List Socket.Action} {now : Nat}
    (possible : Socket.step delivery.settings now state.phase (.arrived (.frame frame)) =
      some (phase, actions)) :
    Keeps delivery log state
      (actions.flatMap (shown (.shipment (.other frame)) state.connection))
      (actions.foldl (perform (.shipment (.other frame)))
        { state with inbound := rest, phase := phase }) := by
  by_cases plain : (Socket.Input.arrived (.frame frame)).isPlain = true
  · obtain ⟨nothing, after, same⟩ :=
      (tidy.fewer_shipments first).plain possible plain (.shipment (.other frame)) rfl
    rw [nothing]
    refine .aside after ?_
    rw [same]
    simp [ledger, first, Shipment.place?, List.filterMap_cons]
  · cases frame with
    | text text =>
        obtain ⟨does, phaseTidy⟩ := Socket.does_of_step tidy.phase possible
        cases does with
        | dispatched => exact tidy.arrive first phaseTidy rfl
        | quiet plain => cases plain
    | _ => exact absurd rfl plain

theorem Tidy.socket (tidy : Tidy delivery log state) {taken : State μ}
    {input : Socket.Input} {origin : Origin} {phase : Socket.Phase}
    {actions : List Socket.Action} {now : Nat}
    (offers : Offers delivery.source state input origin taken)
    (possible : Socket.step delivery.settings now state.phase input =
      some (phase, actions)) :
    Keeps delivery log state (actions.flatMap (shown origin taken.connection))
      (actions.foldl (perform origin) { taken with phase := phase }) := by
  cases offers with
  | connected =>
      have fresh : Tidy delivery log (reconnected state) :=
        { tidy with inbound := nofun, outbound := nofun }
      obtain ⟨nothing, after, same⟩ := fresh.plain possible rfl .nothing rfl
      rw [nothing]
      refine .turn after ?_
      rw [same]
      exact .reconnected
  | @command order rest first =>
      cases order with
      | acknowledge number =>
          obtain ⟨does, phaseTidy⟩ := Socket.does_of_step tidy.phase possible
          exact tidy.acknowledge first phaseTidy does
      | close =>
          obtain ⟨nothing, after, same⟩ :=
            (tidy.withOrders rest).plain possible rfl (.order .close) rfl
          rw [nothing]
          refine .aside after ?_
          rw [same]
          simp [ledger, first, Order.number?, List.filterMap_cons]
  | @arrived shipment rest first =>
      cases shipment with
      | batch place =>
          obtain ⟨does, phaseTidy⟩ := Socket.does_of_step tidy.phase possible
          cases does with
          | dispatched => exact tidy.arrive first phaseTidy rfl
          | quiet plain => cases plain
      | other frame => exact tidy.arriveOther first possible
  | _ =>
      obtain ⟨nothing, after, same⟩ := tidy.plain possible rfl .nothing rfl
      rw [nothing]
      exact .aside after same

theorem filterMap_acknowledge (numbers : List Nat) :
    (numbers.map Order.acknowledge).filterMap Order.number? = numbers := by
  rw [List.filterMap_map]
  exact List.filterMap_some

theorem Tidy.gatewayStep (tidy : Tidy delivery log state) {scene : Gateway.Scene μ}
    {events : List Gateway.Event}
    (step : Gateway.Step delivery.gateway state.scene events scene)
    (noBatch : Gateway.received events = []) {next : State μ}
    (becomes : next =
      { state with
        scene := scene
        orders := state.orders ++ (List.range' state.issued
          (Gateway.acknowledgements events)).map .acknowledge
        issued := state.issued + Gateway.acknowledgements events }) :
    Keeps delivery log state (events.map .gateway) next := by
  subst becomes
  have history : Gateway.History delivery.gateway (gatewayLog log ++ events) scene :=
    tidy.gateway.step step
  have issued : state.issued + Gateway.acknowledgements events =
      Gateway.acknowledgements (gatewayLog log ++ events) := by
    rw [Gateway.acknowledgements_append, tidy.issued]
  have received : Gateway.received (gatewayLog log ++ events) =
      (copies log).map fun copy => delivery.source.batch copy.place := by
    rw [Gateway.received_append, noBatch, List.append_nil, tidy.received]
  constructor
  · exact {
      phase := tidy.phase
      inbound := tidy.inbound
      outbound := tidy.outbound
      gateway := by
        rw [gatewayLog_append, gatewayLog_map_gateway]
        exact history
      received := by
        rw [gatewayLog_append, gatewayLog_map_gateway, copies_append, copies_map_gateway,
          List.append_nil]
        exact received
      issued := by
        rw [gatewayLog_append, gatewayLog_map_gateway]
        exact issued }
  · have plain : ∀ event ∈ events.map Event.gateway, event.isCredit = false := by
      intro event member
      obtain ⟨event, _, rfl⟩ := List.mem_map.1 member
      rfl
    -- A turn of the pump acknowledges once at most.
    rcases Nat.le_one_iff_eq_zero_or_eq_one.1 step.turn.acknowledgements_le_one with
      none | one
    · refine .aside plain ?_
      simp [ledger, none]
    · refine .turn plain ?_
      have fewer : (ledger log state).issued < (ledger log state).copies.length := by
        have bound := history.acknowledgements_le_received
        rw [← issued, received, one, List.length_map] at bound
        exact bound
      have turned := Ledger.Turn.issued fewer
      simpa [ledger, one, List.filterMap_append, filterMap_acknowledge,
        Order.number?] using turned

theorem Tidy.credit (tidy : Tidy delivery log state) {parcel : Parcel} {rest : List Parcel}
    (first : state.outbound = parcel :: rest)
    (acknowledges :
      parcel.frame = .text (Socket.acknowledgementFrame delivery.settings.topic)) :
    Keeps delivery log state [.credited parcel.number state.connection state.cursor]
      { state with cursor := state.cursor + 1, outstanding := false, outbound := rest } := by
  have marked := (tidy.outbound parcel (by rw [first]; exact List.mem_cons_self)).2
    acknowledges
  obtain ⟨number, found⟩ := Option.isSome_iff_exists.1 marked
  have sameCopies : copies
      (log ++ [.credited parcel.number state.connection state.cursor]) = copies log := by
    simp [copies, Event.copy?]
  have sameLog : gatewayLog
      (log ++ [.credited parcel.number state.connection state.cursor]) =
        gatewayLog log := by
    simp [gatewayLog, Event.gateway?]
  constructor
  · exact {
      phase := tidy.phase
      inbound := tidy.inbound
      outbound := (tidy.fewer_parcels first).outbound
      gateway := by
        rw [sameLog]
        exact tidy.gateway
      received := by
        rw [sameLog, sameCopies]
        exact tidy.received
      issued := by
        rw [sameLog]
        exact tidy.issued }
  · have head : (ledger log state).outbound = number :: rest.filterMap (·.number) := by
      simp [ledger, first, found]
    refine .credit (by rw [found]) head ?_
    rw [ledger, sameCopies]
    rfl

/-- A step keeps the parts in agreement and counts as a turn of the ledger or a credit. -/
theorem Tidy.step (tidy : Tidy delivery log state) {events : List Event} {next : State μ}
    (step : Step delivery state events next) : Keeps delivery log state events next := by
  cases step with
  | socket now offers possible => exact tidy.socket offers possible
  | ship free =>
      have shipped : Tidy delivery log
          { state with inbound := state.inbound ++ [.batch state.cursor] } :=
        tidy.shipped nofun
      refine .turn { shipped with } ?_
      have sent : Ledger.Turn (ledger log state) _ := .sent free
      simpa [ledger, Shipment.place?, List.filterMap_cons] using sent
  | tell frame noBatch =>
      refine .aside (tidy.shipped ?_) ?_
      · intro other equal
        cases equal
        exact noBatch
      · simp [ledger, Shipment.place?, List.filterMap_cons]
  | credit first acknowledges => exact tidy.credit first acknowledges
  | @ignore parcel rest first other =>
      have unmarked : parcel.number = none := by
        rw [← Option.not_isSome_iff_eq_none]
        intro marked
        exact other ((tidy.outbound parcel (by rw [first]; exact List.mem_cons_self)).1
          marked)
      refine .aside (tidy.fewer_parcels first) ?_
      simp [ledger, first, unmarked]
  | gateway step noBatch => exact tidy.gatewayStep step noBatch rfl
  | close =>
      refine .aside { tidy with } ?_
      simp [ledger, Order.number?, List.filterMap_cons]

end Step

/-! ## Whole runs -/

section Run

variable {delivery : Delivery μ} {log : List Event} {state : State μ}

theorem History.tidy (history : History delivery log state) : Tidy delivery log state := by
  induction history with
  | start audience => exact tidy_start delivery audience
  | step history step induction => exact (induction.step step).tidy

theorem History.sound (history : History delivery log state) : (ledger log state).Sound := by
  induction history with
  | start audience => exact Ledger.sound_start
  | step history step induction =>
      cases (history.tidy.step step).counts with
      | turn plain turn => exact induction.turn turn
      | credit shown first credited =>
          rw [credited]
          exact induction.credit first

/-- The log leads to a state in which the next acknowledgement to arrive is this one. -/
def CreditsNext (delivery : Delivery μ) (log : List Event) (number connection cursor : Nat) :
    Prop :=
  ∃ (state : State μ) (rest : List Nat), History delivery log state ∧
    connection = state.connection ∧ cursor = state.cursor ∧
    (ledger log state).outbound = number :: rest

theorem History.credits_next_of_step (history : History delivery log state)
    {next : State μ} {events start after : List Event} {mark : Option Nat}
    {connection cursor : Nat} (step : Step delivery state events next)
    (shown : events = start ++ .credited mark connection cursor :: after) :
    ∃ number, mark = some number ∧
      CreditsNext delivery (log ++ start) number connection cursor := by
  cases (history.tidy.step step).counts with
  | turn plain turn =>
      have member : .credited mark connection cursor ∈ events := by
        rw [shown]
        exact List.mem_append_right _ List.mem_cons_self
      exact absurd (plain _ member) (by simp [Event.isCredit])
  | @credit number rest single first credited =>
      rw [single] at shown
      cases start with
      | nil =>
          cases shown
          rw [List.append_nil]
          exact ⟨number, rfl, state, rest, history, rfl, rfl, first⟩
      | cons event start =>
          have empty := (List.cons.inj shown).2
          simp at empty

/-- A credit that was shown came of a state in which its number was next to arrive. -/
theorem History.credits_next (history : History delivery log state)
    {before after : List Event} {mark : Option Nat} {connection cursor : Nat}
    (split : log = before ++ .credited mark connection cursor :: after) :
    ∃ number, mark = some number ∧
      CreditsNext delivery before number connection cursor := by
  induction history generalizing after with
  | start audience => simp at split
  | @step log events state next history step induction =>
      -- Either the credit is shown by this step, or it was shown before.
      rcases List.append_eq_append_iff.1 split with
        ⟨start, position, shown⟩ | ⟨between, position, shown⟩
      · rw [position]
        exact history.credits_next_of_step step shown
      · cases between with
        | nil =>
            have shownHere : events = [] ++ .credited mark connection cursor :: after :=
              shown.symm
            have here := history.credits_next_of_step step shownHere
            rwa [position, List.append_nil, List.append_nil] at here
        | cons event between =>
            obtain ⟨rfl, rfl⟩ := List.cons.inj shown
            exact induction position

/-! ## What a credit is for -/

/-- A credit was shown after these events, and it stems from this copy. -/
def Credits (log before : List Event) (copy : Copy) (connection cursor : Nat) : Prop :=
  ∃ number after, log = before ++ .credited (some number) connection cursor :: after ∧
    (copies before)[number]? = some copy

/-- The notifications of the batch at a place were handed over, if there are any. -/
def HandedOver (delivery : Delivery μ) (log : List Event) (place : Nat) : Prop :=
  ∃ number copy, (copies log)[number]? = some copy ∧ copy.place = place ∧
    Gateway.Delivered delivery.gateway (gatewayLog log) number

/-- The cursor moves past a batch only after the batch was handed over. -/
def IsSafe (delivery : Delivery μ) (log : List Event) : Prop :=
  ∀ before mark connection cursor after,
    log = before ++ .credited mark connection cursor :: after →
      HandedOver delivery before cursor

/-- Each acknowledgement is credited on the connection of the copy that it stems from. -/
def KeepsConnections (log : List Event) : Prop :=
  ∀ before copy connection cursor, Credits log before copy connection cursor →
    copy.connection = connection

theorem Credits.append {events before : List Event} {copy : Copy} {connection cursor : Nat}
    (credits : Credits log before copy connection cursor) :
    Credits (log ++ events) before copy connection cursor := by
  obtain ⟨number, after, split, found⟩ := credits
  refine ⟨number, after ++ events, ?_, found⟩
  rw [split, List.append_assoc]
  rfl

theorem KeepsConnections.of_append {events : List Event}
    (keeps : KeepsConnections (log ++ events)) : KeepsConnections log :=
  fun before copy connection cursor credits =>
    keeps before copy connection cursor credits.append

/-- The next acknowledgement to arrive stems from a copy that was handed over. -/
theorem CreditsNext.stems {number connection cursor : Nat}
    (next : CreditsNext delivery log number connection cursor) :
    ∃ copy, (copies log)[number]? = some copy ∧ copy.place ≤ cursor ∧
      HandedOver delivery log copy.place := by
  obtain ⟨state, rest, history, -, rfl, first⟩ := next
  have sound := history.sound
  have tidy := history.tidy
  have issued : number < state.issued :=
    sound.numbers number (by rw [first]; exact List.mem_cons_self)
  have bound : number < (copies log).length := Nat.lt_of_lt_of_le issued sound.issued
  have found := List.getElem?_eq_getElem bound
  have delivered : Gateway.Delivered delivery.gateway (gatewayLog log) number :=
    tidy.gateway.delivered (tidy.issued ▸ issued)
  exact ⟨_, found, sound.places _ (List.getElem_mem bound),
    number, _, found, rfl, delivered⟩

/-- While acknowledgements keep to their connections, the ledger is direct. -/
theorem History.direct (history : History delivery log state)
    (keeps : KeepsConnections log) : (ledger log state).Direct := by
  induction history with
  | start audience => exact Ledger.direct_start
  | @step log events state next history step induction =>
      have direct := induction keeps.of_append
      cases (history.tidy.step step).counts with
      | turn plain turn => exact direct.turn history.sound turn
      | @credit number rest shown first credited =>
          have credit : CreditsNext delivery log number state.connection state.cursor :=
            ⟨state, _, history, rfl, rfl, first⟩
          obtain ⟨copy, found, -⟩ := credit.stems
          have same : copy.connection = state.connection :=
            keeps log copy _ _ ⟨number, [], by rw [shown], found⟩
          rw [credited]
          exact (direct.credit history.sound first found same).2

/--
Each acknowledgement that the connector receives stems from a copy of a batch that was
handed over, at the cursor or before it.  So the cursor is safe exactly if the batch at
the cursor is handed over whenever one for an earlier batch arrives, and it is safe as long
as no acknowledgement arrives on another connection than that of its copy.
-/
theorem cursor_safe_iff (history : History delivery log state) :
    (∀ before mark connection cursor after,
      log = before ++ .credited mark connection cursor :: after →
        ∃ copy, Credits log before copy connection cursor ∧ copy.place ≤ cursor ∧
          HandedOver delivery before copy.place) ∧
    (IsSafe delivery log ↔
      ∀ before copy connection cursor, Credits log before copy connection cursor →
        copy.place < cursor → HandedOver delivery before cursor) ∧
    (KeepsConnections log → IsSafe delivery log) := by
  have stems : ∀ before mark connection cursor after,
      log = before ++ .credited mark connection cursor :: after →
        ∃ copy, Credits log before copy connection cursor ∧ copy.place ≤ cursor ∧
          HandedOver delivery before copy.place := by
    intro before mark connection cursor after split
    obtain ⟨number, rfl, next⟩ := history.credits_next split
    obtain ⟨copy, found, bound, handed⟩ := next.stems
    exact ⟨copy, ⟨number, after, split, found⟩, bound, handed⟩
  refine ⟨stems, ?_, ?_⟩
  · constructor
    · rintro safe before copy connection cursor ⟨number, after, split, -⟩ -
      exact safe before _ connection cursor after split
    · intro late before mark connection cursor after split
      obtain ⟨copy, credits, bound, handed⟩ := stems _ _ _ _ _ split
      rcases Nat.lt_or_eq_of_le bound with less | equal
      · exact late before copy connection cursor credits less
      · rwa [equal] at handed
  · intro keeps before mark connection cursor after split
    obtain ⟨number, rfl, next⟩ := history.credits_next split
    obtain ⟨copy, found, -, handed⟩ := next.stems
    have same := keeps before copy connection cursor ⟨number, after, split, found⟩
    obtain ⟨earlier, rest, leads, rfl, rfl, first⟩ := next
    have direct := leads.direct (split ▸ keeps).of_append
    rwa [(direct.credit leads.sound first found same).1] at handed

end Run

/-! ## An acknowledgement on a later connection -/

/-- The text of a batch with one event. -/
def minedText : String :=
  "[[\"sub\",\"\",\"\",\"1\",\"0\",\"0x1\"]]"

theorem parse_minedText :
    FeedMessage.parse minedText = .ok (.batch [Gateway.mined]) := by
  cbv

/-- Batches without events, except the second one. -/
def secondMined : Source where
  text place := if place = 1 then minedText else "[]"
  batch place := if place = 1 then [Gateway.mined] else []
  parse_text place := by
    split_ifs
    · exact parse_minedText
    · rfl

/-- The second batch is the first that has an event, and the delays of the socket are short. -/
def minedSecond : Delivery Unit where
  source := secondMined
  settings := ⟨"t", ⟨5, 10, 60⟩⟩
  gateway := Gateway.receipting

/-- What is sent on a connection before anything else. -/
def greeting : List Parcel :=
  [⟨.text (Socket.listenFrame "t"), none⟩, ⟨.text Socket.listenRepliesFrame, none⟩,
    ⟨.ping, none⟩]

/-- A gateway at rest that no subscriber and no reply waits for. -/
def resting (batches : List Batch) : Gateway.Scene Unit :=
  ⟨⟨batches, [], false, .idle, true⟩, .empty⟩

/-- A state in which the batch at the cursor was sent. -/
def sending (cursor connection : Nat) (inbound : List Shipment) (outbound : List Parcel)
    (phase : Socket.Phase) (issued : Nat) (batches : List Batch) : State Unit :=
  ⟨cursor, true, connection, inbound, outbound, phase, [], issued, resting batches⟩

/-- The first batch arrives. -/
def firstCopy : List Event :=
  [.dispatched ⟨0, 1⟩, .gateway (.received [])]

/-- A batch without notifications is served. -/
def settled : List Event :=
  [.gateway (.took []), .gateway (.passed []), .gateway .acknowledged]

theorem history_firstCopy :
    History minedSecond firstCopy (sending 0 1 [] greeting .connecting 0 [[]]) := by
  have begun : History minedSecond [] (start .empty) := .start .empty
  have dialled := begun.step (.socket 0 .start rfl)
  have connected := dialled.step (.socket 0 .connected rfl)
  have listening := connected.step (.socket 0 .sent rfl)
  have asked := listening.step (.socket 0 .sent rfl)
  have live := asked.step (.socket 0 .sent rfl)
  have shipped := live.step (.ship rfl)
  change History minedSecond []
    (sending 0 1 [.batch 0] greeting (.live ⟨.idle, .arm 0 60⟩) 0 []) at shipped
  have arrived := shipped.step (.socket 0 (.arrived rfl) rfl)
  have lost := arrived.step (.socket 0 .ended rfl)
  have redialled := lost.step (.socket 5 .delayOver rfl)
  exact redialled

/-- The gateway settles a batch without events and acknowledges it. -/
theorem History.settle {log : List Event} {cursor connection issued : Nat}
    {inbound : List Shipment} {outbound : List Parcel} {phase : Socket.Phase}
    {batches : List Batch}
    (history : History minedSecond log
      (sending cursor connection inbound outbound phase issued ([] :: batches))) :
    History minedSecond (log ++ settled)
      { sending cursor connection inbound outbound phase (issued + 1) batches with
        orders := [.acknowledge issued] } := by
  have taken := history.step (.gateway (.move 5 .take (.other rfl) rfl) rfl)
  have acknowledged := taken.step
    (.gateway (.move 5 (.conclude (.ok [])) (.conclude _) rfl) rfl)
  rw [List.append_assoc] at acknowledged
  exact acknowledged

/-- What is shown when the acknowledgement of one connection is sent on the next. -/
def staleLog : List Event :=
  firstCopy ++ settled ++
    [.dispatched ⟨0, 2⟩, .gateway (.received []), .credited (some 0) 2 0] ++ settled ++
    [.credited (some 1) 2 1]

theorem history_stale :
    ∃ state, History minedSecond staleLog state := by
  have issued := history_firstCopy.settle
  have connected := issued.step (.socket 5 .connected rfl)
  have listening := connected.step (.socket 5 .sent rfl)
  have asked := listening.step (.socket 5 .sent rfl)
  have live := asked.step (.socket 5 .sent rfl)
  have shipped := live.step (.ship rfl)
  change History minedSecond (firstCopy ++ settled)
    { sending 0 2 [.batch 0] greeting (.live ⟨.idle, .arm 5 60⟩) 1 [] with
      orders := [.acknowledge 0] } at shipped
  have arrived := shipped.step (.socket 5 (.arrived rfl) rfl)
  have writing := arrived.step (.socket 5 (.command rfl) rfl)
  have written := writing.step (.socket 5 .sent rfl)
  change History minedSecond
    (firstCopy ++ settled ++ [.dispatched ⟨0, 2⟩, .gateway (.received [])])
    (sending 0 2 [] (greeting ++
      [⟨.text (Socket.acknowledgementFrame "t"), some 0⟩]) (.live ⟨.idle, .arm 5 60⟩) 1
      [[]]) at written
  have noListen := written.step (.ignore rfl fun equal =>
    Socket.listenFrame_ne_acknowledgementFrame "t" (Frame.text.inj equal))
  have noReplies := noListen.step (.ignore rfl fun equal =>
    Socket.listenRepliesFrame_ne_acknowledgementFrame "t" (Frame.text.inj equal))
  have noPing := noReplies.step (.ignore rfl nofun)
  have credited := noPing.step (.credit rfl rfl)
  have next := credited.step (.ship rfl)
  change History minedSecond
    (firstCopy ++ settled ++
      [.dispatched ⟨0, 2⟩, .gateway (.received []), .credited (some 0) 2 0])
    (sending 1 2 [.batch 1] [] (.live ⟨.idle, .arm 5 60⟩) 1 [[]]) at next
  have reissued := next.settle
  have rewriting := reissued.step (.socket 5 (.command rfl) rfl)
  have past := rewriting.step (.credit rfl rfl)
  exact ⟨_, past⟩

/-- The cursor moves past a batch that was never dispatched, and the notification of its event
is given to nobody. -/
theorem cursor_safe_iff_of_stale :
    (∃ state, History minedSecond staleLog state) ∧ ¬ IsSafe minedSecond staleLog ∧
      ¬ KeepsConnections staleLog ∧
      (∃ deeds, Gateway.Passes minedSecond.gateway (minedSecond.source.batch 1) deeds
        [Gateway.minedReceipt]) ∧
      ¬ HandedOver minedSecond staleLog 1 := by
  have undelivered : ∀ log, copies log = [⟨0, 1⟩, ⟨0, 2⟩] → ¬ HandedOver minedSecond log 1 := by
    rintro log both ⟨number, copy, found, place, -⟩
    rw [both] at found
    have member : copy ∈ [⟨0, 1⟩, ⟨0, 2⟩] := List.mem_of_getElem? found
    simp only [List.mem_cons, List.not_mem_nil, or_false] at member
    rcases member with rfl | rfl
    · cases place
    · cases place
  have early : ¬ IsSafe minedSecond staleLog := fun safe =>
    undelivered _ rfl (safe (firstCopy ++ settled ++
      [.dispatched ⟨0, 2⟩, .gateway (.received []), .credited (some 0) 2 0] ++ settled)
      (some 1) 2 1 [] rfl)
  have passes : Gateway.ComesTo (Gateway.receipting.begin [Gateway.mined])
      [.recalled [("sub", "t:x")]] (.ok [Gateway.minedReceipt]) :=
    .step (.recall _ ⟨[("sub", "t:x")], ()⟩) (.done _)
  obtain ⟨state, history⟩ := history_stale
  exact ⟨⟨state, history⟩, early, fun keeps => early ((cursor_safe_iff history).2.2 keeps),
    ⟨_, (Gateway.comesTo_begin_ok_iff _ _ _ _).1 passes⟩, undelivered _ rfl⟩

end TokenRelay.Delivery
