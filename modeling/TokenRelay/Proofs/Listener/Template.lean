import TokenRelay.Proofs.Connector.Alone
import TokenRelay.Proofs.Listener.Hearing

/-!
# The URI template

A listener calls for one thing only, the template of its URIs, and keeps it.  `Learns` says
what calls do to what it keeps: nothing is called for once the template is known, a call
that does not give it changes nothing, and the one that gives it is the last.  This composes,
so it holds of single URIs, of transforms and of everything that a listener ever does.

What a listener makes of an event is drawn from the event and the subscription alone, except
for the URIs.  `Listener.drawn` draws it with given URIs, and `Tells` joins the two: whatever
the calls come to, the notifications are as drawn but for the URIs, and they are as drawn with
the template's if that was known before.
-/

namespace TokenRelay

namespace Notification

/-- A notification with another URI, where it has one. -/
def withUri (uri : String) : Notification → Notification
  | .mint content => .mint { content with uri := uri }
  | .burn content => .burn { content with uri := uri }
  | .transfer content => .transfer { content with uri := uri }
  | .poolCreated content => .poolCreated content
  | .receipt content => .receipt content

@[simp]
theorem withUri_withUri (first second : String) (notification : Notification) :
    (notification.withUri first).withUri second = notification.withUri second := by
  cases notification <;> rfl

theorem exists_withUri_eq (notification : Notification) :
    ∃ uri, notification.withUri uri = notification := by
  cases notification with
  | mint content => exact ⟨content.uri, rfl⟩
  | burn content => exact ⟨content.uri, rfl⟩
  | transfer content => exact ⟨content.uri, rfl⟩
  | poolCreated content => exact ⟨"", rfl⟩
  | receipt content => exact ⟨"", rfl⟩

end Notification

namespace Listener

variable {listener : Listener} {client : Client} {memory middle after : Memory}
  {calls later : List (Request × Outcome)}

/-! ## What calls teach -/

/-- A call for the template that does not give it. -/
structure Misses (listener : Listener) (call : Request × Outcome) : Prop where
  asks : call.1 = listener.templateRequest
  fails : ∀ result, ¬ call.2.Gives QueryResult.codec result

/-- What the calls of a listener do to what it keeps. -/
inductive Learns (listener : Listener) : Memory → List (Request × Outcome) → Memory → Prop where
  | known (template : String) : Learns listener (some template) [] (some template)
  | missed {calls : List (Request × Outcome)} (misses : ∀ call ∈ calls, listener.Misses call) :
      Learns listener none calls none
  | fetched {before : List (Request × Outcome)} {outcome : Outcome} {result : QueryResult}
      (misses : ∀ call ∈ before, listener.Misses call)
      (gives : outcome.Gives QueryResult.codec result) :
      Learns listener none (before ++ [(listener.templateRequest, outcome)]) (some result.output)

theorem Learns.refl (memory : Memory) : listener.Learns memory [] memory := by
  cases memory with
  | none => exact .missed (List.forall_mem_nil _)
  | some template => exact .known template

theorem Learns.trans (first : listener.Learns memory calls middle)
    (second : listener.Learns middle later after) :
    listener.Learns memory (calls ++ later) after := by
  cases first with
  | known template => exact second
  | missed misses =>
      cases second with
      | missed others => exact .missed (List.forall_mem_append.2 ⟨misses, others⟩)
      | fetched others gives =>
          rw [← List.append_assoc]
          exact .fetched (List.forall_mem_append.2 ⟨misses, others⟩) gives
  | fetched misses gives =>
      cases second
      rw [List.append_nil]
      exact .fetched misses gives

theorem Learns.asks (learns : listener.Learns memory calls after) :
    ∀ call ∈ calls, call.1 = listener.templateRequest := by
  cases learns with
  | known => exact List.forall_mem_nil _
  | missed misses => exact fun call member => (misses call member).asks
  | fetched misses =>
      exact List.forall_mem_append.2
        ⟨fun call member => (misses call member).asks, List.forall_mem_singleton.2 rfl⟩

theorem Learns.keeps {template : String}
    (learns : listener.Learns (some template) calls after) :
    calls = [] ∧ after = some template := by
  cases learns
  exact ⟨rfl, rfl⟩

/-- The call that gives the template is the last one, and the only one that gives it. -/
theorem Learns.last {before : List (Request × Outcome)} {call : Request × Outcome}
    {result : QueryResult} (learns : listener.Learns memory (before ++ call :: later) after)
    (gives : call.2.Gives QueryResult.codec result) :
    later = [] ∧ after = some result.output ∧ ∀ other ∈ before, listener.Misses other := by
  generalize whole : before ++ call :: later = calls at learns
  cases learns with
  | known => exact absurd whole (List.append_ne_nil_of_right_ne_nil _ (List.cons_ne_nil _ _))
  | missed misses =>
      have member : call ∈ calls := whole ▸ List.mem_append_right _ List.mem_cons_self
      exact ((misses call member).fails result gives).elim
  | @fetched others outcome found misses fetches =>
      -- a call before the last one misses, so this call is the last one
      rcases List.append_eq_append_iff.1 whole with ⟨between, rfl, rest⟩ | ⟨between, rfl, rest⟩
      · cases between with
        | nil =>
            obtain ⟨rfl, rfl⟩ := List.cons.inj rest
            exact ⟨rfl, congrArg _ (congrArg _ (fetches.unique gives)), by simpa using misses⟩
        | cons head between =>
            obtain ⟨rfl, -⟩ := List.cons.inj rest
            have member : call ∈ before ++ call :: between :=
              List.mem_append_right _ List.mem_cons_self
            exact ((misses call member).fails result gives).elim
      · cases between with
        | nil =>
            obtain ⟨rfl, rfl⟩ := List.cons.inj rest
            exact ⟨rfl, congrArg _ (congrArg _ (fetches.unique gives)), by simpa using misses⟩
        | cons head between =>
            have impossible := (List.cons.inj rest).2
            exact absurd impossible.symm
              (List.append_ne_nil_of_right_ne_nil _ (List.cons_ne_nil _ _))

/-- The template is known exactly if it was known before or a call has given it. -/
theorem Learns.isSome_iff (learns : listener.Learns memory calls after) :
    after.isSome ↔ memory.isSome ∨ ∃ call ∈ calls, ∃ result,
      call.2.Gives QueryResult.codec result := by
  cases learns with
  | known => exact iff_of_true rfl (.inl rfl)
  | missed misses =>
      refine iff_of_false Bool.false_ne_true ?_
      rintro (impossible | ⟨call, member, result, gives⟩)
      · cases impossible
      · exact (misses call member).fails result gives
  | fetched misses gives =>
      exact iff_of_true rfl
        (.inr ⟨_, List.mem_append_right _ (List.mem_singleton.2 rfl), _, gives⟩)

/-! ## A single URI -/

/-- The template that an answer gives. -/
def received? : Answer → Option String
  | .error _ => none
  | .ok response =>
    match QueryResult.codec.read response.body with
    | .ok result => some result.output
    | .error _ => none

theorem tokenUri_eq (listener : Listener) (id : String) :
    listener.tokenUri id = .recall fun known =>
      match known with
      | some template => .done (fill template id)
      | none => .call listener.templateRequest fun answer =>
        match received? answer with
        | some template => .remember (fun _ => some template) (.done (fill template id))
        | none => .done "" := by
  unfold tokenUri
  congr 1
  funext known
  cases known with
  | some template => rfl
  | none =>
      refine congrArg (Procedure.call listener.templateRequest) ?_
      funext answer
      cases answer with
      | error => rfl
      | ok response =>
          simp only [received?, Task.read, Procedure.bind, ExceptT.bindCont, ExceptT.mk]
          cases QueryResult.codec.read response.body <;> rfl

theorem Misses.of_fruitless {call : Request × Outcome}
    (fruitless : Client.Fruitless listener.templateRequest call) : listener.Misses call :=
  ⟨fruitless.asks, fun _ gives => fruitless.fails gives.succeeds⟩

/-- The attempts of one call for the template teach what the answer gives. -/
theorem learns_of_attempted {answer : Answer}
    (attempted : Client.Attempted listener.templateRequest calls answer) :
    listener.Learns none calls (received? answer) := by
  cases attempted with
  | failed fruitless =>
      exact .missed fun call member => .of_fruitless (fruitless call member)
  | @succeeded before response fruitless good =>
      have misses : ∀ call ∈ before, listener.Misses call :=
        fun call member => .of_fruitless (fruitless call member)
      cases reads : QueryResult.codec.read response.body with
      | ok result =>
          have received : received? (.ok response) = some result.output := by
            simp only [received?, reads]
          rw [received]
          exact .fetched misses ⟨response, rfl, good, reads⟩
      | error fault =>
          -- the response is a success, but its body says nothing
          have received : received? (.ok response) = none := by
            simp only [received?, reads]
          rw [received]
          refine .missed (List.forall_mem_append.2 ⟨misses, List.forall_mem_singleton.2 ⟨rfl, ?_⟩⟩)
          rintro result ⟨_, same, -, readsOther⟩
          obtain rfl := Except.ok.inj same
          cases reads.symm.trans readsOther

/-- A URI is filled in from the template that is known then; without one it is empty. -/
theorem learns_tokenUri {id uri : String}
    (runs : (client.perform (listener.tokenUri id)).RunsAlone memory calls uri after) :
    listener.Learns memory calls after ∧ uri = after.elim "" (fill · id) := by
  rw [tokenUri_eq] at runs
  cases runs with
  | «recall» runs =>
      cases memory with
      | some template =>
          obtain ⟨rfl, rfl, rfl⟩ := Procedure.RunsAlone.of_done runs
          exact ⟨.known template, rfl⟩
      | none =>
          obtain ⟨answer, middle, first, later, sends, follows, rfl⟩ :=
            Procedure.RunsAlone.of_bind runs
          obtain ⟨rfl, attempted⟩ := client.attempted_attemptFrom 1 le_rfl sends
          have learns := learns_of_attempted attempted
          cases received : received? answer with
          | none =>
              simp only [received] at follows learns
              obtain ⟨rfl, rfl, rfl⟩ := Procedure.RunsAlone.of_done follows
              rw [List.append_nil]
              exact ⟨learns, rfl⟩
          | some template =>
              simp only [received] at follows learns
              cases follows with
              | remember follows =>
                  obtain ⟨rfl, rfl, rfl⟩ := Procedure.RunsAlone.of_done follows
                  rw [List.append_nil]
                  exact ⟨learns, rfl⟩

/-! ## What is drawn from an event -/

/-- The notifications of a batch's transfers from a position on, with given URIs. -/
def drawnTransfers (name : SubscriptionName) (event : ChainEvent) (uri : String → String) :
    Nat → List TransferData → List Notification
  | _, [] => []
  | position, data :: rest =>
    heardTransfer name event data (some position) (uri data.id) ++
      drawnTransfers name event uri (position + 1) rest

/-- The notifications of an event, with given URIs of token ids. -/
def drawn (listener : Listener) (subscription : String) (event : ChainEvent)
    (uri : String → String) : List Notification :=
  let name := SubscriptionName.unpack listener.topic subscription
  match PoolEvent.ofSignature? event.signature with
  | none => []
  | some .create => (poolCreated? name event).toList
  | some .single =>
    match TransferData.codec.read event.data with
    | .error _ => []
    | .ok data => heardTransfer name event data none (uri data.id)
  | some .batch =>
    match BatchData.codec.read event.data with
    | .error _ => []
    | .ok batch => drawnTransfers name event uri 0 batch.split

theorem map_withUri_heardTransfer (name : SubscriptionName) (event : ChainEvent)
    (data : TransferData) (position : Option Nat) (first second : String) :
    (heardTransfer name event data position first).map (·.withUri second) =
      heardTransfer name event data position second := by
  unfold heardTransfer
  cases accept? name event data with
  | none => rfl
  | some accepted =>
      simp only [List.map_cons, List.map_nil, List.cons.injEq, and_true, moved]
      split
      · rfl
      · split <;> rfl

theorem map_withUri_poolCreated? (name : SubscriptionName) (event : ChainEvent) (uri : String) :
    (poolCreated? name event).toList.map (·.withUri uri) = (poolCreated? name event).toList := by
  unfold poolCreated?
  split
  · rfl
  · split
    · rfl
    · dsimp only
      split_ifs <;> rfl

/--
What a run tells whose notifications are drawn with URIs: they are as drawn but for the URIs,
and entirely so if the template was known before.
-/
structure Tells (listener : Listener) (draw : (String → String) → List Notification)
    (memory : Memory) (calls : List (Request × Outcome)) (heard : List Notification)
    (after : Memory) : Prop where
  learns : listener.Learns memory calls after
  plain : heard.map (·.withUri "") = draw fun _ => ""
  known : ∀ template, memory = some template → heard = draw (fill template)

theorem Tells.of_done {drawn result : List Notification} (fixed : drawn.map (·.withUri "") = drawn)
    (runs : (client.perform (.done drawn : Procedure Answer Memory (List Notification))).RunsAlone
      memory calls result after) :
    listener.Tells (fun _ => drawn) memory calls result after := by
  obtain ⟨rfl, rfl, rfl⟩ := Procedure.RunsAlone.of_done runs
  exact ⟨.refl _, fixed, fun _ _ => rfl⟩

theorem Tells.append {first second : (String → String) → List Notification}
    {heard others : List Notification} (tells : listener.Tells first memory calls heard middle)
    (follows : listener.Tells second middle later others after) :
    listener.Tells (fun uri => first uri ++ second uri) memory (calls ++ later)
      (heard ++ others) after where
  learns := tells.learns.trans follows.learns
  plain := by rw [List.map_append, tells.plain, follows.plain]
  known := by
    rintro template rfl
    -- what is known before the first part is known before the second
    obtain ⟨-, rfl⟩ := tells.learns.keeps
    rw [tells.known template rfl, follows.known template rfl]

/-! ## Transforms -/

theorem tells_transformTransfer {name : SubscriptionName} {event : ChainEvent}
    {data : TransferData} {position : Option Nat} {heard : List Notification}
    (runs : (client.perform (listener.transformTransfer name event data position)).RunsAlone
      memory calls heard after) :
    listener.Tells (fun uri => heardTransfer name event data position (uri data.id))
      memory calls heard after := by
  unfold transformTransfer at runs
  cases accepts : accept? name event data with
  | none =>
      rw [accepts] at runs
      have nothing : ∀ uri, heardTransfer name event data position uri = [] := by
        intro uri
        simp only [heardTransfer, accepts]
      simp only [nothing]
      exact .of_done rfl runs
  | some accepted =>
      simp only [accepts, Procedure.bind_eq, Client.perform, Procedure.answeredBy_bind] at runs
      have drawn : ∀ uri, heardTransfer name event data position uri =
          [moved event data position accepted uri] := by
        intro uri
        simp only [heardTransfer, accepts]
      obtain ⟨uri, middle, first, others, asks, follows, rfl⟩ := runs.of_bind
      obtain ⟨rfl, rfl, rfl⟩ := Procedure.RunsAlone.of_done follows
      obtain ⟨learns, rfl⟩ := learns_tokenUri asks
      rw [List.append_nil, ← drawn]
      refine ⟨learns, map_withUri_heardTransfer _ _ _ _ _ _, ?_⟩
      rintro template rfl
      cases learns
      rfl

theorem tells_transformTransfers {name : SubscriptionName} {event : ChainEvent}
    {position : Nat} {transfers : List TransferData} {heard : List Notification}
    (runs : (client.perform (listener.transformTransfers name event position transfers)).RunsAlone
      memory calls heard after) :
    listener.Tells (fun uri => drawnTransfers name event uri position transfers)
      memory calls heard after := by
  induction transfers generalizing position memory calls heard with
  | nil => exact .of_done rfl runs
  | cons data rest induction =>
      rw [transformTransfers, Procedure.bind_eq, Client.perform, Procedure.answeredBy_bind] at runs
      obtain ⟨found, middle, first, others, starts, follows, rfl⟩ := runs.of_bind
      rw [Procedure.bind_eq, Procedure.answeredBy_bind] at follows
      obtain ⟨remaining, last, second, none, goesOn, ends, rfl⟩ := follows.of_bind
      obtain ⟨rfl, rfl, rfl⟩ := Procedure.RunsAlone.of_done ends
      rw [List.append_nil]
      exact (tells_transformTransfer starts).append (induction goesOn)

/-- A transform tells what is drawn from its event. -/
theorem tells_transform {subscription : String} {event : ChainEvent}
    {heard : List Notification}
    (runs : (client.perform (listener.transform subscription event)).RunsAlone
      memory calls heard after) :
    listener.Tells (listener.drawn subscription event) memory calls heard after := by
  unfold transform at runs
  unfold drawn
  cases signed : PoolEvent.ofSignature? event.signature with
  | none =>
      rw [signed] at runs
      exact .of_done rfl runs
  | some kind =>
      rw [signed] at runs
      cases kind with
      | create => exact .of_done (map_withUri_poolCreated? _ _ _) runs
      | single =>
          cases reads : TransferData.codec.read event.data with
          | error fault =>
              simp only [reads] at runs ⊢
              exact .of_done rfl runs
          | ok data =>
              simp only [reads] at runs ⊢
              exact tells_transformTransfer runs
      | batch =>
          cases reads : BatchData.codec.read event.data with
          | error fault =>
              simp only [reads] at runs ⊢
              exact .of_done rfl runs
          | ok batch =>
              simp only [reads] at runs ⊢
              exact tells_transformTransfers runs

end Listener

end TokenRelay
