import TokenRelay.Proofs.Connector.Conduct
import TokenRelay.Proofs.Stream.Management

/-!
# A connector whose requests may fail

`Store.Treats` says how a connector treats a request that may fail: nothing has happened
then, and else the request is done.  Of what the connector tells about a stream that was
created or patched only the id is relied on.  Ids need not tell streams apart, so a patch is
of one stream, with its id and its name.

Each task that manages streams and subscriptions is described by what it may come to while
nobody else uses the connector, however many of its requests fail.  It keeps the store
orderly with every request: a stream is only created where none of its name was listed, and
a subscription where none of its name was listed on its stream.
-/

namespace TokenRelay

open TokenRelay.Stream (Wish baseWish listStreams listSubscriptions details)
open TokenRelay.Client (Handles)

variable {σ α β : Type} {client : Client}

namespace Client

/-! ## A call whose attempt is refused -/

section Refused

variable {ε : Type} {request : Request} {next : Answer → Procedure Answer σ α}
  {failure : TransportError} {answer : Request → ε → Outcome × ε} {source : ε}

/-- A failure that is neither absence nor worth another attempt ends a call. -/
theorem judge_of_refused (attempt : Nat) (present : failure.statusCode? ≠ some 404)
    (unfit : client.permits failure = false) :
    client.judge request attempt (.error failure) = .final (.error (.rejected failure)) := by
  simp [judge, Outcome.judged, TransportError.isNotFound, present, unfit]

theorem advances_perform_refused (present : failure.statusCode? ≠ some 404)
    (unfit : client.permits failure = false) :
    (client.perform (.call request next)).Advances [(request, .error failure)]
      (client.perform (next (.error (.rejected failure)))) := by
  have goes : client.perform (next (.error (.rejected failure))) =
      (client.follow request 1 (client.judge request 1 (.error failure))).bind
        fun reply => client.perform (next reply) := by
    rw [judge_of_refused 1 present unfit]
    rfl
  rw [perform_call, goes]
  exact .call request _ (Except.error failure)

theorem against_perform_refused (memory : σ)
    (replies : (answer request source).1 = .error failure)
    (present : failure.statusCode? ≠ some 404) (unfit : client.permits failure = false) :
    (client.perform (.call request next)).against answer memory source =
      (client.perform (next (.error (.rejected failure)))).against answer memory
        (answer request source).2 := by
  rw [perform_call, Procedure.against, replies, judge_of_refused 1 present unfit]
  rfl

/-- A run comes to what it comes to after a call that succeeds at its first attempt. -/
theorem comes_perform_call {response : Response} {value : α} {memory : σ}
    (replies : (answer request source).1 = .ok response) (good : response.isSuccess = true)
    (comes : ((client.perform (next (.ok response))).against answer memory
      (answer request source).2).1 = value) :
    ((client.perform (.call request next)).against answer memory source).1 = value := by
  rw [against_perform_call memory replies good]
  exact comes

/-- A run comes to what it comes to after a call that is refused at its first attempt. -/
theorem comes_perform_refused {value : α} {memory : σ}
    (replies : (answer request source).1 = .error failure)
    (present : failure.statusCode? ≠ some 404) (unfit : client.permits failure = false)
    (comes : ((client.perform (next (.error (.rejected failure)))).against answer memory
      (answer request source).2).1 = value) :
    ((client.perform (.call request next)).against answer memory source).1 = value := by
  rw [against_perform_refused memory replies present unfit]
  exact comes

theorem calls_perform_refused (memory : σ)
    (replies : (answer request source).1 = .error failure)
    (present : failure.statusCode? ≠ some 404) (unfit : client.permits failure = false) :
    (client.perform (.call request next)).calls answer memory source =
      (request, .error failure) ::
        (client.perform (next (.error (.rejected failure)))).calls answer memory
          (answer request source).2 := by
  rw [perform_call, Procedure.calls, replies, judge_of_refused 1 present unfit]
  rfl

end Refused

end Client

namespace Store

/-! ## Requests that may fail -/

/-- Put a stream in the place of another one. -/
def exchange (store : Store) (existing renewed : EventStream) : Store :=
  { store with
    streams := store.streams.map fun other => if other = existing then renewed else other }

/-- What a request does, and how it is answered then. -/
inductive Does (store : Store) : Request → Outcome → Store → Prop where
  | streams {outcome : Outcome}
      (gives : outcome.Gives (.list EventStream.codec) store.streams) :
      Does store listStreams outcome store
  | subscriptions {outcome : Outcome}
      (gives : outcome.Gives (.list Subscription.codec) store.subscriptions) :
      Does store listSubscriptions outcome store
  | created {outcome : Outcome} {stream told : EventStream} (fresh : store.Fresh stream.id)
      (gives : outcome.Gives EventStream.codec told) (identified : told.id = stream.id) :
      Does store (.post "/eventstreams" [] (details stream.name)) outcome
        (store.addStream stream)
  | patched {outcome : Outcome} {existing renewed told : EventStream}
      (there : existing ∈ store.streams) (same : renewed.id = existing.id)
      (named : renewed.name = existing.name) (gives : outcome.Gives EventStream.codec told)
      (identified : told.id = existing.id) :
      Does store (.patch ("/eventstreams/" ++ existing.id) (details existing.name)) outcome
        (store.exchange existing renewed)
  | deleted {outcome : Outcome} (id : String) (succeeds : outcome.Succeeds) :
      Does store (.delete ("/eventstreams/" ++ id)) outcome (store.removeStream id)
  | subscribed {outcome : Outcome} (wish : Wish) (id : String) {told : Subscription}
      (fresh : ∀ subscription ∈ store.subscriptions, subscription.id ≠ id)
      (gives : outcome.Gives Subscription.codec told) :
      Does store wish.request outcome (store.subscribe (wish.made id))

/-- How a connector treats a request that may fail. -/
inductive Treats (store : Store) (request : Request) (outcome : Outcome) : Store → Prop where
  | failed (fails : ¬ outcome.Succeeds) : Treats store request outcome store
  | done {after : Store} (does : store.Does request outcome after) :
      Treats store request outcome after

/-- A log of requests that may fail, from one store to another. -/
abbrev Endures : Store → List (Request × Outcome) → Store → Prop :=
  Procedure.Logs Treats

variable {store after : Store} {request : Request} {outcome : Outcome}

theorem Does.succeeds (does : store.Does request outcome after) : outcome.Succeeds := by
  cases does with
  | streams gives => exact gives.succeeds
  | subscriptions gives => exact gives.succeeds
  | created _ gives => exact gives.succeeds
  | patched _ _ _ gives => exact gives.succeeds
  | deleted _ succeeds => exact succeeds
  | subscribed _ _ _ gives => exact gives.succeeds

theorem Does.of_streams (does : store.Does listStreams outcome after) :
    outcome.Gives (.list EventStream.codec) store.streams ∧ after = store := by
  generalize asked : listStreams = request at does
  cases does with
  | streams gives => exact ⟨gives, rfl⟩
  | _ => simp [listStreams, listSubscriptions, Request.get, Request.post, Request.patch,
      Request.delete, Wish.request] at asked

theorem Does.of_subscriptions (does : store.Does listSubscriptions outcome after) :
    outcome.Gives (.list Subscription.codec) store.subscriptions ∧ after = store := by
  generalize asked : listSubscriptions = request at does
  cases does with
  | subscriptions gives => exact ⟨gives, rfl⟩
  | _ => simp [listStreams, listSubscriptions, Request.get, Request.post, Request.patch,
      Request.delete, Wish.request] at asked

theorem Does.of_create {topic : String}
    (does : store.Does (.post "/eventstreams" [] (details topic)) outcome after) :
    ∃ stream told : EventStream, stream.name = topic ∧ store.Fresh stream.id ∧
      outcome.Gives EventStream.codec told ∧ told.id = stream.id ∧
      after = store.addStream stream := by
  generalize asked : Request.post "/eventstreams" [] (details topic) = request at does
  cases does with
  | created fresh gives identified =>
      have bodies := Option.some.inj (congrArg Request.body asked)
      exact ⟨_, _, (Stream.details_injective bodies).symm, fresh, gives, identified, rfl⟩
  | subscribed wish => exact (wish.request_ne_create topic asked.symm).elim
  | _ => simp [listStreams, listSubscriptions, Request.get, Request.post, Request.patch,
      Request.delete] at asked

theorem Does.of_patch {id topic : String}
    (does : store.Does (.patch ("/eventstreams/" ++ id) (details topic)) outcome after) :
    ∃ existing renewed told : EventStream, existing ∈ store.streams ∧ existing.id = id ∧
      existing.name = topic ∧ renewed.id = id ∧ renewed.name = topic ∧
      outcome.Gives EventStream.codec told ∧ told.id = id ∧
      after = store.exchange existing renewed := by
  generalize asked : Request.patch ("/eventstreams/" ++ id) (details topic) = request at does
  cases does with
  | patched there same named gives identified =>
      have paths := congrArg Request.path asked
      obtain rfl := (String.append_right_inj _).1 paths
      obtain rfl := Stream.details_injective (Option.some.inj (congrArg Request.body asked))
      exact ⟨_, _, _, there, rfl, rfl, same, named, gives, identified, rfl⟩
  | _ => simp [listStreams, listSubscriptions, Request.get, Request.post, Request.patch,
      Request.delete, Wish.request] at asked

theorem Does.of_delete {id : String}
    (does : store.Does (.delete ("/eventstreams/" ++ id)) outcome after) :
    after = store.removeStream id := by
  generalize asked : Request.delete ("/eventstreams/" ++ id) = request at does
  cases does with
  | deleted other =>
      obtain rfl : id = other := by
        simpa [Request.delete] using asked
      rfl
  | _ => simp [listStreams, listSubscriptions, Request.get, Request.post, Request.patch,
      Request.delete, Wish.request] at asked

theorem Does.of_wish {wish : Wish} (does : store.Does wish.request outcome after) :
    ∃ id told, (∀ subscription ∈ store.subscriptions, subscription.id ≠ id) ∧
      outcome.Gives Subscription.codec told ∧ after = store.subscribe (wish.made id) := by
  generalize asked : wish.request = request at does
  cases does with
  | created => exact (wish.request_ne_create _ asked).elim
  | subscribed other id fresh gives =>
      rw [← Wish.made_of_request_eq asked]
      exact ⟨id, _, fresh, gives, rfl⟩
  | _ => simp [listStreams, listSubscriptions, Request.get, Request.post, Request.patch,
      Request.delete, Wish.request] at asked

/-! ## Runs against an answerer -/

section Runs

variable {ε : Type} {middle : Store} {next : Answer → Procedure Answer σ α}
  {answer : Request → ε → Outcome × ε} {memory : σ} {state : ε}
  {response : Response} {failure : TransportError}

/-- A run goes on after a call that is done at its first attempt. -/
theorem Endures.perform_call (replies : (answer request state).1 = .ok response)
    (does : store.Does request (.ok response) middle)
    (endures : middle.Endures
      ((client.perform (next (.ok response))).calls answer memory (answer request state).2)
      after) :
    store.Endures ((client.perform (.call request next)).calls answer memory state) after := by
  rcases does.succeeds with ⟨_, equal, good⟩
  obtain rfl := Except.ok.inj equal
  rw [Client.calls_perform_call memory replies good]
  exact .cons (.done does) endures

/-- A run goes on after a call that is refused at its first attempt. -/
theorem Endures.perform_refused (replies : (answer request state).1 = .error failure)
    (present : failure.statusCode? ≠ some 404) (unfit : client.permits failure = false)
    (endures : store.Endures
      ((client.perform (next (.error (.rejected failure)))).calls answer memory
        (answer request state).2) after) :
    store.Endures ((client.perform (.call request next)).calls answer memory state) after := by
  rw [Client.calls_perform_refused memory replies present unfit]
  refine .cons (.failed ?_) endures
  rintro ⟨response, equal, -⟩
  cases equal

end Runs

/-- Without a deletion that succeeds no subscription goes. -/
theorem subscriptions_subset {calls : List (Request × Outcome)}
    (endures : store.Endures calls after)
    (kept : ∀ call ∈ calls, call.1.method = .delete → ¬ call.2.Succeeds) :
    store.subscriptions ⊆ after.subscriptions := by
  induction endures with
  | nil state => exact List.Subset.refl _
  | cons treats _ induction =>
      rw [List.forall_mem_cons] at kept
      refine List.Subset.trans ?_ (induction kept.2)
      cases treats with
      | failed => exact List.Subset.refl _
      | done does =>
          cases does with
          | streams => exact List.Subset.refl _
          | subscriptions => exact List.Subset.refl _
          | created => exact List.Subset.refl _
          | patched => exact List.Subset.refl _
          | deleted _ succeeds => exact (kept.1 rfl succeeds).elim
          | subscribed => exact List.subset_append_left _ _

/-! ## Orderly stores -/

/-- At most one stream for a name, and one subscription for a name on a stream. -/
structure Orderly (store : Store) : Prop where
  streams : (store.streams.map (·.name)).Nodup
  subscriptions : (store.subscriptions.map fun subscription =>
    (subscription.name, subscription.stream)).Nodup

/-- That a change leaves an orderly store orderly. -/
def Tidies (store after : Store) : Prop :=
  store.Orderly → after.Orderly

/-- No subscription meets the wish. -/
def Unmet (store : Store) (wish : Wish) : Prop :=
  ∀ subscription ∈ store.subscriptions, ¬ wish.isMetBy subscription = true

instance (store : Store) (wish : Wish) : Decidable (store.Unmet wish) :=
  inferInstanceAs (Decidable (∀ subscription ∈ store.subscriptions,
    ¬ wish.isMetBy subscription = true))

/-- What is new by a key keeps a list apart by that key. -/
theorem nodup_map_append {ι κ : Type} {key : ι → κ} {items : List ι} {item : ι}
    (apart : (items.map key).Nodup) (new : ∀ other ∈ items, key other ≠ key item) :
    ((items ++ [item]).map key).Nodup := by
  rw [List.map_append, List.map_singleton, ← List.concat_eq_append]
  apply apart.concat
  intro listed
  rcases List.mem_map.1 listed with ⟨other, there, same⟩
  exact new other there same

theorem names_exchange {existing renewed : EventStream} (named : renewed.name = existing.name) :
    (store.exchange existing renewed).streams.map (·.name) = store.streams.map (·.name) := by
  rw [exchange, List.map_map]
  apply List.map_congr_left
  intro other _
  by_cases same : other = existing
  · simp [same, named]
  · simp [same]

theorem ids_exchange {existing renewed : EventStream} (same : renewed.id = existing.id) :
    (store.exchange existing renewed).streams.map (·.id) = store.streams.map (·.id) := by
  rw [exchange, List.map_map]
  apply List.map_congr_left
  intro other _
  by_cases equal : other = existing
  · simp [equal, same]
  · simp [equal]

theorem tidies_exchange {existing renewed : EventStream}
    (named : renewed.name = existing.name) :
    store.Tidies (store.exchange existing renewed) := by
  intro orderly
  exact ⟨by rw [names_exchange named]; exact orderly.streams, orderly.subscriptions⟩

theorem tidies_addStream {stream : EventStream}
    (vacant : store.topicStream? stream.name = none) :
    store.Tidies (store.addStream stream) := by
  intro orderly
  refine ⟨nodup_map_append orderly.streams ?_, orderly.subscriptions⟩
  intro other there named
  rw [topicStream?, List.find?_eq_none] at vacant
  exact vacant other there (by simpa using named)

theorem tidies_removeStream (id : String) : store.Tidies (store.removeStream id) := by
  intro orderly
  exact ⟨orderly.streams.sublist (List.filter_sublist.map _),
    orderly.subscriptions.sublist (List.filter_sublist.map _)⟩

theorem tidies_subscribe {wish : Wish} (unmet : store.Unmet wish) (id : String) :
    store.Tidies (store.subscribe (wish.made id)) := by
  intro orderly
  refine ⟨orderly.streams, nodup_map_append orderly.subscriptions ?_⟩
  intro other there same
  rw [Prod.mk.injEq] at same
  exact unmet other there ((wish.isMetBy_iff other).2 same)

/-! ## Alone with the connector -/

/-- The conduct of a task while nobody else uses the connector. -/
def alone : Conduct Store :=
  ⟨Eq, Tidies, Eq.refl, Eq.trans⟩

/-- What a task may come to that does one thing or, if it fails, nothing. -/
def unlessFailed (store : Store) (did : α → Store → Prop) : Except BridgeError α → Store → Prop
  | .ok value, after => did value after
  | .error _, after => after = store

/-- The topic has a stream of this id: the one that was there, or a new one. -/
inductive Provides (store : Store) (topic : String) : String → Store → Prop where
  | renewed {existing renewed : EventStream} (there : existing ∈ store.streams)
      (named : existing.name = topic) (same : renewed.id = existing.id)
      (kept : renewed.name = topic) :
      Provides store topic existing.id (store.exchange existing renewed)
  | created {stream : EventStream} (vacant : store.topicStream? topic = none)
      (fresh : store.Fresh stream.id) (named : stream.name = topic) :
      Provides store topic stream.id (store.addStream stream)

theorem Provides.subscriptions {topic id : String} (provides : store.Provides topic id after) :
    after.subscriptions = store.subscriptions := by
  cases provides <;> rfl

/-- The wish is met: by what was there, or by a new subscription. -/
inductive Gains (store : Store) (wish : Wish) : Store → Prop where
  | listed {subscription : Subscription} (there : subscription ∈ store.subscriptions)
      (met : wish.isMetBy subscription = true) : Gains store wish store
  | made {id : String} (unmet : store.Unmet wish)
      (fresh : ∀ subscription ∈ store.subscriptions, subscription.id ≠ id) :
      Gains store wish (store.subscribe (wish.made id))

/-- What making a baseline may come to. -/
inductive Begun (store : Store) (topic instancePath : String) :
    Except BridgeError EventStream → Store → Prop where
  | undone (error : BridgeError) : Begun store topic instancePath (.error error) store
  | bare {id : String} {after : Store} (provides : store.Provides topic id after)
      (error : BridgeError) : Begun store topic instancePath (.error error) after
  | based {stream : EventStream} {middle after : Store}
      (provides : store.Provides topic stream.id middle)
      (gains : middle.Gains (baseWish topic instancePath stream.id) after) :
      Begun store topic instancePath (.ok stream) after

end Store

open Store (Treats alone)

namespace Client

variable {store : Store} {request : Request}

theorem handles_alone {accepts : Outcome → Store → Prop}
    (does : ∀ outcome after, store.Does request outcome after →
      store.Tidies after ∧ accepts outcome after) :
    Handles Treats alone request (· = store) accepts where
  steady := by
    rintro before after rfl rfl
    rfl
  guaranteed := by
    rintro before outcome after rfl treats
    cases treats with
    | failed => exact id
    | done done => exact (does _ _ done).1
  settles := by
    rintro before outcome after rfl treats
    cases treats with
    | failed fails => exact .inl ⟨fails, rfl⟩
    | done done => exact .inr ⟨done.succeeds, (does _ _ done).2⟩

theorem assures_sendFor_alone {codec : Codec α} {did : α → Store → Prop}
    (does : ∀ outcome after, store.Does request outcome after → store.Tidies after ∧
      ∃ value, outcome.Gives codec value ∧ did value after) :
    client.Assures Treats alone (Task.sendFor codec request : Task σ α)
      (store.unlessFailed did) store :=
  assures_sendFor (handles_alone does) (fun _ _ same => same) (fun _ _ met => met) rfl

/-- A composed task goes on with what its first part did, unless that failed. -/
theorem assures_bind_alone {task : Task σ α} {next : α → Task σ β} {did : α → Store → Prop}
    {post : Except BridgeError β → Store → Prop}
    (first : client.Assures Treats alone task (store.unlessFailed did) store)
    (failed : ∀ error, post (.error error) store)
    (follows : ∀ value middle, did value middle →
      client.Assures Treats alone (next value) post middle) :
    client.Assures Treats alone (task >>= next) post store := by
  rw [assures_bind_iff]
  refine first.mono ?_
  intro found now ended
  cases found with
  | ok value => exact follows value now ended
  | error error =>
      rw [Store.unlessFailed] at ended
      exact ended ▸ failed error

end Client

namespace Stream

open Client (assures_sendFor_alone assures_bind_alone)

variable {store : Store}

theorem assures_getStreams :
    client.Assures Treats alone (getStreams : Task σ _)
      (store.unlessFailed fun streams after => streams = store.streams ∧ after = store)
      store := by
  apply assures_sendFor_alone
  intro outcome after does
  rcases Store.Does.of_streams does with ⟨gives, rfl⟩
  exact ⟨id, _, gives, rfl, rfl⟩

theorem assures_findStream (topic : String) :
    client.Assures Treats alone (findStream topic : Task σ _)
      (store.unlessFailed fun found after =>
        found = store.topicStream? topic ∧ after = store) store := by
  refine assures_bind_alone assures_getStreams (fun _ => rfl) ?_
  rintro streams middle ⟨rfl, rfl⟩
  exact (Client.assures_pure_iff _ _).2 ⟨rfl, rfl⟩

theorem assures_getSubscriptions :
    client.Assures Treats alone (getSubscriptions : Task σ _)
      (store.unlessFailed fun subscriptions after =>
        subscriptions = store.subscriptions ∧ after = store) store := by
  apply assures_sendFor_alone
  intro outcome after does
  rcases Store.Does.of_subscriptions does with ⟨gives, rfl⟩
  exact ⟨id, _, gives, rfl, rfl⟩

theorem assures_deleteStream (id : String) :
    client.Assures Treats alone (deleteStream id : Task σ Unit)
      (store.unlessFailed fun _ after => after = store.removeStream id) store := by
  have handles : Handles Treats alone (.delete ("/eventstreams/" ++ id)) (· = store)
      fun _ after => after = store.removeStream id := by
    apply Client.handles_alone
    intro outcome after does
    rw [does.of_delete]
    exact ⟨Store.tidies_removeStream id, rfl⟩
  have sends : client.Assures Treats alone
      (Task.send (.delete ("/eventstreams/" ++ id)) : Task σ Response)
      (store.unlessFailed fun _ after => after = store.removeStream id) store :=
    Client.assures_send handles (fun _ _ same => same) (fun _ _ _ met => met) rfl
  refine assures_bind_alone sends (fun _ => rfl) ?_
  intro _ middle gone
  exact (Client.assures_pure_iff _ _).2 gone

/-- A stream is patched where one of the name was found, and created elsewhere. -/
theorem assures_createOrUpdate (topic : String) :
    client.Assures Treats alone (createOrUpdate topic : Task σ _)
      (store.unlessFailed fun stream after => store.Provides topic stream.id after)
      store := by
  refine assures_bind_alone (assures_findStream topic) (fun _ => rfl) ?_
  rintro found middle ⟨rfl, rfl⟩
  cases there : middle.topicStream? topic with
  | some existing =>
      apply assures_sendFor_alone
      intro outcome after does
      rcases does.of_patch with
        ⟨other, renewed, told, member, same, named, identified, kept, gives, answered, rfl⟩
      refine ⟨Store.tidies_exchange (kept.trans named.symm), told, gives, ?_⟩
      rw [answered, ← same]
      exact .renewed member named (identified.trans same.symm) kept
  | none =>
      apply assures_sendFor_alone
      intro outcome after does
      rcases does.of_create with ⟨stream, told, rfl, fresh, gives, identified, rfl⟩
      refine ⟨Store.tidies_addStream there, told, gives, ?_⟩
      rw [identified]
      exact .created there fresh rfl

/-- A subscription is created only where none of its name was listed on its stream. -/
theorem assures_getOrCreateSubscription (wish : Wish) :
    client.Assures Treats alone (getOrCreateSubscription wish : Task σ _)
      (store.unlessFailed fun _ after => store.Gains wish after) store := by
  refine assures_bind_alone assures_getSubscriptions (fun _ => rfl) ?_
  rintro subscriptions middle ⟨rfl, rfl⟩
  cases there : middle.subscriptions.find? wish.isMetBy with
  | some existing =>
      refine (Client.assures_pure_iff _ _).2 ?_
      exact .listed (List.mem_of_find?_eq_some there) (List.find?_some there)
  | none =>
      have unmet : middle.Unmet wish := List.find?_eq_none.1 there
      apply assures_sendFor_alone
      intro outcome after does
      rcases does.of_wish with ⟨id, told, fresh, gives, rfl⟩
      exact ⟨Store.tidies_subscribe unmet id, told, gives, .made unmet fresh⟩

theorem assures_init (topic instancePath : String) :
    client.Assures Treats alone (init topic instancePath : Task σ _)
      (store.Begun topic instancePath) store := by
  refine assures_bind_alone (assures_createOrUpdate topic) .undone ?_
  intro stream middle provides
  refine assures_bind_alone (assures_getOrCreateSubscription _) (.bare provides) ?_
  intro _ after gains
  exact (Client.assures_pure_iff _ _).2 (.based provides gains)

end Stream

namespace Reconcile

open Client (assures_bind_alone)

variable {store : Store} {topic instancePath : String}

/-- What reconciliation may come to when requests fail. -/
inductive EndsIn (store : Store) (topic instancePath : String) :
    Except BridgeError Result → Store → Prop where
  | undone (error : BridgeError) : EndsIn store topic instancePath (.error error) store
  | left (result : Result) : EndsIn store topic instancePath (.ok result) store
  | removed {stream : EventStream} {made : Except BridgeError EventStream} {after : Store}
      (found : store.topicStream? topic = some stream)
      (begun : (store.removeStream stream.id).Begun topic instancePath made after) :
      EndsIn store topic instancePath (made.map fun _ => .recreated) after

/-- Reconciliation changes nothing, or deletes the topic's stream and begins anew. -/
theorem assures_run (topic instancePath : String) :
    client.Assures Treats alone (run topic instancePath : Task σ Result)
      (EndsIn store topic instancePath) store := by
  refine assures_bind_alone (Stream.assures_findStream topic) .undone ?_
  rintro found middle ⟨rfl, rfl⟩
  cases there : middle.topicStream? topic with
  | none => exact (Client.assures_pure_iff _ _).2 (.left .noStream)
  | some stream =>
      refine assures_bind_alone Stream.assures_getSubscriptions .undone ?_
      rintro subscriptions next ⟨rfl, rfl⟩
      dsimp only
      split
      · exact (Client.assures_pure_iff _ _).2 (.left _)
      · refine assures_bind_alone (Stream.assures_deleteStream stream.id) .undone ?_
        rintro - removed rfl
        rw [Client.assures_bind_iff]
        refine (Stream.assures_init topic instancePath).mono ?_
        intro made after begun
        cases made with
        | ok baseline => exact (Client.assures_pure_iff _ _).2 (.removed there begun)
        | error error => exact (Client.assures_throw_iff _ _).2 (.removed there begun)

end Reconcile

end TokenRelay
