import TokenRelay.Proofs.Connector.Completion
import TokenRelay.Proofs.Json.Fields
import TokenRelay.Stream.Management

/-!
# What a connector holds

A connector holds streams and subscriptions.  `Store.Answers` says how one that works
normally answers the requests by which they are managed: what is listed is what is held,
what is created gets an id that nothing else has, and a stream is deleted together with
its subscriptions.  `Store.Serves` is a log of such answers, from one store to another.
-/

namespace TokenRelay

open TokenRelay.Stream (Wish)

namespace Stream

/-! ## Requests told apart -/

theorem name_details (topic : String) : (details topic).field? "name" = some (.text topic) := by
  simp [details, Json.field?_ofFields]

theorem stream_details (topic : String) : (details topic).field? "stream" = none := by
  simp [details, Json.field?_ofFields]

theorem details_injective : Function.Injective details := by
  intro first second same
  have names := congrArg (Json.field? "name") same
  rw [name_details, name_details] at names
  exact Json.text.inj (Option.some.inj names)

/-- What is created for a wish under an id. -/
def Wish.made (wish : Wish) (id : String) : Subscription :=
  ⟨id, wish.name, wish.stream, some wish.fromBlock⟩

/-- The body of a wish's request. -/
def Wish.body (wish : Wish) : Json :=
  Json.ofFields
    [("name", .text wish.name), ("stream", .text wish.stream),
      ("fromBlock", .text wish.fromBlock)]

theorem Wish.request_eq (wish : Wish) :
    wish.request = .post (wish.instancePath ++ "/" ++ wish.event) [] wish.body :=
  rfl

theorem Wish.name_body (wish : Wish) : wish.body.field? "name" = some (.text wish.name) := by
  simp [body, Json.field?_ofFields]

theorem Wish.stream_body (wish : Wish) :
    wish.body.field? "stream" = some (.text wish.stream) := by
  simp [body, Json.field?_ofFields]

theorem Wish.fromBlock_body (wish : Wish) :
    wish.body.field? "fromBlock" = some (.text wish.fromBlock) := by
  simp [body, Json.field?_ofFields]

/-- Wishes with the same request ask for the same subscription. -/
theorem Wish.made_of_request_eq {first second : Wish}
    (same : first.request = second.request) : first.made = second.made := by
  have bodies : first.body = second.body := by
    simpa [Wish.request_eq, Request.post] using congrArg Request.body same
  have names := congrArg (Json.field? "name") bodies
  have streams := congrArg (Json.field? "stream") bodies
  have blocks := congrArg (Json.field? "fromBlock") bodies
  rw [name_body, name_body, Option.some.injEq, Json.text.injEq] at names
  rw [stream_body, stream_body, Option.some.injEq, Json.text.injEq] at streams
  rw [fromBlock_body, fromBlock_body, Option.some.injEq, Json.text.injEq] at blocks
  funext id
  rw [made, made, names, streams, blocks]

/-- No wish is asked for by the request that creates a stream. -/
theorem Wish.request_ne_create (wish : Wish) (topic : String) :
    wish.request ≠ .post "/eventstreams" [] (details topic) := by
  intro same
  have bodies : wish.body = details topic := by
    simpa [Wish.request_eq, Request.post] using congrArg Request.body same
  have streams := congrArg (Json.field? "stream") bodies
  rw [stream_body, stream_details] at streams
  cases streams

end Stream

/-! ## Stores -/

/-- The streams and the subscriptions of a connector. -/
structure Store where
  streams : List EventStream
  subscriptions : List Subscription

namespace Store

/-- The first stream of a topic's name. -/
def topicStream? (store : Store) (topic : String) : Option EventStream :=
  store.streams.find? fun stream => stream.name = topic

/-- The names of the subscriptions that are bound to a stream. -/
def Names (store : Store) (stream : String) : Set String :=
  {name | ∃ subscription ∈ store.subscriptions,
    subscription.stream = stream ∧ subscription.name = name}

/-- An id that no stream has and that no subscription is bound to. -/
structure Fresh (store : Store) (id : String) : Prop where
  ofStreams : ∀ stream ∈ store.streams, stream.id ≠ id
  ofSubscriptions : ∀ subscription ∈ store.subscriptions, subscription.stream ≠ id

def addStream (store : Store) (stream : EventStream) : Store :=
  { store with streams := store.streams ++ [stream] }

/-- Put a stream in the place of the one with its id. -/
def replaceStream (store : Store) (stream : EventStream) : Store :=
  { store with
    streams := store.streams.map fun other => if other.id = stream.id then stream else other }

/-- Delete a stream together with its subscriptions. -/
def removeStream (store : Store) (id : String) : Store where
  streams := store.streams.filter (·.id ≠ id)
  subscriptions := store.subscriptions.filter (·.stream ≠ id)

def subscribe (store : Store) (subscription : Subscription) : Store :=
  { store with subscriptions := store.subscriptions ++ [subscription] }

/-- How a connector that works normally answers a request, and what it holds then. -/
inductive Answers (store : Store) : Request → Outcome → Store → Prop where
  | streams {outcome : Outcome}
      (gives : outcome.Gives (.list EventStream.codec) store.streams) :
      Answers store (.get "/eventstreams" []) outcome store
  | subscriptions {outcome : Outcome}
      (gives : outcome.Gives (.list Subscription.codec) store.subscriptions) :
      Answers store (.get "/subscriptions" []) outcome store
  | created {outcome : Outcome} {stream : EventStream} (fresh : store.Fresh stream.id)
      (gives : outcome.Gives EventStream.codec stream) :
      Answers store (.post "/eventstreams" [] (Stream.details stream.name)) outcome
        (store.addStream stream)
  | patched {outcome : Outcome} {stream : EventStream}
      (gives : outcome.Gives EventStream.codec stream) :
      Answers store (.patch ("/eventstreams/" ++ stream.id) (Stream.details stream.name))
        outcome (store.replaceStream stream)
  | deleted {outcome : Outcome} (id : String) (succeeds : outcome.Succeeds) :
      Answers store (.delete ("/eventstreams/" ++ id)) outcome (store.removeStream id)
  | subscribed {outcome : Outcome} (wish : Wish) (id : String)
      (fresh : ∀ subscription ∈ store.subscriptions, subscription.id ≠ id)
      (gives : outcome.Gives Subscription.codec (wish.made id)) :
      Answers store wish.request outcome (store.subscribe (wish.made id))

/-- A log of calls that are answered normally, from one store to another. -/
inductive Serves : Store → List (Request × Outcome) → Store → Prop where
  | nil (store : Store) : Serves store [] store
  | cons {store middle after : Store} {request : Request} {outcome : Outcome}
      {later : List (Request × Outcome)} (answers : store.Answers request outcome middle)
      (serves : Serves middle later after) : Serves store ((request, outcome) :: later) after

variable {store middle after : Store} {request : Request} {outcome : Outcome}
  {calls later : List (Request × Outcome)}

/-! ## Single answers -/

theorem Answers.succeeds (answers : store.Answers request outcome after) :
    outcome.Succeeds := by
  cases answers with
  | streams gives => exact gives.succeeds
  | subscriptions gives => exact gives.succeeds
  | created _ gives => exact gives.succeeds
  | patched gives => exact gives.succeeds
  | deleted _ succeeds => exact succeeds
  | subscribed _ _ _ gives => exact gives.succeeds

theorem Answers.of_streams (answers : store.Answers (.get "/eventstreams" []) outcome after) :
    outcome.Gives (.list EventStream.codec) store.streams ∧ after = store := by
  generalize asked : Request.get "/eventstreams" [] = request at answers
  cases answers with
  | streams gives => exact ⟨gives, rfl⟩
  | _ => simp [Request.get, Request.post, Request.patch, Request.delete, Wish.request] at asked

theorem Answers.of_subscriptions
    (answers : store.Answers (.get "/subscriptions" []) outcome after) :
    outcome.Gives (.list Subscription.codec) store.subscriptions ∧ after = store := by
  generalize asked : Request.get "/subscriptions" [] = request at answers
  cases answers with
  | subscriptions gives => exact ⟨gives, rfl⟩
  | _ => simp [Request.get, Request.post, Request.patch, Request.delete, Wish.request] at asked

theorem Answers.of_create {topic : String}
    (answers : store.Answers (.post "/eventstreams" [] (Stream.details topic)) outcome after) :
    ∃ stream : EventStream, stream.name = topic ∧ store.Fresh stream.id ∧
      outcome.Gives EventStream.codec stream ∧ after = store.addStream stream := by
  generalize asked : Request.post "/eventstreams" [] (Stream.details topic) = request
    at answers
  cases answers with
  | created fresh gives =>
      have bodies := Option.some.inj (congrArg Request.body asked)
      exact ⟨_, (Stream.details_injective bodies).symm, fresh, gives, rfl⟩
  | subscribed wish => exact (wish.request_ne_create topic asked.symm).elim
  | _ => simp [Request.get, Request.post, Request.patch, Request.delete] at asked

theorem Answers.of_patch {id topic : String}
    (answers : store.Answers (.patch ("/eventstreams/" ++ id) (Stream.details topic))
      outcome after) :
    ∃ stream : EventStream, stream.id = id ∧ stream.name = topic ∧
      outcome.Gives EventStream.codec stream ∧ after = store.replaceStream stream := by
  generalize asked : Request.patch ("/eventstreams/" ++ id) (Stream.details topic) = request
    at answers
  cases answers with
  | patched gives =>
      have paths := congrArg Request.path asked
      have bodies := Option.some.inj (congrArg Request.body asked)
      exact ⟨_, (String.append_right_inj _).1 paths.symm,
        (Stream.details_injective bodies).symm, gives, rfl⟩
  | _ => simp [Request.get, Request.post, Request.patch, Request.delete, Wish.request] at asked

theorem Answers.of_delete {id : String}
    (answers : store.Answers (.delete ("/eventstreams/" ++ id)) outcome after) :
    after = store.removeStream id := by
  generalize asked : Request.delete ("/eventstreams/" ++ id) = request at answers
  cases answers with
  | deleted other =>
      obtain rfl : id = other := by
        simpa [Request.delete] using asked
      rfl
  | _ => simp [Request.get, Request.post, Request.patch, Request.delete, Wish.request] at asked

theorem Answers.of_wish {wish : Wish} (answers : store.Answers wish.request outcome after) :
    ∃ id, (∀ subscription ∈ store.subscriptions, subscription.id ≠ id) ∧
      outcome.Gives Subscription.codec (wish.made id) ∧
      after = store.subscribe (wish.made id) := by
  generalize asked : wish.request = request at answers
  cases answers with
  | created => exact (wish.request_ne_create _ asked).elim
  | subscribed other id fresh gives =>
      rw [← Wish.made_of_request_eq asked] at gives ⊢
      exact ⟨id, fresh, gives, rfl⟩
  | _ => simp [Request.get, Request.post, Request.patch, Request.delete, Wish.request] at asked

/-! ## Logs -/

@[simp]
theorem serves_nil_iff : store.Serves [] after ↔ after = store := by
  constructor
  · intro serves
    cases serves
    rfl
  · rintro rfl
    exact .nil after

@[simp]
theorem serves_cons_iff :
    store.Serves ((request, outcome) :: later) after ↔
      ∃ middle, store.Answers request outcome middle ∧ middle.Serves later after := by
  constructor
  · intro serves
    cases serves with
    | cons answers serves => exact ⟨_, answers, serves⟩
  · rintro ⟨middle, answers, serves⟩
    exact .cons answers serves

theorem serves_append_iff :
    store.Serves (calls ++ later) after ↔
      ∃ middle, store.Serves calls middle ∧ middle.Serves later after := by
  induction calls generalizing store with
  | nil => simp
  | cons call calls induction =>
      rcases call with ⟨request, outcome⟩
      simp only [List.cons_append, serves_cons_iff, induction]
      constructor
      · rintro ⟨next, answers, middle, serves, others⟩
        exact ⟨middle, ⟨next, answers, serves⟩, others⟩
      · rintro ⟨middle, ⟨next, answers, serves⟩, others⟩
        exact ⟨next, answers, middle, serves, others⟩

theorem Serves.succeeds (serves : store.Serves calls after) :
    ∀ call ∈ calls, call.2.Succeeds := by
  induction serves with
  | nil store => exact nofun
  | cons answers _ induction => exact List.forall_mem_cons.2 ⟨answers.succeeds, induction⟩

/-- A run whose first call is answered normally is served if the rest of it is. -/
theorem Serves.perform_call {σ α ε : Type} {client : Client}
    {next : Answer → Procedure Answer σ α} {answer : Request → ε → Outcome × ε} {memory : σ}
    {state : ε} {response : Response} (replies : (answer request state).1 = .ok response)
    (answers : store.Answers request (.ok response) middle)
    (serves : middle.Serves
      ((client.perform (next (.ok response))).calls answer memory (answer request state).2)
      after) :
    store.Serves ((client.perform (.call request next)).calls answer memory state) after := by
  rcases answers.succeeds with ⟨_, equal, good⟩
  obtain rfl := Except.ok.inj equal
  rw [Client.calls_perform_call memory replies good]
  exact .cons answers serves

/-- Every call of a log is answered at some moment in between. -/
theorem Serves.at_call (serves : store.Serves calls after) {call : Request × Outcome}
    (member : call ∈ calls) :
    ∃ first before next others, calls = first ++ call :: others ∧
      store.Serves first before ∧ before.Answers call.1 call.2 next ∧
      next.Serves others after := by
  rcases List.append_of_mem member with ⟨first, others, rfl⟩
  rcases serves_append_iff.1 serves with ⟨before, serves, rest⟩
  rcases serves_cons_iff.1 rest with ⟨next, answers, rest⟩
  exact ⟨first, before, next, others, rfl, serves, answers, rest⟩

/-! ## Streams of a topic -/

theorem mem_of_topicStream? {topic : String} {stream : EventStream}
    (found : store.topicStream? topic = some stream) :
    stream ∈ store.streams ∧ stream.name = topic := by
  rw [topicStream?] at found
  exact ⟨List.mem_of_find?_eq_some found, by simpa using List.find?_some found⟩

/-- A new stream is the topic's where there was none. -/
theorem topicStream?_addStream {topic : String} {stream : EventStream}
    (vacant : store.topicStream? topic = none) (named : stream.name = topic) :
    (store.addStream stream).topicStream? topic = some stream := by
  rw [topicStream?] at vacant
  simp [topicStream?, addStream, List.find?_append, vacant, named]

/-- A topic's stream stays the topic's when it is replaced by one of its id and name. -/
theorem topicStream?_replaceStream {topic : String} {existing stream : EventStream}
    (found : store.topicStream? topic = some existing) (identified : stream.id = existing.id)
    (named : stream.name = topic) :
    (store.replaceStream stream).topicStream? topic = some stream := by
  rcases store with ⟨streams, subscriptions⟩
  simp only [topicStream?, replaceStream] at found ⊢
  induction streams with
  | nil => cases found
  | cons head rest induction =>
      by_cases same : head.id = stream.id
      · simp [same, named]
      · have other : head.name ≠ topic := by
          intro own
          rw [List.find?_cons_of_pos (by simpa using own)] at found
          obtain rfl := Option.some.inj found
          exact same identified.symm
        rw [List.find?_cons_of_neg (by simpa using other)] at found
        rw [List.map_cons, if_neg same, List.find?_cons_of_neg (by simpa using other)]
        exact induction found

/-! ## Names -/

@[simp]
theorem mem_names_subscribe (subscription : Subscription) (stream name : String) :
    name ∈ (store.subscribe subscription).Names stream ↔
      name ∈ store.Names stream ∨
        subscription.stream = stream ∧ subscription.name = name := by
  simp only [Names, subscribe, List.mem_append, List.mem_singleton, Set.mem_ofPred_eq]
  constructor
  · rintro ⟨other, there | rfl, bound⟩
    · exact .inl ⟨other, there, bound⟩
    · exact .inr bound
  · rintro (⟨other, there, bound⟩ | bound)
    · exact ⟨other, .inl there, bound⟩
    · exact ⟨subscription, .inr rfl, bound⟩

/-- Nothing is bound to a fresh id. -/
theorem Fresh.names {id : String} (fresh : store.Fresh id) : store.Names id = ∅ := by
  rw [Set.eq_empty_iff_forall_notMem]
  rintro name ⟨subscription, there, bound, -⟩
  exact fresh.ofSubscriptions subscription there bound

end Store

end TokenRelay
