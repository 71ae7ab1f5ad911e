import TokenRelay.Proofs.Stream.Store
import TokenRelay.Stream.Baseline

/-!
# Managing streams at a connector that works

Each task that manages streams and subscriptions is described by what it may come to, the
requests that it makes and the store that it leaves, against a connector that answers
normally.  None of them fails there.
-/

namespace TokenRelay

variable {σ α β : Type} {client : Client} {store after : Store}
  {calls : List (Request × Outcome)}

/-! ## From one store to another -/

/-- What a task may come to against a connector that works, from one store to another. -/
structure Client.Performs (client : Client) (task : Task σ α) (store : Store)
    (calls : List (Request × Outcome)) (result : Except BridgeError α) (after : Store) :
    Prop where
  completes : client.Completes task calls result
  serves : store.Serves calls after

namespace Client

theorem Performs.of_pure {value : α} {result : Except BridgeError α}
    (performs : client.Performs (pure value : Task σ α) store calls result after) :
    result = .ok value ∧ calls = [] ∧ after = store := by
  rcases (completes_pure_iff _ _ _ _).1 performs.completes with ⟨rfl, rfl⟩
  exact ⟨rfl, rfl, Store.serves_nil_iff.1 performs.serves⟩

/-- A composed task goes through a store in between. -/
theorem Performs.of_bind {task : Task σ α} {next : α → Task σ β}
    {result : Except BridgeError β}
    (performs : client.Performs (task >>= next) store calls result after) :
    ∃ found first later middle, client.Performs task store first found middle ∧
      client.Performs (Task.resume next found) middle later result after ∧
      calls = first ++ later := by
  rcases (completes_bind_iff _ _ _ _ _).1 performs.completes with
    ⟨found, first, later, starts, follows, rfl⟩
  rcases Store.serves_append_iff.1 performs.serves with ⟨middle, before, rest⟩
  exact ⟨found, first, later, middle, ⟨starts, before⟩, ⟨follows, rest⟩, rfl⟩

theorem Performs.of_send {request : Request} {result : Except BridgeError Response}
    (performs : client.Performs (Task.send request : Task σ Response) store calls result
      after) :
    ∃ outcome response, result = .ok response ∧ calls = [(request, outcome)] ∧
      store.Answers request outcome after := by
  rcases (completes_send_iff _ _ _ _).1 performs.completes with ⟨response, -, rfl, rfl⟩
  rcases Store.serves_cons_iff.1 performs.serves with ⟨_, answers, ends⟩
  obtain rfl := Store.serves_nil_iff.1 ends
  exact ⟨.ok response, response, rfl, rfl, answers⟩

/-- A call for something comes to whatever the answer gives. -/
theorem Performs.of_sendFor {codec : Codec α} {request : Request}
    {result : Except BridgeError α}
    (performs : client.Performs (Task.sendFor codec request : Task σ α) store calls result
      after) :
    ∃ outcome, calls = [(request, outcome)] ∧ store.Answers request outcome after ∧
      ∀ value, outcome.Gives codec value → result = .ok value := by
  rcases (completes_sendFor_iff _ _ _ _ _).1 performs.completes with ⟨response, -, rfl, rfl⟩
  rcases Store.serves_cons_iff.1 performs.serves with ⟨_, answers, ends⟩
  obtain rfl := Store.serves_nil_iff.1 ends
  refine ⟨.ok response, rfl, answers, ?_⟩
  rintro value ⟨_, equal, -, reads⟩
  obtain rfl := Except.ok.inj equal
  rw [reads]
  rfl

end Client

namespace Stream

open Client (Performs)

/-- The requests of a log. -/
def requests (calls : List (Request × Outcome)) : List Request :=
  calls.map Prod.fst

@[simp]
theorem requests_append (calls later : List (Request × Outcome)) :
    requests (calls ++ later) = requests calls ++ requests later :=
  List.map_append

/-! ## Reading -/

/-- The request for all streams. -/
def listStreams : Request :=
  .get "/eventstreams" []

/-- The request for all subscriptions. -/
def listSubscriptions : Request :=
  .get "/subscriptions" []

theorem performs_getStreams {result : Except BridgeError (List EventStream)}
    (performs : client.Performs (getStreams : Task σ _) store calls result after) :
    result = .ok store.streams ∧ requests calls = [listStreams] ∧ after = store := by
  rcases performs.of_sendFor with ⟨outcome, rfl, answers, reads⟩
  rcases answers.of_streams with ⟨gives, unchanged⟩
  exact ⟨reads _ gives, rfl, unchanged⟩

theorem performs_findStream {topic : String} {result : Except BridgeError (Option EventStream)}
    (performs : client.Performs (findStream topic : Task σ _) store calls result after) :
    result = .ok (store.topicStream? topic) ∧ requests calls = [listStreams] ∧
      after = store := by
  rcases performs.of_bind with ⟨found, first, later, middle, lists, ends, rfl⟩
  rcases performs_getStreams lists with ⟨rfl, asked, rfl⟩
  rcases ends.of_pure with ⟨rfl, rfl, rfl⟩
  exact ⟨rfl, by simpa using asked, rfl⟩

theorem performs_getSubscriptions {result : Except BridgeError (List Subscription)}
    (performs : client.Performs (getSubscriptions : Task σ _) store calls result after) :
    result = .ok store.subscriptions ∧ requests calls = [listSubscriptions] ∧
      after = store := by
  rcases performs.of_sendFor with ⟨outcome, rfl, answers, reads⟩
  rcases answers.of_subscriptions with ⟨gives, unchanged⟩
  exact ⟨reads _ gives, rfl, unchanged⟩

/-! ## Streams -/

theorem performs_deleteStream {id : String} {result : Except BridgeError Unit}
    (performs : client.Performs (deleteStream id : Task σ Unit) store calls result after) :
    result = .ok () ∧ requests calls = [.delete ("/eventstreams/" ++ id)] ∧
      after = store.removeStream id := by
  rcases performs.of_bind with ⟨found, first, later, middle, sends, ends, rfl⟩
  rcases sends.of_send with ⟨outcome, response, rfl, rfl, answers⟩
  obtain rfl := answers.of_delete
  rcases ends.of_pure with ⟨rfl, rfl, rfl⟩
  exact ⟨rfl, rfl, rfl⟩

/-- What the stream of a topic comes to: the one that is there, patched, or a new one. -/
inductive Settles (store : Store) (topic : String) :
    EventStream → List Request → Store → Prop where
  | patched {existing stream : EventStream} (found : store.topicStream? topic = some existing)
      (identified : stream.id = existing.id) (named : stream.name = topic) :
      Settles store topic stream
        [listStreams, .patch ("/eventstreams/" ++ existing.id) (details topic)]
        (store.replaceStream stream)
  | created {stream : EventStream} (vacant : store.topicStream? topic = none)
      (fresh : store.Fresh stream.id) (named : stream.name = topic) :
      Settles store topic stream [listStreams, .post "/eventstreams" [] (details topic)]
        (store.addStream stream)

theorem performs_createOrUpdate {topic : String} {result : Except BridgeError EventStream}
    (performs : client.Performs (createOrUpdate topic : Task σ _) store calls result after) :
    ∃ stream, result = .ok stream ∧ Settles store topic stream (requests calls) after := by
  rcases performs.of_bind with ⟨found, first, later, middle, lists, follows, rfl⟩
  rcases performs_findStream lists with ⟨rfl, asked, rfl⟩
  rw [requests_append, asked]
  rw [Task.resume] at follows
  cases there : middle.topicStream? topic with
  | some existing =>
      rw [there] at follows
      rcases follows.of_sendFor with ⟨outcome, rfl, answers, reads⟩
      rcases answers.of_patch with ⟨stream, identified, named, gives, rfl⟩
      exact ⟨stream, reads _ gives, .patched there identified named⟩
  | none =>
      rw [there] at follows
      rcases follows.of_sendFor with ⟨outcome, rfl, answers, reads⟩
      rcases answers.of_create with ⟨stream, named, fresh, gives, rfl⟩
      exact ⟨stream, reads _ gives, .created there fresh named⟩

theorem Settles.topicStream? {topic : String} {stream : EventStream} {asked : List Request}
    (settles : Settles store topic stream asked after) :
    after.topicStream? topic = some stream := by
  cases settles with
  | patched found identified named =>
      exact Store.topicStream?_replaceStream found identified named
  | created vacant _ named => exact Store.topicStream?_addStream vacant named

theorem Settles.subscriptions {topic : String} {stream : EventStream} {asked : List Request}
    (settles : Settles store topic stream asked after) :
    after.subscriptions = store.subscriptions := by
  cases settles <;> rfl

/-! ## Subscriptions -/

theorem Wish.isMetBy_iff (wish : Wish) (subscription : Subscription) :
    wish.isMetBy subscription = true ↔
      subscription.name = wish.name ∧ subscription.stream = wish.stream := by
  simp [isMetBy]

/-- How a wish is met: by a subscription that was listed, or by one that is made. -/
inductive Meets (wish : Wish) : List (Request × Outcome) → Subscription → Prop where
  | listed {listing : Outcome} {known : List Subscription} {subscription : Subscription}
      (gives : listing.Gives (.list Subscription.codec) known)
      (member : subscription ∈ known) (met : wish.isMetBy subscription = true) :
      Meets wish [(listSubscriptions, listing)] subscription
  | made {listing outcome : Outcome} {known : List Subscription} {subscription : Subscription}
      (gives : listing.Gives (.list Subscription.codec) known)
      (unmet : ∀ other ∈ known, ¬ wish.isMetBy other = true)
      (makes : outcome.Gives Subscription.codec subscription) :
      Meets wish [(listSubscriptions, listing), (wish.request, outcome)] subscription

/-- Whatever others do in between, a wish that is met is met in one of two ways. -/
theorem meets_of_completes {wish : Wish} {subscription : Subscription}
    (completes : client.Completes (getOrCreateSubscription wish : Task σ _) calls
      (.ok subscription)) :
    Meets wish calls subscription := by
  rcases (Client.completes_bind_ok_iff _ _ _ _ _).1 completes with
    ⟨known, first, later, lists, follows, rfl⟩
  rcases (Client.completes_sendFor_ok_iff _ _ _ _ _).1 lists with ⟨listing, gives, rfl⟩
  cases there : known.find? wish.isMetBy with
  | some existing =>
      rw [there] at follows
      rcases (Client.completes_pure_iff _ _ _ _).1 follows with ⟨rfl, equal⟩
      cases equal
      exact .listed gives (List.mem_of_find?_eq_some there) (List.find?_some there)
  | none =>
      rw [there] at follows
      rcases (Client.completes_sendFor_ok_iff _ _ _ _ _).1 follows with ⟨outcome, makes, rfl⟩
      exact .made gives (List.find?_eq_none.1 there) makes

/-- How a wish is fulfilled in a store: by what is there, or by a new subscription. -/
inductive Fulfils (store : Store) (wish : Wish) : Subscription → List Request → Store → Prop
    where
  | found {subscription : Subscription}
      (there : store.subscriptions.find? wish.isMetBy = some subscription) :
      Fulfils store wish subscription [listSubscriptions] store
  | made {id : String} (unmet : store.subscriptions.find? wish.isMetBy = none)
      (fresh : ∀ subscription ∈ store.subscriptions, subscription.id ≠ id) :
      Fulfils store wish (wish.made id) [listSubscriptions, wish.request]
        (store.subscribe (wish.made id))

theorem performs_getOrCreateSubscription {wish : Wish} {result : Except BridgeError Subscription}
    (performs : client.Performs (getOrCreateSubscription wish : Task σ _) store calls result
      after) :
    ∃ subscription, result = .ok subscription ∧
      Fulfils store wish subscription (requests calls) after := by
  rcases performs.of_bind with ⟨found, first, later, middle, lists, follows, rfl⟩
  rcases performs_getSubscriptions lists with ⟨rfl, asked, rfl⟩
  rw [requests_append, asked]
  rw [Task.resume] at follows
  cases there : middle.subscriptions.find? wish.isMetBy with
  | some existing =>
      rw [there] at follows
      rcases follows.of_pure with ⟨rfl, rfl, rfl⟩
      exact ⟨existing, rfl, .found there⟩
  | none =>
      rw [there] at follows
      rcases follows.of_sendFor with ⟨outcome, rfl, answers, reads⟩
      rcases answers.of_wish with ⟨id, fresh, gives, rfl⟩
      exact ⟨wish.made id, reads _ gives, .made there fresh⟩

section Fulfils

variable {wish : Wish} {subscription : Subscription} {asked : List Request}

theorem Fulfils.streams (fulfils : Fulfils store wish subscription asked after) :
    after.streams = store.streams := by
  cases fulfils <;> rfl

/-- A fulfilled wish adds its name to its stream and no other. -/
theorem Fulfils.mem_names_iff (fulfils : Fulfils store wish subscription asked after)
    (stream name : String) :
    name ∈ after.Names stream ↔
      name ∈ store.Names stream ∨ wish.stream = stream ∧ wish.name = name := by
  cases fulfils with
  | found there =>
      constructor
      · exact .inl
      · rintro (known | ⟨rfl, rfl⟩)
        · exact known
        · rcases (wish.isMetBy_iff _).1 (List.find?_some there) with ⟨named, bound⟩
          exact ⟨_, List.mem_of_find?_eq_some there, bound, named⟩
  | made unmet fresh => exact Store.mem_names_subscribe _ _ _

end Fulfils

/-! ## The baseline -/

/-- How a baseline is made: the topic's stream is settled and its base wish fulfilled. -/
inductive Begins (store : Store) (topic instancePath : String) (stream : EventStream) :
    List Request → Store → Prop where
  | steps {subscription : Subscription} {middle after : Store} {first more : List Request}
      (settles : Settles store topic stream first middle)
      (fulfils :
        Fulfils middle (baseWish topic instancePath stream.id) subscription more after) :
      Begins store topic instancePath stream (first ++ more) after

theorem performs_init {topic instancePath : String} {result : Except BridgeError EventStream}
    (performs : client.Performs (init topic instancePath : Task σ _) store calls result
      after) :
    ∃ stream, result = .ok stream ∧
      Begins store topic instancePath stream (requests calls) after := by
  rcases performs.of_bind with ⟨found, first, later, middle, creates, follows, rfl⟩
  rcases performs_createOrUpdate creates with ⟨stream, rfl, settles⟩
  rcases follows.of_bind with ⟨found, second, last, _, subscribes, ends, rfl⟩
  rcases performs_getOrCreateSubscription subscribes with ⟨subscription, rfl, fulfils⟩
  rcases ends.of_pure with ⟨rfl, rfl, rfl⟩
  rw [List.append_nil, requests_append]
  exact ⟨stream, rfl, .steps settles fulfils⟩

section Begins

variable {topic instancePath : String} {stream : EventStream} {asked : List Request}

theorem Begins.topicStream? (begins : Begins store topic instancePath stream asked after) :
    after.topicStream? topic = some stream := by
  rcases begins with ⟨settles, fulfils⟩
  rw [Store.topicStream?, fulfils.streams]
  exact settles.topicStream?

theorem Begins.mem_names_iff (begins : Begins store topic instancePath stream asked after)
    (bound name : String) :
    name ∈ after.Names bound ↔ name ∈ store.Names bound ∨
      stream.id = bound ∧ SubscriptionName.pack topic SubscriptionName.basePool none = name := by
  rcases begins with ⟨settles, fulfils⟩
  rw [fulfils.mem_names_iff, Store.Names, settles.subscriptions]
  rfl

/-- A baseline that starts from nothing has the base subscription alone. -/
theorem Begins.names_of_vacant (begins : Begins store topic instancePath stream asked after)
    (vacant : store.topicStream? topic = none) :
    after.Names stream.id = {SubscriptionName.pack topic SubscriptionName.basePool none} := by
  have unbound : store.Names stream.id = ∅ := by
    rcases begins with ⟨settles, -⟩
    cases settles with
    | patched found =>
        rw [vacant] at found
        cases found
    | created _ fresh => exact fresh.names
  ext name
  rw [begins.mem_names_iff, unbound]
  simp [eq_comm]

end Begins

end Stream

end TokenRelay
