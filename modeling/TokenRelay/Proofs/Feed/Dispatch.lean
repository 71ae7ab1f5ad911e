import TokenRelay.Proofs.Feed.Run

/-!
# What a feed dispatches

Text frames that come to a live session are sorted one by one.  An array is a batch of those
of its entries that are events, any other value that is a reply goes with the replies, and
all other texts are passed over.  `Sifts` says what is kept of the entries of an array, and
`Sorts` what comes of texts that arrive one after another; neither mentions the socket.

Nothing else that happens to a socket dispatches anything, and a text never ends a session.
So what a run has dispatched, over any number of connections, is what comes of its texts.
-/

namespace TokenRelay

/-! ## Entries of an array -/

/-- The entries that are events are kept, in order, and the others are dropped. -/
inductive Sifts : List Json → Batch → Prop where
  | nil : Sifts [] []
  | kept {entry : Json} {event : ChainEvent} {rest : List Json} {others : Batch}
      (reads : ChainEvent.codec.read entry = .ok event) (sifts : Sifts rest others) :
      Sifts (entry :: rest) (event :: others)
  | dropped {entry : Json} {fault : DataFault} {rest : List Json} {others : Batch}
      (refuses : ChainEvent.codec.read entry = .error fault) (sifts : Sifts rest others) :
      Sifts (entry :: rest) others

/-- What an entry adds to its batch: one event or none. -/
def eventsOf (entry : Json) : Batch :=
  match ChainEvent.codec.read entry with
  | .ok event => [event]
  | .error _ => []

theorem event?_toList (entry : Json) : (FeedMessage.event? entry).toList = eventsOf entry := by
  unfold FeedMessage.event? eventsOf
  cases ChainEvent.codec.read entry <;> rfl

/-- What is kept of entries is what they add one by one. -/
theorem sifts_iff_flatMap {entries : List Json} {events : Batch} :
    Sifts entries events ↔ events = entries.flatMap eventsOf := by
  constructor
  · intro sifts
    induction sifts with
    | nil => rfl
    | kept reads sifts induction => simp [eventsOf, reads, induction]
    | dropped refuses sifts induction => simp [eventsOf, refuses, induction]
  · rintro rfl
    induction entries with
    | nil => exact .nil
    | cons entry rest induction =>
        rw [List.flatMap_cons]
        cases read : ChainEvent.codec.read entry with
        | ok event =>
            have one : eventsOf entry = [event] := by simp [eventsOf, read]
            rw [one]
            exact .kept read induction
        | error fault =>
            have none : eventsOf entry = [] := by simp [eventsOf, read]
            rw [none]
            exact .dropped read induction

/-- An array is a batch of what is kept of its entries. -/
theorem sifts_filterMap (entries : List Json) :
    Sifts entries (entries.filterMap FeedMessage.event?) := by
  rw [sifts_iff_flatMap, List.filterMap_eq_flatMap_toList]
  exact congrArg entries.flatMap (funext event?_toList)

/-- An entry adds the same to its batch whatever stands before and after it. -/
theorem sifts_around_iff (before : List Json) (entry : Json) (after : List Json)
    (events : Batch) :
    Sifts (before ++ entry :: after) events ↔
      ∃ first last, Sifts before first ∧ Sifts after last ∧
        events = first ++ eventsOf entry ++ last := by
  simp [sifts_iff_flatMap, List.flatMap_append]

/-! ## Texts -/

/-- Whether a value is an array. -/
def Json.isArray : Json → Bool
  | .array _ => true
  | _ => false

/-- What comes of texts one after another: the batches and the replies. -/
inductive Sorts : List String → List Batch → List Reply → Prop where
  | nil : Sorts [] [] []
  | batch {text : String} {entries : List Json} {events : Batch} {rest : List String}
      {batches : List Batch} {replies : List Reply}
      (reads : Json.read text = .ok (.array entries)) (sifts : Sifts entries events)
      (sorts : Sorts rest batches replies) :
      Sorts (text :: rest) (events :: batches) replies
  | reply {text : String} {value : Json} {reply : Reply} {rest : List String}
      {batches : List Batch} {replies : List Reply}
      (reads : Json.read text = .ok value) (other : value.isArray = false)
      (answers : Reply.codec.read value = .ok reply) (sorts : Sorts rest batches replies) :
      Sorts (text :: rest) batches (reply :: replies)
  | refused {text : String} {value : Json} {fault : DataFault} {rest : List String}
      {batches : List Batch} {replies : List Reply}
      (reads : Json.read text = .ok value) (other : value.isArray = false)
      (refuses : Reply.codec.read value = .error fault)
      (sorts : Sorts rest batches replies) :
      Sorts (text :: rest) batches replies
  | unread {text : String} {fault : Json.SyntaxFault} {rest : List String}
      {batches : List Batch} {replies : List Reply}
      (refuses : Json.read text = .error fault) (sorts : Sorts rest batches replies) :
      Sorts (text :: rest) batches replies

theorem Sorts.append {texts others : List String} {batches more : List Batch}
    {replies further : List Reply} (first : Sorts texts batches replies)
    (second : Sorts others more further) :
    Sorts (texts ++ others) (batches ++ more) (replies ++ further) := by
  induction first with
  | nil => exact second
  | batch reads sifts sorts induction => exact .batch reads sifts induction
  | reply reads other answers sorts induction => exact .reply reads other answers induction
  | refused reads other refuses sorts induction =>
      exact .refused reads other refuses induction
  | unread refuses sorts induction => exact .unread refuses induction

/-- No array is refused as a message. -/
theorem parse_of_array {text : String} {entries : List Json}
    (reads : Json.read text = .ok (.array entries)) :
    FeedMessage.parse text = .ok (.batch (entries.filterMap FeedMessage.event?)) := by
  rw [FeedMessage.parse, reads]
  rfl

theorem ofJson_of_not_isArray {value : Json} (other : value.isArray = false) :
    FeedMessage.ofJson value = (Reply.codec.read value).map .reply := by
  cases value with
  | array entries => cases other
  | _ => rfl

namespace Socket

/-- The batch that an action dispatches. -/
def Action.batch? : Action → Option Batch
  | .batch events => some events
  | _ => none

/-- The reply that an action dispatches. -/
def Action.reply? : Action → Option Reply
  | .reply answer => some answer
  | _ => none

/-- The batches that are dispatched, in order. -/
def batches (actions : List Action) : List Batch :=
  actions.filterMap Action.batch?

/-- The replies that are dispatched, in order. -/
def replies (actions : List Action) : List Reply :=
  actions.filterMap Action.reply?

/-- The text of a frame that arrives. -/
def Input.text? : Input → Option String
  | .arrived (.frame (.text text)) => some text
  | _ => none

/-- The texts that arrived, in order. -/
def texts (history : List Moment) : List String :=
  history.filterMap (·.input.text?)

theorem texts_concat (history : List Moment) (moment : Moment) :
    texts (history ++ [moment]) = texts history ++ moment.input.text?.toList := by
  cases shown : moment.input.text? <;> simp [texts, shown]

/-- What is dispatched of one text is what comes of it. -/
theorem sorts_dispatch (text : String) :
    Sorts [text] (batches (dispatch text)) (replies (dispatch text)) := by
  cases read : Json.read text with
  | error fault =>
      have nothing : dispatch text = [] := by simp [dispatch, FeedMessage.parse, read]
      rw [nothing]
      exact .unread read .nil
  | ok value =>
      cases array : value.isArray with
      | true =>
          cases value with
          | array entries =>
              have one : dispatch text =
                  [.batch (entries.filterMap FeedMessage.event?)] := by
                rw [dispatch, parse_of_array read]
              rw [one]
              exact .batch read (sifts_filterMap entries) .nil
          | _ => cases array
      | false =>
          cases answer : Reply.codec.read value with
          | ok reply =>
              have one : dispatch text = [.reply reply] := by
                simp [dispatch, FeedMessage.parse, read, ofJson_of_not_isArray array, answer,
                  Except.map]
              rw [one]
              exact .reply read array answer .nil
          | error fault =>
              have nothing : dispatch text = [] := by
                simp [dispatch, FeedMessage.parse, read, ofJson_of_not_isArray array, answer,
                  Except.map]
              rw [nothing]
              exact .refused read array answer .nil

/-! ## Runs -/

variable {settings : SocketSettings} {clock : Phase → Nat → Prop} {log : List Event}
  {phase next : Phase} {input : Input} {actions : List Action} {queue : List Command}
  {now : Nat}

/-- A transition dispatches what comes of the text that arrives in it, if one does. -/
theorem Transition.sorts (does : Transition settings now phase input next actions) :
    Sorts input.text?.toList (batches actions) (replies actions) := by
  cases does with
  | dispatches keepalive text => exact sorts_dispatch text
  | @left keepalive arrival last =>
      rcases arrival with frame | failure | -
      · cases frame with
        | close => exact .nil
        | _ => cases last
      · exact .nil
      · exact .nil
  | _ => exact .nil

theorem Run.sorts (run : Run settings clock log phase queue now) :
    Sorts (texts (moments log)) (batches (actionsOf (moments log)))
      (replies (actionsOf (moments log))) := by
  apply run.induct fun history _ _ =>
    Sorts (texts history) (batches (actionsOf history)) (replies (actionsOf history))
  · intro now
    exact .nil
  · intro history phase now input next actions sorts possible
    have more := sorts.append (transition_of_step possible).sorts
    rw [actionsOf_concat, batches, replies, List.filterMap_append, List.filterMap_append,
      texts_concat]
    exact more
  · intro history phase now later sorts forward permitted
    exact sorts

/-- A text is taken by a live session, and leaves it as it was. -/
theorem Transition.keepsLive {text : String}
    (does : Transition settings now phase (.arrived (.frame (.text text))) next actions) :
    ∃ keepalive, phase = .live keepalive ∧ next = .live keepalive := by
  cases does with
  | dispatches keepalive text => exact ⟨keepalive, rfl, rfl⟩
  | left keepalive last => cases last

/-- What the dispatching of a run keeps to. -/
structure DispatchesAll (settings : SocketSettings) (clock : Phase → Nat → Prop)
    (log : List Event) : Prop where
  /-- What was dispatched is what comes of the texts that arrived, on all connections. -/
  sorted : Sorts (texts (moments log)) (batches (actionsOf (moments log)))
    (replies (actionsOf (moments log)))
  /-- Each text dispatches what comes of it alone, and the session goes on unchanged. -/
  going : ∀ before moment after text, moments log = before ++ moment :: after →
    moment.input = .arrived (.frame (.text text)) →
      Sorts [text] (batches moment.actions) (replies moment.actions) ∧
        ∃ earlier keepalive queue, moments earlier = before ∧
          Run settings clock earlier (.live keepalive) queue moment.instant ∧
          Run settings clock (earlier ++ [.taken moment]) (.live keepalive) queue
            moment.instant
  /-- No array that the reader accepts is refused: its batch is what is kept of its entries.
  The reader refuses a whole text with a number out of range or nested too deep in it. -/
  arrays : ∀ text entries, Json.read text = .ok (.array entries) →
    ∃ events, FeedMessage.parse text = .ok (.batch events) ∧ Sifts entries events
  /-- Whether an entry is kept does not depend on the others. -/
  apart : ∀ before entry after events, Sifts (before ++ entry :: after) events ↔
    ∃ first last, Sifts before first ∧ Sifts after last ∧
      events = first ++ eventsOf entry ++ last

/-- A run dispatches of its texts all that there is in them, once and in order. -/
theorem dispatchesAll_of_run (run : Run settings clock log phase queue now) :
    DispatchesAll settings clock log where
  sorted := run.sorts
  going := by
    rintro before ⟨instant, input, actions⟩ after text split rfl
    obtain ⟨earlier, phase, next, queue, shorter, same, possible⟩ := run.exists_step split
    have does := transition_of_step possible
    obtain ⟨keepalive, rfl, rfl⟩ := does.keepsLive
    exact ⟨does.sorts, earlier, keepalive, queue, same, shorter,
      shorter.take (.other queue rfl) possible⟩
  arrays := fun text entries reads =>
    ⟨_, parse_of_array reads, sifts_filterMap entries⟩
  apart := sifts_around_iff

/-- An array of an event by position, an entry that is no event, and an event by key. -/
def mixedText : String :=
  "[[\"a\",\"S\",\"\",\"1\",\"0\",\"0x1\"],7,\x7b\"subId\":\"b\",\"signature\":\"S\"," ++
    "\"blockNumber\":\"2\",\"transactionIndex\":\"0\",\"transactionHash\":\"0x2\"\x7d]"

/-- The text of a reply to an operation that succeeded. -/
def replyText : String :=
  "\x7b\"headers\":\x7b\"type\":\"TransactionSuccess\",\"requestId\":\"r\"\x7d\x7d"

/-- A batch, a text that says nothing and a reply; and on a second connection an empty batch. -/
def chattyLog : List Event :=
  [.taken ⟨0, .start, dial.2⟩,
    .taken ⟨0, .connected, [.send (.text (listenFrame "tok"))]⟩,
    .taken ⟨0, .sent, [.send (.text listenRepliesFrame)]⟩,
    .taken ⟨0, .sent, [.publish .connected, .send .ping]⟩,
    .taken ⟨0, .sent, []⟩,
    .taken ⟨1, .arrived (.frame (.text mixedText)), dispatch mixedText⟩,
    .taken ⟨1, .arrived (.frame (.text "no message")), dispatch "no message"⟩,
    .taken ⟨1, .arrived (.frame (.text replyText)), dispatch replyText⟩,
    .taken ⟨2, .arrived .ended, [.release, .publish .reconnectWait]⟩,
    .taken ⟨7, .delayOver, dial.2⟩,
    .taken ⟨7, .connected, [.send (.text (listenFrame "tok"))]⟩,
    .taken ⟨7, .sent, [.send (.text listenRepliesFrame)]⟩,
    .taken ⟨7, .sent, [.publish .connected, .send .ping]⟩,
    .taken ⟨7, .sent, []⟩,
    .taken ⟨8, .arrived (.frame (.text "[7]")), dispatch "[7]"⟩]

/-- Two batches are dispatched, the second one empty, and one reply. -/
theorem dispatchesAll_of_two_connections :
    Run briskSettings AnyTime chattyLog (.live ⟨.idle, .arm 7 60⟩) [] 8 ∧
      DispatchesAll briskSettings AnyTime chattyLog ∧
      (batches (actionsOf (moments chattyLog))).map (·.map ChainEvent.subscription) =
        [["a", "b"], []] ∧
      replies (actionsOf (moments chattyLog)) =
        [⟨⟨"TransactionSuccess", "r"⟩, none, none⟩] := by
  have started : Run briskSettings AnyTime (chattyLog.take 1) .connecting [] 0 :=
    .take (.start 0) (.other _ rfl) rfl
  have connected : Run briskSettings AnyTime (chattyLog.take 2)
      (.greeting [listenRepliesFrame]) [] 0 := .take started (.other _ rfl) rfl
  have listening : Run briskSettings AnyTime (chattyLog.take 3) (.greeting []) [] 0 :=
    .take connected (.other _ rfl) rfl
  have greeted : Run briskSettings AnyTime (chattyLog.take 4) .firstPing [] 0 :=
    .take listening (.other _ rfl) rfl
  have live : Run briskSettings AnyTime (chattyLog.take 5) (.live ⟨.idle, .arm 0 60⟩) [] 0 :=
    .take greeted (.other _ rfl) rfl
  have batch : Run briskSettings AnyTime (chattyLog.take 6) (.live ⟨.idle, .arm 0 60⟩) [] 1 :=
    .take (live.pass 1 (by decide) trivial) (.other _ rfl) rfl
  have nothing : Run briskSettings AnyTime (chattyLog.take 7)
      (.live ⟨.idle, .arm 0 60⟩) [] 1 := .take batch (.other _ rfl) rfl
  have reply : Run briskSettings AnyTime (chattyLog.take 8)
      (.live ⟨.idle, .arm 0 60⟩) [] 1 := .take nothing (.other _ rfl) rfl
  have lost : Run briskSettings AnyTime (chattyLog.take 9) (.waiting 7) [] 2 :=
    .take (reply.pass 2 (by decide) trivial) (.other _ rfl) rfl
  have redialled : Run briskSettings AnyTime (chattyLog.take 10) .connecting [] 7 :=
    .take (lost.pass 7 (by decide) trivial) (.other _ rfl) rfl
  have restored : Run briskSettings AnyTime (chattyLog.take 11)
      (.greeting [listenRepliesFrame]) [] 7 := .take redialled (.other _ rfl) rfl
  have relistening : Run briskSettings AnyTime (chattyLog.take 12) (.greeting []) [] 7 :=
    .take restored (.other _ rfl) rfl
  have regreeted : Run briskSettings AnyTime (chattyLog.take 13) .firstPing [] 7 :=
    .take relistening (.other _ rfl) rfl
  have relive : Run briskSettings AnyTime (chattyLog.take 14)
      (.live ⟨.idle, .arm 7 60⟩) [] 7 := .take regreeted (.other _ rfl) rfl
  have empty : Run briskSettings AnyTime chattyLog (.live ⟨.idle, .arm 7 60⟩) [] 8 :=
    .take (relive.pass 8 (by decide) trivial) (.other _ rfl) rfl
  exact ⟨empty, dispatchesAll_of_run empty, by decide +kernel, by decide +kernel⟩

end Socket

end TokenRelay
