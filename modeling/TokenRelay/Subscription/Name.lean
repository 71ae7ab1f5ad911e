import TokenRelay.Json.Codec

/-!
# Subscription names

A subscription is named `topic:pool` or `topic:pool:event`.  A topic may hold the
delimiter itself, so a name is read by taking off the known topic as a whole; what
follows is split at delimiters, and an empty segment counts as absent.
-/

namespace TokenRelay

/-- What a subscription's name says under a known topic. -/
structure SubscriptionName where
  topic : String
  pool : Option String
  event : Option String
  deriving DecidableEq, Repr

namespace SubscriptionName

/-- The wire form of a name's parts. -/
def codec : Codec SubscriptionName :=
  (((Columns.build SubscriptionName.mk
    |>.column (.required "prefix" .text) (·.topic))
    |>.column (.nullable "pool_id" .text) (·.pool))
    |>.column (.nullable "event" .text) (·.event)).codec "SubscriptionName"

/-- What stands between the segments of a name. -/
def delimiter : Char := ':'

/-- The pool segment of the subscription that exists before any pool is activated. -/
def basePool : String := "base"

/-- The rest of a text after a given start. -/
def stripStart? : List Char → List Char → Option (List Char)
  | [], text => some text
  | _ :: _, [] => none
  | expected :: start, char :: text =>
    if expected = char then stripStart? start text else none

/-- The characters before the first delimiter, and what follows it if there is one. -/
def cutSegment : List Char → List Char × Option (List Char)
  | [] => ([], none)
  | char :: rest =>
    if char = delimiter then
      ([], some rest)
    else
      let (segment, remainder) := cutSegment rest
      (char :: segment, remainder)

/-- A segment, absent when it is empty. -/
def segment? (chars : List Char) : Option String :=
  if chars.isEmpty then none else some (String.ofList chars)

/-- What follows the topic and its delimiter. -/
def afterTopic? (topic name : List Char) : Option (List Char) :=
  match stripStart? topic name with
  | some (char :: rest) => if char = delimiter then some rest else none
  | _ => none

/-- The name for a topic, a pool and perhaps one event of the pool. -/
def pack (topic pool : String) (event : Option String) : String :=
  match event with
  | none => String.ofList (topic.toList ++ delimiter :: pool.toList)
  | some kind =>
    String.ofList
      (topic.toList ++ delimiter :: (pool.toList ++ delimiter :: kind.toList))

/-- Read a name under a topic; a name of another topic has neither pool nor event. -/
def unpack (topic name : String) : SubscriptionName :=
  match afterTopic? topic.toList name.toList with
  | none => ⟨topic, none, none⟩
  | some rest =>
    let (pool, remainder) := cutSegment rest
    let event := match remainder with
      | none => none
      | some tail => segment? (cutSegment tail).1
    ⟨topic, segment? pool, event⟩

/-- Whether the name belongs to another topic or names no pool. -/
def isForeign (name : SubscriptionName) : Bool :=
  name.pool.isNone

/-- Whether the name is that of the base subscription or starts like it. -/
def isBase (name : SubscriptionName) : Bool :=
  name.pool = some basePool

/-- The kind of event that the name stands for: its event segment, or the base. -/
def eventKind (name : SubscriptionName) : Option String :=
  match name.event with
  | some event => some event
  | none => if name.isBase then some basePool else none

end SubscriptionName

end TokenRelay
