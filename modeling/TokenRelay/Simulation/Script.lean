import TokenRelay.Simulation.Connector
import TokenRelay.Simulation.Peer

/-!
# Scripts in JSON

What a connector does in place of answering, what it holds, and how the peer behaves are
written in JSON.  A field that is missing or null changes nothing; the first field that
cannot be understood is named.
-/

namespace TokenRelay.Simulation.Script

/-- Something read, or the name of the field that cannot be understood. -/
abbrev Reading := Except String

/-- A field that is neither missing nor null. -/
def field? (key : String) (value : Json) : Option Json :=
  match value.field? key with
  | some .null => none
  | found => found

/-- A value as a count. -/
def natural? : Json → Option Nat
  | .integer value => if 0 ≤ value then some value.toNat else none
  | _ => none

/-- The count in a field of an object. -/
def naturalField? (key : String) (value : Json) : Option Nat :=
  (field? key value).bind natural?

/-- The text in a field of an object. -/
def textField? (key : String) (value : Json) : Option String :=
  (field? key value).bind Json.text?

/-- The text in a field that has to be there. -/
def textField (key : String) (value : Json) : Reading String :=
  match textField? key value with
  | some text => .ok text
  | none => .error key

/-- The items of a list in a field; none where it is missing. -/
def items (key : String) (value : Json) : List Json :=
  match field? key value with
  | some (.array found) => found
  | _ => []

/-- Whether a field holds true. -/
def isSet (key : String) (value : Json) : Bool :=
  match field? key value with
  | some (.boolean found) => found
  | _ => false

/-- The fields of the object in a field. -/
def fields? (key : String) (value : Json) : Option (List (String × Json)) :=
  match field? key value with
  | some (.object found) => some found
  | _ => none

/-- The failure of a round trip. -/
def transportError (value : Json) : Reading TransportError := do
  let kind ← textField "kind" value
  let text := (textField? "text" value).getD ""
  match kind with
  | "http" => .ok (.http text)
  | "status" =>
    match naturalField? "status" value with
    | some code => .ok (.status code text)
    | none => .error "status"
  | "websocket" => .ok (.webSocket text)
  | "deserialization" => .ok (.deserialization text)
  | "other" => .ok (.other text)
  | _ => .error "kind"

/-- What the connector does in place of answering; null leaves the answer as it is. -/
def reaction (value : Json) : Reading (Option Reaction) :=
  match value with
  | .null => .ok none
  | _ => do
    let delay := (naturalField? "delay_ms" value).getD 0
    match field? "fail" value, naturalField? "status" value with
    | some failure, _ => do
      let error ← transportError failure
      .ok (some ⟨delay, some (.error error)⟩)
    | none, some status =>
      .ok (some ⟨delay, some (.ok ⟨status, (value.field? "body").getD .null⟩)⟩)
    | none, none => .ok (some ⟨delay, none⟩)

/-- Reactions to requests of one method and path. -/
def fault (value : Json) : Reading Fault := do
  let method ← textField "method" value
  let path ← textField "path" value
  let reactions ← (items "outcomes" value).mapM reaction
  .ok ⟨method, path, reactions⟩

/-- A connector with what a script adds to it or puts in its place. -/
def onConnector (value : Json) (connector : Connector) : Reading Connector := do
  let script ← (items "script" value).mapM reaction
  let faults ← (items "faults" value).mapM fault
  .ok { connector with
    script := connector.script ++ script
    faults := connector.faults ++ faults
    streams := connector.streams ++ items "streams" value
    subscriptions := connector.subscriptions ++ items "subscriptions" value
    receipts := (fields? "receipts" value).getD connector.receipts
    templates := (fields? "uris" value).getD connector.templates
    balance := (field? "balance" value).getD connector.balance }

/-- How an attempt to connect goes; null is one that succeeds at once. -/
def plan (value : Json) : Plan :=
  ⟨(naturalField? "delay_ms" value).getD 0, (field? "fail" value).isSome⟩

/-- A peer with what a script adds to it or puts in its place. -/
def onPeer (value : Json) (peer : Peer) : Peer :=
  { peer with
    answersPings := match field? "auto_pong" value with
      | some (.boolean answers) => answers
      | _ => peer.answersPings
    plans := peer.plans ++ (items "connects" value).map plan
    failing := peer.failing ++ (items "fail_sends" value).filterMap natural? }

/-- The text of a frame: a text as it is, all else as compact JSON. -/
def frameText : Json → String
  | .text value => value
  | other => other.compact

/-- What a script lets arrive. -/
def arrival (value : Json) : Reading Socket.Arrival := do
  match ← textField "frame" value with
  | "text" => .ok (.frame (.text (frameText ((value.field? "text").getD .null))))
  | "ping" => .ok (.frame .ping)
  | "pong" => .ok (.frame .pong)
  | "close" => .ok (.frame .close)
  | "error" => do
    .ok (.failure (← transportError ((value.field? "err").getD .null)))
  | _ => .error "frame"

end TokenRelay.Simulation.Script
