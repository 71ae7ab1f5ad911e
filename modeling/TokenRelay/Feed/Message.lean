import TokenRelay.Event
import TokenRelay.Json.Reader

/-!
# Messages of the feed

A text frame is a batch of chain events if it is a JSON array, and a reply otherwise.
The entries of a batch are read one by one: an entry that is no chain event is dropped,
and a batch without good entries is still a batch.
-/

namespace TokenRelay

/-- What a text frame says. -/
inductive FeedMessage where
  | batch (events : Batch)
  | reply (reply : Reply)

/-- Why a text frame says nothing. -/
inductive FeedFault where
  | text (fault : Json.SyntaxFault)
  | data (fault : DataFault)

namespace FeedMessage

/-- The event of an entry, unless the entry is malformed. -/
def event? (entry : Json) : Option ChainEvent :=
  match ChainEvent.codec.read entry with
  | .ok event => some event
  | .error _ => none

/-- An array is a batch without its malformed entries, and anything else has to be a reply. -/
def ofJson : Json → Except DataFault FeedMessage
  | .array entries => .ok (.batch (entries.filterMap event?))
  | other => (Reply.codec.read other).map .reply

/-- The message in the text of a frame. -/
def parse (text : String) : Except FeedFault FeedMessage :=
  match Json.read text with
  | .error fault => .error (.text fault)
  | .ok value =>
    match ofJson value with
    | .error fault => .error (.data fault)
    | .ok message => .ok message

end FeedMessage

end TokenRelay
