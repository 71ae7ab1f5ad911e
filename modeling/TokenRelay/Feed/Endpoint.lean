import TokenRelay.Feed.Socket
import TokenRelay.Http.Exchange

/-!
# Where the feed is

The feed is served over web sockets at an address of its own, with the credentials of the
connector.  Of the messages that arrive a binary one is read as text.
-/

namespace TokenRelay

/-- The address of the feed and the credentials for it. -/
structure FeedEndpoint where
  url : String
  credentials : Credentials
  deriving DecidableEq

namespace FeedEndpoint

/-- The endpoint of the feed in a configuration. -/
def ofConfig (config : Config) : FeedEndpoint :=
  ⟨config.feedUrl, ⟨config.username, config.password⟩⟩

/-- The header that authorizes the connection. -/
def authorization? (endpoint : FeedEndpoint) : Option String :=
  endpoint.credentials.authorization?

/-- A message as it arrives over the wire. -/
inductive Message where
  | text (value : String)
  | binary (octets : List Nat)
  | ping
  | pong
  | close

/-- The frame of a message; octets are read as text and repaired where they are not. -/
def Message.frame : Message → Frame
  | .text value => .text value
  | .binary octets => .text (String.ofList (Utf8.decodeLossy octets))
  | .ping => .ping
  | .pong => .pong
  | .close => .close

end FeedEndpoint

end TokenRelay
