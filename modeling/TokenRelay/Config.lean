import TokenRelay.Json.Codec
import TokenRelay.Retry.Condition
import TokenRelay.Retry.Schedule

/-!
# Configuration

The settings of a bridge: the connector and the credentials for it, the topic, the
contract, and how calls are tried again and the feed is kept open.  Durations are
milliseconds.
-/

namespace TokenRelay

/-- How calls of the connector are tried again. -/
structure RetrySettings where
  initialDelay : Nat
  factor : Float
  longestDelay : Nat
  /-- All attempts, the first included. -/
  attempts : Nat
  /-- The pattern of failures worth another attempt; none when empty. -/
  condition : String

namespace RetrySettings

/-- The settings in force where none are given. -/
def standard : RetrySettings :=
  ⟨100, 2.0, 10000, 15, RetryCondition.standardText⟩

/-- The wire form of retry settings. -/
def codec : Codec RetrySettings :=
  (((((Columns.build RetrySettings.mk
    |>.column (.defaulted "initial_delay_ms" standard.initialDelay .word64)
      (·.initialDelay))
    |>.column (.defaulted "factor" standard.factor .real) (·.factor))
    |>.column (.defaulted "max_delay_ms" standard.longestDelay .word64) (·.longestDelay))
    |>.column (.defaulted "max_attempts" standard.attempts .word32) (·.attempts))
    |>.column (.defaulted "condition" standard.condition .text) (·.condition)).codec
    "RetrySettings"

/-- The schedule of the settings; there is always one attempt. -/
def schedule (settings : RetrySettings) : Schedule Float :=
  ⟨max settings.attempts 1, settings.initialDelay, settings.longestDelay,
    settings.factor⟩

end RetrySettings

/-- How the feed is kept open. -/
structure FeedSettings where
  reconnectDelay : Nat
  pingInterval : Nat
  /-- Longer than the ping interval. -/
  pingTimeout : Nat
  deriving DecidableEq

namespace FeedSettings

/-- The settings in force where none are given. -/
def standard : FeedSettings :=
  ⟨5000, 10000, 60000⟩

/-- The wire form of feed settings. -/
def codec : Codec FeedSettings :=
  (((Columns.build FeedSettings.mk
    |>.column (.defaulted "reconnect_delay_ms" standard.reconnectDelay .word64)
      (·.reconnectDelay))
    |>.column (.defaulted "ping_interval_ms" standard.pingInterval .word64)
      (·.pingInterval))
    |>.column (.defaulted "ping_timeout_ms" standard.pingTimeout .word64)
      (·.pingTimeout)).codec "FeedSettings"

end FeedSettings

/-- What the program is configured with. -/
structure Config where
  connectorUrl : String
  username : String
  password : String
  /-- The name of the event stream and the topic of the feed. -/
  topic : String
  /-- What the names of the connector's query parameters begin with. -/
  queryStem : String
  /-- The path of the contract at the connector. -/
  instancePath : String
  autoInit : Bool
  retry : RetrySettings
  feed : FeedSettings

namespace Config

/-- The configuration for a connector with all else as where nothing is given. -/
def ofUrl (url : String) : Config :=
  ⟨url, "", "", "token", "fly", "", true, .standard, .standard⟩

/-- The wire form of a configuration. -/
def codec : Codec Config :=
  (((((((((Columns.build Config.mk
    |>.column (.required "connector_url" .text) (·.connectorUrl))
    |>.column (.defaulted "username" "" .text) (·.username))
    |>.column (.defaulted "password" "" .text) (·.password))
    |>.column (.defaulted "topic" "token" .text) (·.topic))
    |>.column (.defaulted "short_prefix" "fly" .text) (·.queryStem))
    |>.column (.defaulted "instance_path" "" .text) (·.instancePath))
    |>.column (.defaulted "auto_init" true .boolean) (·.autoInit))
    |>.column (.defaulted "retry" .standard RetrySettings.codec) (·.retry))
    |>.column (.defaulted "feed" .standard FeedSettings.codec) (·.feed)).codec
    "BridgeConfig"

/-- A text without the slashes at its end. -/
def trimSlashes (text : String) : List Char :=
  (text.toList.reverse.dropWhile (· = '/')).reverse

/-- The address of the event feed: the connector's, over web sockets. -/
def feedUrl (config : Config) : String :=
  let base := trimSlashes config.connectorUrl
  let socket := match base with
    | 'h' :: 't' :: 't' :: 'p' :: rest => 'w' :: 's' :: rest
    | other => other
  String.ofList (socket ++ ['/', 'w', 's'])

/-- The first fault of a configuration that its wire form does not exclude. -/
def validate (config : Config) : Except ConfigFault Unit :=
  if config.connectorUrl.isEmpty then
    .error .noConnectorUrl
  else if config.topic.isEmpty then
    .error .emptyTopic
  else if config.feed.pingTimeout ≤ config.feed.pingInterval then
    .error (.pingTimeout config.feed.pingTimeout config.feed.pingInterval)
  else if config.retry.factor < 1.0 then
    .error .shrinkingRetry
  else
    .ok ()

end Config

end TokenRelay
