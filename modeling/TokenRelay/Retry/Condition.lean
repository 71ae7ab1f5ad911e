import TokenRelay.Error
import TokenRelay.Pattern.Size

/-!
# Which failures are worth another attempt

A retry condition is a pattern that is held against the words of a failure.  Without
one no failure is worth another attempt.
-/

namespace TokenRelay

/-- Which texts of errors permit another attempt. -/
inductive RetryCondition where
  | never
  | matching (pattern : Pattern)

namespace RetryCondition

/-- Connection failures, timeouts and failures of gateways. -/
def standardText : String :=
  "(?i)(connection|connect error|timed out|ECONN|HTTP 50[234])"

/-- Whether a failure is worth another attempt. -/
def permits : RetryCondition → TransportError → Bool
  | .never, _ => false
  | .matching pattern, error => pattern.matchesIn error.message

/-- The condition of a pattern, unless its text is none. -/
def ofPattern? (text : String) : Option RetryCondition :=
  (Pattern.ofText? text).map .matching

/-- The condition of a setting; the empty text is no condition. -/
def ofSetting (text : String) : Except ConfigFault RetryCondition :=
  if text.isEmpty then
    .ok .never
  else
    match ofPattern? text with
    | some condition => .ok condition
    | none => .error .retryCondition

end RetryCondition

end TokenRelay
