import TokenRelay.Connector.Client
import TokenRelay.Proofs.Pattern.Plain

/-!
# What the standard condition permits

A transport reports an exchange that failed in words for the kind of mishap, followed by the
words of the failure itself.  The standard condition is a plain pattern.  It knows timeouts and
failures to connect by their kind, and of all other mishaps it permits those whose own words
it matches.
-/

namespace TokenRelay

/-- Why an exchange with a connector failed. -/
inductive Mishap where
  | timeout
  | unconnected
  | other

namespace Mishap

def words : Mishap → String
  | .timeout => "request timed out"
  | .unconnected => "connection error"
  | .other => "request error"

/-- What a transport reports, with the words of the failure itself. -/
def report (mishap : Mishap) (detail : String) : TransportError :=
  .http (mishap.words ++ ": " ++ detail)

/-- Whether the standard condition knows a mishap by its kind. -/
def isKnown : Mishap → Bool
  | .other => false
  | _ => true

end Mishap

namespace RetryCondition

/-- The standard condition is a plain pattern that knows timeouts and failures to connect. -/
theorem standardText_reads :
    (Pattern.ofText? standardText).any (fun pattern =>
      pattern.isPlain && pattern.avoids ':' && !pattern.canBegin ' ' &&
        [Mishap.timeout, .unconnected, .other].all fun mishap =>
          pattern.matchesIn ("HTTP error: " ++ mishap.words) == mishap.isKnown) = true := by
  decide +kernel

/-- The pattern of the standard condition. -/
structure Standard (pattern : Pattern) : Prop where
  reads : Pattern.ofText? standardText = some pattern
  plain : pattern.isPlain = true
  colon : pattern.avoids ':' = true
  blank : pattern.canBegin ' ' = false
  knows : ∀ mishap : Mishap,
    pattern.matchesIn ("HTTP error: " ++ mishap.words) = mishap.isKnown

theorem exists_standard : ∃ pattern, Standard pattern := by
  obtain ⟨pattern, reads, good⟩ := (Option.any_eq_true _ _).1 standardText_reads
  simp only [Bool.and_eq_true, Bool.not_eq_true', List.all_cons, List.all_nil, beq_iff_eq,
    and_true] at good
  obtain ⟨⟨⟨plain, colon⟩, blank⟩, timeout, unconnected, other⟩ := good
  refine ⟨pattern, reads, plain, colon, blank, ?_⟩
  intro mishap
  cases mishap with
  | timeout => exact timeout
  | unconnected => exact unconnected
  | other => exact other

/-- A report is matched for its kind or for the words of the failure itself. -/
theorem Standard.matchesIn_report {pattern : Pattern} (standard : Standard pattern)
    (mishap : Mishap) (detail : String) :
    pattern.matchesIn (mishap.report detail).message =
      (mishap.isKnown || pattern.matchesIn detail) := by
  have parts : (mishap.report detail).message =
      "HTTP error: " ++ mishap.words ++ ": " ++ detail := by
    show "HTTP error: " ++ (mishap.words ++ ": " ++ detail) = _
    rw [← String.append_assoc, ← String.append_assoc]
  rw [parts, Pattern.matchesIn_colon standard.plain standard.colon standard.blank,
    standard.knows]

end RetryCondition

namespace Client

open RetryCondition (standardText Standard exists_standard)

variable {client : Client}

/-- The client of the standard settings holds the standard pattern against failures. -/
theorem ofSettings_standard_eq {pattern : Pattern} (standard : Standard pattern) :
    ofSettings .standard =
      .ok ⟨RetrySettings.standard.schedule, (RetryCondition.matching pattern).permits⟩ := by
  have condition : RetryCondition.ofSetting standardText = .ok (.matching pattern) := by
    rw [RetryCondition.ofSetting, if_neg (by decide), RetryCondition.ofPattern?,
      standard.reads]
    rfl
  have setting : RetrySettings.standard.condition = standardText := rfl
  rw [ofSettings, setting, condition]

/-- The standard settings make a client, with fifteen attempts for each call. -/
theorem exists_ofSettings_standard :
    ∃ client, ofSettings .standard = .ok client ∧ client.schedule.attempts = 15 := by
  obtain ⟨pattern, standard⟩ := exists_standard
  exact ⟨_, ofSettings_standard_eq standard, rfl⟩

theorem attempts_of_standard (standard : ofSettings .standard = .ok client) :
    client.schedule.attempts = 15 := by
  obtain ⟨other, same, attempts⟩ := exists_ofSettings_standard
  obtain rfl := Except.ok.inj (standard.symm.trans same)
  exact attempts

/-- What the client of the standard settings makes of a report. -/
theorem permits_report (standard : ofSettings .standard = .ok client) (mishap : Mishap)
    (detail : String) :
    client.permits (mishap.report detail) =
      (mishap.isKnown || client.permits (.other detail)) := by
  obtain ⟨pattern, reads⟩ := exists_standard
  obtain rfl := Except.ok.inj (standard.symm.trans (ofSettings_standard_eq reads))
  exact reads.matchesIn_report mishap detail

theorem permits_of_isKnown (standard : ofSettings .standard = .ok client) {mishap : Mishap}
    (known : mishap.isKnown = true) (detail : String) :
    client.permits (mishap.report detail) = true := by
  rw [permits_report standard, known, Bool.true_or]

end Client

end TokenRelay
