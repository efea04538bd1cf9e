import SafetyBoard.Settings
import SafetyBoard.Telemetry
import SafetyBoard.Wire.Names

/-!
Telemetry events, error responses, log lines and settings as JSON.
-/

namespace SafetyBoard

open Json (Decode asBool asList asMembers asNumber asString)

def TelemetryEvent.toJson (e : TelemetryEvent) : Json :=
  .object (("kind", .string e.kind) :: e.fields)

def ErrorCategory.members (c : ErrorCategory) : List (Text × Json) :=
  [("category", .string c.name), ("userMessage", .string c.advice.userMessage),
    ("retryable", .bool c.advice.retryable),
    ("suggestedActions", .ofStrings c.advice.suggestedActions), ("errorCode", .string c.code)]

/-- A log line with the time left out: level, text, and what it is about. The record of a failure
is stamped when a fresh correlation id is generated for it. -/
def LogLine.items (l : LogLine) : List Json :=
  let context := match l with
    | .line _ _ _ context => context.map Json.object
    | .failure r context =>
      some (.object [("category", .string r.category.name), ("errorCode", .string r.category.code),
        ("technicalDetails", .string r.details), ("context", .object context),
        ("stamped", .bool r.correlation.isNone)])
  [.string l.level.name, .string l.text] ++ context.toList

def RefreshTimeouts.toJson (t : RefreshTimeouts) : Json :=
  .object (RefreshReason.all.map fun r => (r.name, .number (t.delay r)))

def RefreshTimeouts.ofJson (j : Json) : Decode RefreshTimeouts :=
  return ⟨← j.field asNumber "page_open", ← j.field asNumber "rescan_button",
    ← j.field asNumber "device_reboot", ← j.field asNumber "locale_change",
    ← j.field asNumber "feature_enabled", ← j.field asNumber "other"⟩

def Settings.toJson (s : Settings) : Json :=
  .object [("enabled", .bool s.enabled), ("telemetryEnabled", .bool s.telemetryEnabled),
    ("untrackedSourceIds", .ofStrings s.untrackedSourceIds),
    ("refreshTimeoutsMs", s.timeouts.toJson), ("verboseLogging", .bool s.verboseLogging)]

def Overrides.ofJson (j : Json) : Decode Overrides :=
  return ⟨← j.field? asBool "enabled", ← j.field? asBool "telemetryEnabled",
    ← j.field? (asList asString) "untrackedSourceIds",
    ← j.field? RefreshTimeouts.ofJson "refreshTimeoutsMs", ← j.field? asBool "verboseLogging"⟩

def Environment.ofJson (j : Json) : Decode Environment := do
  (← asMembers j).mapM fun m => return (← asString (.string m.1), ← asString m.2)

end SafetyBoard
