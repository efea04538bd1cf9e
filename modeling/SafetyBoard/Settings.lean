import SafetyBoard.Log
import SafetyBoard.Refresh.Reason

/-!
Settings of the hub: defaults, then the environment, then what the embedding program overrides.
-/

namespace SafetyBoard

structure RefreshTimeouts where
  pageOpen : Number
  rescanButton : Number
  deviceReboot : Number
  localeChange : Number
  featureEnabled : Number
  other : Number
  deriving DecidableEq, Repr

namespace RefreshTimeouts

def default : RefreshTimeouts := ⟨15000, 60000, 30000, 30000, 30000, 30000⟩

def same (ms : Number) : RefreshTimeouts := ⟨ms, ms, ms, ms, ms, ms⟩

def delay (t : RefreshTimeouts) : RefreshReason → Number
  | .pageOpen => t.pageOpen
  | .rescanButton => t.rescanButton
  | .deviceReboot => t.deviceReboot
  | .localeChange => t.localeChange
  | .featureEnabled => t.featureEnabled
  | .other => t.other

end RefreshTimeouts

structure Settings where
  enabled : Bool
  telemetryEnabled : Bool
  untrackedSourceIds : List String
  timeouts : RefreshTimeouts
  verboseLogging : Bool
  deriving DecidableEq, Repr

structure Overrides where
  enabled : Option Bool
  telemetryEnabled : Option Bool
  untrackedSourceIds : Option (List String)
  timeouts : Option RefreshTimeouts
  verboseLogging : Option Bool
  deriving DecidableEq, Repr

def Overrides.none : Overrides := ⟨.none, .none, .none, .none, .none⟩

abbrev Environment := List (String × String)

namespace Environment

/-- The text of the timeout variable, unless it is empty. -/
def timeoutText? (env : Environment) : Option String :=
  (env.lookup "SAFETY_HUB_REFRESH_TIMEOUT_MS").filter (· ≠ "")

def isTimeout (ms : Number) : Bool := ms.isWhole && Number.less 0 ms

def timeout? (env : Environment) : Option Number :=
  (env.timeoutText?.map Number.ofSetting).filter isTimeout

def warnings (env : Environment) : List LogLine :=
  match env.timeoutText? with
  | some raw =>
    if isTimeout (Number.ofSetting raw) then []
    else [.line .warn "HubConfig" "Ignoring invalid SAFETY_HUB_REFRESH_TIMEOUT_MS"
      (some [("value", .string raw)])]
  | none => []

def ids (raw : String) : List String :=
  ((raw.splitOn ",").map fun id => String.ofList (Text.trimBlank id.toList)).filter (· ≠ "")

def settings (env : Environment) : Settings where
  enabled := env.lookup "SAFETY_HUB_ENABLED" ≠ some "false"
  telemetryEnabled := env.lookup "SAFETY_HUB_TELEMETRY_ENABLED" ≠ some "false"
  untrackedSourceIds := ids ((env.lookup "SAFETY_HUB_UNTRACKED_SOURCE_IDS").getD "")
  timeouts := (env.timeout?.map RefreshTimeouts.same).getD RefreshTimeouts.default
  verboseLogging := env.lookup "SAFETY_HUB_VERBOSE_LOGGING" = some "true"

end Environment

def Settings.override (s : Settings) (o : Overrides) : Settings where
  enabled := o.enabled.getD s.enabled
  telemetryEnabled := o.telemetryEnabled.getD s.telemetryEnabled
  untrackedSourceIds := o.untrackedSourceIds.getD s.untrackedSourceIds
  timeouts := o.timeouts.getD s.timeouts
  verboseLogging := o.verboseLogging.getD s.verboseLogging

end SafetyBoard
