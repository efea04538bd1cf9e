import SafetyBoard.Log
import SafetyBoard.Severity
import SafetyBoard.Refresh.Reason

/-!
Telemetry events: how refreshes ended, and snapshots of the state of a user group.
-/

namespace SafetyBoard

structure SafetyState where
  overallSeverity : OverallSeverity
  openIssueCount : Number
  dismissedIssueCount : Number
  deriving DecidableEq, Repr

structure SourceState where
  sourceId : String
  isUserManaged : Bool
  maxSeverity : Option SourceSeverity
  openIssueCount : Number
  dismissedIssueCount : Number
  deriving DecidableEq, Repr

inductive TelemetryEvent where
  | sourceRefresh (request : RequestType) (source : SourceKey) (durationMs : Number)
      (result : RefreshResult)
  | wholeRefresh (request : RequestType) (durationMs : Number) (result : RefreshResult)
  | refreshSuperseded (request : RequestType) (durationMs : Number) (abandonedSourceCount : Number)
  | safetyState (state : SafetyState)
  | sourceStateCollected (state : SourceState)
  deriving DecidableEq, Repr

namespace TelemetryEvent

def kind : TelemetryEvent → String
  | .sourceRefresh .. => "source_refresh"
  | .wholeRefresh .. => "whole_refresh"
  | .refreshSuperseded .. => "refresh_superseded"
  | .safetyState .. => "safety_state"
  | .sourceStateCollected .. => "source_state_collected"

def fields : TelemetryEvent → LogContext
  | .sourceRefresh request source durationMs result =>
    [("requestType", .string request.name), ("sourceId", .string source.sourceId),
      ("userId", .number source.userId), ("durationMs", .number durationMs),
      ("result", .string result.name)]
  | .wholeRefresh request durationMs result =>
    [("requestType", .string request.name), ("durationMs", .number durationMs),
      ("result", .string result.name)]
  | .refreshSuperseded request durationMs abandoned =>
    [("requestType", .string request.name), ("durationMs", .number durationMs),
      ("abandonedSourceCount", .number abandoned)]
  | .safetyState s =>
    [("overallSeverity", .string s.overallSeverity.name),
      ("openIssueCount", .number s.openIssueCount),
      ("dismissedIssueCount", .number s.dismissedIssueCount)]
  | .sourceStateCollected s =>
    let severity : LogContext := match s.maxSeverity with
      | some severity => [("maxSeverity", .string severity.name)]
      | none => []
    let counts : LogContext := [("openIssueCount", .number s.openIssueCount),
      ("dismissedIssueCount", .number s.dismissedIssueCount)]
    ("sourceId", .string s.sourceId) :: ("isUserManaged", .bool s.isUserManaged) ::
      (severity ++ counts)

def logLine (e : TelemetryEvent) : LogLine := .line .info "Telemetry" e.kind (some e.fields)

end TelemetryEvent

/-- Events in the order in which they were emitted; nothing is kept while telemetry is off. -/
structure EventLog where
  enabled : Bool
  events : List TelemetryEvent
  deriving DecidableEq, Repr

namespace EventLog

def emit (l : EventLog) (e : TelemetryEvent) : EventLog :=
  if l.enabled then { l with events := l.events ++ [e] } else l

def ofKind (l : EventLog) (kind : String) : List TelemetryEvent := l.events.filter (·.kind = kind)

def clear (l : EventLog) : EventLog := { l with events := [] }

end EventLog

end SafetyBoard
