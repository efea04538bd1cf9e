import SafetyBoard.Hub.Message
import SafetyBoard.Wire.Events
import SafetyBoard.Wire.Views

/-!
What goes in and out of a hub as JSON: messages and operations, requests and answers. How a session
is named is left to the reader of one.
-/

namespace SafetyBoard

open Json (Decode asList asNumber asString)

def RefreshRequest.toJson (r : RefreshRequest) : Json :=
  .object [("sessionId", .string r.sessionId), ("reason", .string r.reason.name),
    ("requestType", .string r.reason.requestType.name), ("sourceId", .string r.sourceId),
    ("packageName", .string r.packageName), ("userId", .number r.userId)]

def MessageOf.ofJson {ι : Type} (session : Json → Decode ι) (j : Json) : Decode (MessageOf ι) := do
  match ← j.field asString "type" with
  | "source_data" =>
    return .sourceData (← j.field SourceKey.ofJson "sourceKey") (← j.member "payload")
      (← j.field? session "session")
  | "source_error" =>
    return .sourceError (← j.field SourceKey.ofJson "sourceKey") (← j.field? session "session")
  | "refresh_timeout" => return .refreshTimeout (← j.field session "session")
  | "user_removed" => return .userRemoved (← j.field asNumber "userId")
  | other => throw ("unknown message type " ++ other)

def OperationOf.ofJson {ι : Type} (session : Json → Decode ι) (name : String) (j : Json) :
    Decode (OperationOf ι) := do
  match name with
  | "refresh" =>
    return .refresh (← j.field RefreshReason.ofJson "reason") (← j.field UserGroup.ofJson "group")
  | "receive" => return .receive (← j.field (MessageOf.ofJson session) "message")
  | "setSourceData" =>
    return .setSourceData (← j.field SourceKey.ofJson "key") (← j.member "payload")
      (← j.field? session "session")
  | "reportSourceError" =>
    return .reportSourceError (← j.field SourceKey.ofJson "key") (← j.field? session "session")
  | "dismissIssue" => return .dismissIssue (← j.field IssueKey.ofJson "issueKey")
  | "executeIssueAction" =>
    return .executeIssueAction (← j.field IssueKey.ofJson "issueKey")
      (← j.field asString "actionId")
  | "clearAllData" => return .clearAllData
  | "clearForUser" => return .clearForUser (← j.field asNumber "userId")
  | "exportIssueRecords" => return .exportRecords
  | "importIssueRecords" =>
    return .importRecords (← j.field (asList PersistedRecord.ofJson) "records")
  | "getView" => return .view (← j.field UserGroup.ofJson "group")
  | "pullSafetyState" =>
    return .pullSafetyState (← j.field (asList UserGroup.ofJson) "groups")
  | "getRefreshStatus" => return .refreshStatus
  | "isEnabled" => return .isEnabled
  | other => throw ("unknown operation " ++ other)

def Snapshot.toJson (s : Snapshot) : Json :=
  .object [("state", (TelemetryEvent.safetyState s.state).toJson),
    ("sources", .array (s.sources.map fun state =>
      (TelemetryEvent.sourceStateCollected state).toJson))]

def Answer.toJson : Answer → Json
  | .nothing => .null
  | .session id => .string id
  | .flag b => .bool b
  | .action a => .ofOption (a.map (·.toJson))
  | .records rs => .array (rs.map (·.toJson))
  | .view v => v.toJson
  | .snapshots ss => .array (ss.map (·.toJson))
  | .status s => .string s.name

end SafetyBoard
