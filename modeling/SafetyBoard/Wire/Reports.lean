import SafetyBoard.Dismissal.Basic
import SafetyBoard.Wire.Keys
import SafetyBoard.Wire.Names

/-!
Reports and the records of dismissed issues as JSON. A moment in time is a number of milliseconds.
-/

namespace SafetyBoard

open Json (Decode asBool asList asNumber asText)

def IssueAction.toJson (a : IssueAction) : Json :=
  .ofParts [("id", some (.string a.id)), ("label", some (.string a.label)),
    ("resolving", some (.bool a.resolving)), ("successMessage", a.successMessage.map .string),
    ("pendingAction", a.pendingAction.map .string)]

def IssueAction.ofJson (j : Json) : Decode IssueAction :=
  return ⟨← j.field asText "id", ← j.field asText "label",
    ← j.fieldD asBool "resolving" false, ← j.field? asText "successMessage",
    ← j.field? asText "pendingAction"⟩

def Issue.toJson (i : Issue) : Json :=
  .ofParts [("id", some (.string i.id)), ("typeId", some (.string i.typeId)),
    ("severity", some (.string i.severity.name)), ("category", some (.string i.category.name)),
    ("title", some (.string i.title)), ("summary", some (.string i.summary)),
    ("subtitle", i.subtitle.map .string), ("actions", some (.array (i.actions.map (·.toJson))))]

def Issue.ofJson (j : Json) : Decode Issue :=
  return ⟨← j.field asText "id", ← j.field asText "typeId",
    ← j.field SourceSeverity.ofJson "severity",
    ← j.fieldD IssueCategory.ofJson "category" .general,
    ← j.field asText "title", ← j.field asText "summary", ← j.field? asText "subtitle",
    ← j.fieldD (asList IssueAction.ofJson) "actions" []⟩

def IconAction.toJson (i : IconAction) : Json :=
  .object [("type", .string i.type.name), ("pendingAction", .string i.pendingAction)]

def IconAction.ofJson (j : Json) : Decode IconAction :=
  return ⟨← j.field IconType.ofJson "type", ← j.field asText "pendingAction"⟩

def Status.toJson (s : Status) : Json :=
  .ofParts [("title", some (.string s.title)), ("summary", some (.string s.summary)),
    ("severity", some (.string s.severity.name)), ("enabled", some (.bool s.enabled)),
    ("pendingAction", s.pendingAction.map .string), ("iconAction", s.iconAction.map (·.toJson))]

def Status.ofJson (j : Json) : Decode Status :=
  return ⟨← j.field asText "title", ← j.field asText "summary",
    ← j.field SourceSeverity.ofJson "severity", ← j.fieldD asBool "enabled" true,
    ← j.field? asText "pendingAction", ← j.field? IconAction.ofJson "iconAction"⟩

def Report.toJson (r : Report) : Json :=
  .ofParts [("status", r.status.map (·.toJson)),
    ("issues", some (.array (r.issues.map (·.toJson))))]

def Report.ofJson (j : Json) : Decode Report :=
  return ⟨← j.field? Status.ofJson "status", ← j.fieldD (asList Issue.ofJson) "issues" []⟩

def Instant.toJson (t : Instant) : Json := .number t.toNumber

def Instant.ofJson (j : Json) : Decode Instant := return Instant.ofNumber (← asNumber j)

def DismissalRecord.toJson (r : DismissalRecord) : Json :=
  .ofParts [("issueKey", some r.issue.toJson), ("firstSeenAt", some r.firstSeenAt.toJson),
    ("dismissedAt", r.dismissedAt.map (·.toJson)), ("dismissCount", some (.number r.dismissCount)),
    ("dismissedSeverity", r.dismissedSeverity.map fun s => .string s.name)]

def PersistedRecord.toJson (r : PersistedRecord) : Json :=
  .ofParts [("key", some (.string r.key)), ("firstSeenAt", some r.firstSeenAt.toJson),
    ("dismissedAt", r.dismissedAt.map (·.toJson)), ("dismissCount", some (.number r.dismissCount)),
    ("dismissedSeverity", r.dismissedSeverity.map fun s => .string s.name)]

def PersistedRecord.ofJson (j : Json) : Decode PersistedRecord :=
  return ⟨← j.field asText "key", ← j.field Instant.ofJson "firstSeenAt",
    ← j.field? Instant.ofJson "dismissedAt", ← j.field asNumber "dismissCount",
    ← j.field? SourceSeverity.ofJson "dismissedSeverity"⟩

end SafetyBoard
