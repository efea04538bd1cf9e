import SafetyBoard.View.Basic
import SafetyBoard.Wire.Reports

/-!
Views as JSON, in full and as a digest that is enough to tell one view from the next.
-/

namespace SafetyBoard

def ViewAction.toJson (a : ViewAction) : Json :=
  .ofParts [("id", some (.string a.id)), ("label", some (.string a.label)),
    ("resolving", some (.bool a.resolving)), ("inFlight", some (.bool a.inFlight)),
    ("successMessage", a.successMessage.map .string),
    ("pendingAction", a.pendingAction.map .string)]

def ViewIssue.toJson (i : ViewIssue) : Json :=
  .ofParts [("id", some (.string i.id)), ("key", some i.key.toJson),
    ("typeId", some (.string i.typeId)), ("severity", some (.string i.severity.name)),
    ("category", some (.string i.category.name)), ("title", some (.string i.title)),
    ("summary", some (.string i.summary)), ("subtitle", i.subtitle.map .string),
    ("shouldConfirmDismissal", some (.bool i.shouldConfirmDismissal)),
    ("actions", some (.array (i.actions.map (·.toJson))))]

def Entry.toJson (e : Entry) : Json :=
  .ofParts [("kind", some (.string "entry")), ("id", some (.string e.id)),
    ("sourceKey", some e.key.toJson), ("title", some (.string e.title)),
    ("summary", e.summary.map .string), ("severity", some (.string e.severity.name)),
    ("enabled", some (.bool e.enabled)), ("pendingAction", e.pendingAction.map .string),
    ("severityUnspecifiedIconType", some (.string e.unspecifiedIcon.name)),
    ("iconAction", e.iconAction.map (·.toJson))]

def EntryItem.toJson : EntryItem → Json
  | .single e => e.toJson
  | .group g =>
    .ofParts [("kind", some (.string "group")), ("id", some (.string g.id)),
      ("title", some (.string g.title)), ("summary", g.summary.map .string),
      ("severity", some (.string g.severity.name)),
      ("severityUnspecifiedIconType", some (.string g.unspecifiedIcon.name)),
      ("entries", some (.array (g.entries.map (·.toJson))))]

def StaticEntry.toJson (e : StaticEntry) : Json :=
  .ofParts [("title", some (.string e.title)), ("summary", e.summary.map .string),
    ("pendingAction", some (.string e.pendingAction))]

def StaticEntryGroup.toJson (g : StaticEntryGroup) : Json :=
  .object [("title", .string g.title), ("entries", .array (g.entries.map (·.toJson)))]

namespace View

def headline (v : View) : List (Text × Json) :=
  [("overallSeverity", .string v.overallSeverity.name),
    ("refreshStatus", .string v.refreshStatus.name), ("title", .string v.title),
    ("summary", .string v.summary), ("hasSettingsToReview", .bool v.hasSettingsToReview)]

def toJson (v : View) : Json :=
  let parts : List (Text × Json) :=
    [("issues", .array (v.issues.map (·.toJson))), ("entries", .array (v.entries.map (·.toJson))),
      ("staticEntryGroups", .array (v.staticEntryGroups.map (·.toJson)))]
  .object (v.headline ++ parts)

def entryMark (id : String) (severity : EntrySeverity) : String := id ++ "=" ++ severity.name

def entryMarks (v : View) : List String :=
  v.entries.flatMap fun
    | .single e => [entryMark e.id e.severity]
    | .group g => entryMark g.id g.severity :: g.entries.map fun e => entryMark e.id e.severity

/-- A view in short: only the ids of issues, and entries with their severities. -/
def digest (v : View) : Json :=
  let parts : List (Text × Json) :=
    [("issues", .ofStrings (v.issues.map (·.id))), ("entries", .ofStrings v.entryMarks)]
  .object (v.headline ++ parts)

end View

end SafetyBoard
