import SafetyBoard.View.Board

/-!
Log lines about oddities met while a view is made: issues without a severity, entries without a
configured title, static entries that lead nowhere, and a title that asks for an issue when there is
none. The lines stand in the order in which the view is made, and where a garbled text ends that they
end too.
-/

namespace SafetyBoard.View

variable (registry : Registry) (resolver : ActionResolver) (store : ReportStore)
  (ledger : DismissalLedger)

def tag := "AggregationEngine"

/-- All issues that count for a group, in the order in which they are looked at. -/
def met (users : UserGroup) : List (SourceKey × Issue) :=
  registry.externalSources.flatMap fun source =>
    (users.reportingUsers source.supportsManaged).flatMap fun user =>
      match store.get? ⟨source.id, user⟩ with
      | some report => report.issues.map fun issue => (⟨source.id, user⟩, issue)
      | none => []

def unspecifiedLines (issue : Issue) : List LogLine :=
  if issue.severity = .unspecified then
    [.line .warn "Severity" "Issue reported with unspecified severity, showing it as ok" none]
  else []

def issueLines : List (SourceKey × Issue) → List LogLine
  | [] => []
  | (source, issue) :: rest =>
    match keyed? source issue with
    | none => []
    | some r =>
      if !isOpen ledger r then issueLines rest
      else if issue.actions.all (·.id.isSpelled) then unspecifiedLines issue ++ issueLines rest
      else unspecifiedLines issue

def untitledLines (source : Source) (m : Member) : List LogLine :=
  if (source.configuredTitle? m.isManaged).isNone then
    [.line .warn tag "Source has no title" (some [("sourceId", .string source.id)])]
  else []

def entryLines (source : Source) (m : Member) : List LogLine :=
  match source.kind with
  | .issueOnly _ => []
  | .fixed _ | .dynamic _ _ =>
    if (source.reporting?.isSome && (liveStatus? store source m).isSome) ||
        source.isInitiallyHidden then []
    else untitledLines source m

def placementLines (source : Source) (m : Member) : List LogLine :=
  match placement resolver store source m with
  | .absent => []
  | .withoutAction =>
    [.line .debug tag "Dropping static entry without an action"
      (some [("sourceId", .string source.id), ("userId", .number m.userId)])]
  | .shown _ =>
    if source.reporting?.isSome && (liveStatus? store source m).isSome then []
    else untitledLines source m

def groupLines (users : UserGroup) (g : SourceGroup) : List LogLine :=
  g.sources.flatMap fun source =>
    (users.members source.supportsManaged).flatMap fun m =>
      match g.type with
      | .collapsible => entryLines store source m
      | .rigid => placementLines resolver store source m
      | .hidden => []

/-- A title above ok is phrased by the first issue, so there has to be one. -/
def titleLines (v : View) : List LogLine :=
  if v.refreshStatus = .none ∧ v.overallSeverity.exceeds .ok ∧ v.issues = [] then
    [.line .warn tag "No issues found for a status above ok" none]
  else []

def lines (refresh : RefreshStatus) (users : UserGroup) : List LogLine :=
  issueLines ledger (met registry store users) ++
    if isDrawable registry store ledger users then
      registry.groups.flatMap (groupLines resolver store users) ++
        titleLines (compute registry resolver store ledger refresh users)
    else []

end SafetyBoard.View
