import SafetyBoard.View.Entries
import SafetyBoard.View.Issues

/-!
The whole view: issues, entries, and the severity and texts on top that sum them up. It is computed
for any reports, and drawn if all that is encoded in it can be.
-/

namespace SafetyBoard.View

variable (registry : Registry) (resolver : ActionResolver) (store : ReportStore)
  (ledger : DismissalLedger)

/-- What one group of sources adds to the entries, the static groups and the severities. -/
structure GroupPart where
  items : List EntryItem
  staticGroups : List StaticEntryGroup
  severities : List OverallSeverity

def groupPart (users : UserGroup) (g : SourceGroup) : GroupPart :=
  match g.type with
  | .collapsible =>
    let entries := groupEntries resolver store users g
    ⟨entryItems store g entries, [], entries.map (·.severity.toOverall)⟩
  | .rigid =>
    let placed := placedEntries resolver store users g
    ⟨[], [⟨g.title.getD "", placed.map Prod.fst⟩],
      (placed.filter Prod.snd).map fun _ => .unknown⟩
  | .hidden => ⟨[], [], []⟩

def highest (severities : List OverallSeverity) : OverallSeverity :=
  severities.foldl OverallSeverity.merge .ok

/-- Unknown entries make the whole view unknown only when no issue is above ok. -/
def overall (issues entries : OverallSeverity) : OverallSeverity :=
  if entries = .unknown ∧ !issues.exceeds .ok then .unknown else issues

def needsReview (issues entries : OverallSeverity) : Bool :=
  entries = .unknown || entries.exceeds issues

def topCategory : List ViewIssue → IssueCategory
  | [] => .general
  | issue :: _ => issue.category

def statusTitle (severity : OverallSeverity) (issues : List ViewIssue) (refresh : RefreshStatus)
    (review : Bool) : String :=
  if refresh ≠ .none then Strings.scanningTitle
  else
    match severity with
    | .unknown | .ok => if review then Strings.okReviewTitle else Strings.okTitle
    | .recommendation => Strings.recommendationTitle (topCategory issues)
    | .criticalWarning => Strings.criticalTitle (topCategory issues)

def statusSummary (severity : OverallSeverity) (issueCount : Nat) (refresh : RefreshStatus)
    (review : Bool) : String :=
  if refresh ≠ .none then Strings.loadingSummary
  else
    match severity with
    | .unknown | .ok =>
      if issueCount = 0 then if review then Strings.okReviewSummary else Strings.okSummary
      else Strings.alertsSummary (.ofNat issueCount)
    | .recommendation | .criticalWarning => Strings.alertsSummary (.ofNat issueCount)

def compute (refresh : RefreshStatus) (users : UserGroup) : View :=
  let issues := issueList registry store ledger users
  let parts := registry.groups.map (groupPart resolver store users)
  let issuesSeverity := highest (issues.map (·.severity.toOverall))
  let entriesSeverity := highest (parts.flatMap (·.severities))
  let severity := overall issuesSeverity entriesSeverity
  let review := needsReview issuesSeverity entriesSeverity
  { overallSeverity := severity
    refreshStatus := refresh
    title := statusTitle severity issues refresh review
    summary := statusSummary severity issues.length refresh review
    hasSettingsToReview := review
    issues
    entries := parts.flatMap (·.items)
    staticEntryGroups := parts.flatMap (·.staticGroups) }

/-- The view, unless a garbled text would have to be encoded for it. -/
def draw (refresh : RefreshStatus) (users : UserGroup) : Except Fault View :=
  if isDrawable registry store ledger users then
    .ok (compute registry resolver store ledger refresh users)
  else .error .malformedUri

end SafetyBoard.View
