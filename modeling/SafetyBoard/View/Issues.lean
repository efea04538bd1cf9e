import SafetyBoard.View.Basic
import SafetyBoard.Dismissal.Ledger
import SafetyBoard.Report.Store
import SafetyBoard.Source.Registry

/-!
The issues of a view: everything that the sources report for the users of the group and nobody
dismissed at its severity, the most severe first, otherwise in the order of the sources. An issue
with a garbled id has no key and is passed over here: no view with such an issue is ever drawn.
-/

namespace SafetyBoard

structure ReportedIssue where
  key : IssueKey
  issue : Issue
  deriving DecidableEq, Repr

namespace View

variable (registry : Registry) (store : ReportStore) (ledger : DismissalLedger)

def keyed? (source : SourceKey) (issue : Issue) : Option ReportedIssue :=
  issue.id.spelled?.map fun id => ⟨source.issue id, issue⟩

def sourceIssues (source : Source) (user : UserId) : List ReportedIssue :=
  match store.get? ⟨source.id, user⟩ with
  | some report => report.issues.filterMap (keyed? ⟨source.id, user⟩)
  | none => []

def reportedIssues (group : UserGroup) : List ReportedIssue :=
  registry.externalSources.flatMap fun source =>
    (group.reportingUsers source.supportsManaged).flatMap (sourceIssues store source)

def isOpen (r : ReportedIssue) : Bool := !ledger.isDismissed r.key r.issue.severity

def openIssues (group : UserGroup) : List ReportedIssue :=
  (reportedIssues registry store group).filter (isOpen ledger)

def isInFlight (issue : IssueKey) (action : IssueAction) : Bool :=
  action.id.spelled?.any fun id => store.isActionInFlight ⟨issue, id⟩

def toViewIssue (r : ReportedIssue) : ViewIssue where
  id := r.key.encode
  key := r.key
  typeId := r.issue.typeId
  severity := r.issue.severity.toIssue
  category := r.issue.category
  title := r.issue.title
  summary := r.issue.summary
  subtitle := r.issue.subtitle
  shouldConfirmDismissal := r.issue.severity.toIssue ≠ .ok
  actions := r.issue.actions.map fun a =>
    ⟨a.id, a.label, a.resolving, isInFlight store r.key a, a.successMessage, a.pendingAction⟩

def atLeastAsSevere (a b : ViewIssue) : Bool := b.severity.rank ≤ a.severity.rank

/-- The reports that count for a group. -/
def reports (group : UserGroup) : List Report :=
  registry.externalSources.flatMap fun source =>
    (group.reportingUsers source.supportsManaged).filterMap fun user =>
      store.get? ⟨source.id, user⟩

/-- Whether all that has to be encoded for a view can be: the ids of the issues that count for the
group, and the ids of the actions of those that are open. -/
def isDrawable (group : UserGroup) : Bool :=
  (reports registry store group).all (·.isSpelled) &&
    (openIssues registry store ledger group).all fun r => r.issue.actions.all (·.id.isSpelled)

def issueList (group : UserGroup) : List ViewIssue :=
  ((openIssues registry store ledger group).map (toViewIssue store)).mergeSort atLeastAsSevere

end View

end SafetyBoard
