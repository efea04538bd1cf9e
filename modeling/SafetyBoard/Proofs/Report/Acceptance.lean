import SafetyBoard.Proofs.Json.Meaning
import SafetyBoard.Proofs.Report.Reading

/-!
# Which payloads are accepted

What report a payload means is told member by member: what has to be there, what may be left out and
what it then is. A payload is accepted exactly if it means a report and its source may make that
report, and the report is what is accepted. All other payloads are refused in the name of the source.
-/

namespace SafetyBoard

open Json
open Reader (Members)

structure IssueAction.InMembers (members : Members) (a : IssueAction) : Prop where
  id : MemberMeans MeansText "id" members a.id
  label : MemberMeans MeansText "label" members a.label
  resolving : MemberMeansOr MeansFlag "resolving" members false a.resolving
  successMessage : MemberMayMean MeansText "successMessage" members a.successMessage
  pendingAction : MemberMayMean MeansText "pendingAction" members a.pendingAction

structure Issue.InMembers (members : Members) (i : Issue) : Prop where
  id : MemberMeans MeansText "id" members i.id
  typeId : MemberMeans MeansText "typeId" members i.typeId
  severity : MemberMeans (MeansName SourceSeverity.name (· ≠ .unspecified)) "severity" members
    i.severity
  category : MemberMeansOr (MeansName IssueCategory.name fun _ => True) "category" members .general
    i.category
  title : MemberMeans MeansText "title" members i.title
  summary : MemberMeans MeansText "summary" members i.summary
  subtitle : MemberMayMean MeansText "subtitle" members i.subtitle
  actions : MemberMeansOr (MeansList (MeansRecord IssueAction.InMembers)) "actions" members []
    i.actions

structure IconAction.InMembers (members : Members) (i : IconAction) : Prop where
  type : MemberMeans (MeansName IconType.name fun _ => True) "type" members i.type
  pendingAction : MemberMeans MeansText "pendingAction" members i.pendingAction

structure Status.InMembers (members : Members) (s : Status) : Prop where
  title : MemberMeans MeansText "title" members s.title
  summary : MemberMeans MeansText "summary" members s.summary
  severity : MemberMeans (MeansName SourceSeverity.name fun _ => True) "severity" members
    s.severity
  enabled : MemberMeansOr MeansFlag "enabled" members true s.enabled
  pendingAction : MemberMayMean MeansText "pendingAction" members s.pendingAction
  iconAction : MemberMayMean (MeansRecord IconAction.InMembers) "iconAction" members s.iconAction

structure Report.InMembers (members : Members) (r : Report) : Prop where
  status : MemberMayMean (MeansRecord Status.InMembers) "status" members r.status
  issues : MemberMeansOr (MeansList (MeansRecord Issue.InMembers)) "issues" members [] r.issues

def Report.MeantBy (payload : Json) (r : Report) : Prop := MeansRecord Report.InMembers payload r

namespace Report

open Reader Checked

theorem exact_action : readAction.Exact (MeansRecord IssueAction.InMembers) := by
  refine exact_object fun members a => ?_
  simp only [gives_seq, gives_map]
  constructor
  · rintro ⟨id, hasId, label, hasLabel, resolving, hasResolving, success, hasSuccess, pending,
      hasPending, rfl⟩
    exact {
      id := exact_text.required.mp hasId
      label := exact_text.required.mp hasLabel
      resolving := exact_flag.defaulted.mp hasResolving
      successMessage := exact_text.optional.mp hasSuccess
      pendingAction := exact_text.optional.mp hasPending }
  · intro meant
    exact ⟨a.id, exact_text.required.mpr meant.id,
      a.label, exact_text.required.mpr meant.label,
      a.resolving, exact_flag.defaulted.mpr meant.resolving,
      a.successMessage, exact_text.optional.mpr meant.successMessage,
      a.pendingAction, exact_text.optional.mpr meant.pendingAction, rfl⟩

theorem exact_issueSeverity : (choice issueSeverities SourceSeverity.name).Exact
    (MeansName SourceSeverity.name (· ≠ .unspecified)) :=
  exact_choice (by decide) fun s => by cases s <;> decide

theorem exact_severity : (choice SourceSeverity.all SourceSeverity.name).Exact
    (MeansName SourceSeverity.name fun _ => True) :=
  exact_choice (by decide) fun s => by cases s <;> decide

theorem exact_category : (choice IssueCategory.all IssueCategory.name).Exact
    (MeansName IssueCategory.name fun _ => True) :=
  exact_choice (by decide) fun c => by cases c <;> decide

theorem exact_iconType : (choice IconType.all IconType.name).Exact
    (MeansName IconType.name fun _ => True) :=
  exact_choice (by decide) fun t => by cases t <;> decide

theorem exact_issue : readIssue.Exact (MeansRecord Issue.InMembers) := by
  refine exact_object fun members i => ?_
  simp only [gives_seq, gives_map]
  constructor
  · rintro ⟨id, hasId, typeId, hasType, severity, hasSeverity, category, hasCategory, title,
      hasTitle, summary, hasSummary, subtitle, hasSubtitle, actions, hasActions, rfl⟩
    exact {
      id := exact_text.required.mp hasId
      typeId := exact_text.required.mp hasType
      severity := exact_issueSeverity.required.mp hasSeverity
      category := exact_category.defaulted.mp hasCategory
      title := exact_text.required.mp hasTitle
      summary := exact_text.required.mp hasSummary
      subtitle := exact_text.optional.mp hasSubtitle
      actions := exact_action.list.defaulted.mp hasActions }
  · intro meant
    exact ⟨i.id, exact_text.required.mpr meant.id,
      i.typeId, exact_text.required.mpr meant.typeId,
      i.severity, exact_issueSeverity.required.mpr meant.severity,
      i.category, exact_category.defaulted.mpr meant.category,
      i.title, exact_text.required.mpr meant.title,
      i.summary, exact_text.required.mpr meant.summary,
      i.subtitle, exact_text.optional.mpr meant.subtitle,
      i.actions, exact_action.list.defaulted.mpr meant.actions, rfl⟩

theorem exact_iconAction : readIconAction.Exact (MeansRecord IconAction.InMembers) := by
  refine exact_object fun members icon => ?_
  simp only [gives_seq, gives_map]
  constructor
  · rintro ⟨type, hasType, pending, hasPending, rfl⟩
    exact ⟨exact_iconType.required.mp hasType, exact_text.required.mp hasPending⟩
  · intro meant
    exact ⟨icon.type, exact_iconType.required.mpr meant.type,
      icon.pendingAction, exact_text.required.mpr meant.pendingAction, rfl⟩

theorem exact_status : readStatus.Exact (MeansRecord Status.InMembers) := by
  refine exact_object fun members s => ?_
  simp only [gives_seq, gives_map]
  constructor
  · rintro ⟨title, hasTitle, summary, hasSummary, severity, hasSeverity, enabled, hasEnabled,
      pending, hasPending, icon, hasIcon, rfl⟩
    exact {
      title := exact_text.required.mp hasTitle
      summary := exact_text.required.mp hasSummary
      severity := exact_severity.required.mp hasSeverity
      enabled := exact_flag.defaulted.mp hasEnabled
      pendingAction := exact_text.optional.mp hasPending
      iconAction := exact_iconAction.optional.mp hasIcon }
  · intro meant
    exact ⟨s.title, exact_text.required.mpr meant.title,
      s.summary, exact_text.required.mpr meant.summary,
      s.severity, exact_severity.required.mpr meant.severity,
      s.enabled, exact_flag.defaulted.mpr meant.enabled,
      s.pendingAction, exact_text.optional.mpr meant.pendingAction,
      s.iconAction, exact_iconAction.optional.mpr meant.iconAction, rfl⟩

theorem exact_report : read.Exact (MeansRecord Report.InMembers) := by
  refine exact_object fun members r => ?_
  simp only [gives_seq, gives_map]
  constructor
  · rintro ⟨status, hasStatus, issues, hasIssues, rfl⟩
    exact ⟨exact_status.optional.mp hasStatus, exact_issue.list.defaulted.mp hasIssues⟩
  · intro meant
    exact ⟨r.status, exact_status.optional.mpr meant.status,
      r.issues, exact_issue.list.defaulted.mpr meant.issues, rfl⟩

end Report

/-- A payload is accepted exactly if it means a report and the source may make that report. The
report is what is accepted, and it is accepted again as it was stored; any other payload is refused
in the name of the source. -/
theorem SourceOf.accept_exact (source : Source) (payload : Json) :
    (∀ report, source.accept payload = .ok report ↔
      report.MeantBy payload ∧ source.Permits report) ∧
    (∀ report, source.accept payload = .ok report → source.accept report.toJson = .ok report) ∧
    ((∀ report, report.MeantBy payload → ¬source.Permits report) →
      ∃ rejection, source.accept payload = .error rejection ∧
        rejection.toError source.id = .invalidSourceData source.id (rejection.message source.id)) := by
  have exact (report : Report) : source.accept payload = .ok report ↔
      report.MeantBy payload ∧ source.Permits report :=
    SourceOf.accept_eq_ok.trans (and_congr_left' (Report.exact_report payload report))
  refine ⟨exact, fun report accepted => (SourceOf.accept_toJson accepted).2, fun refused => ?_⟩
  cases outcome : source.accept payload with
  | ok report =>
    obtain ⟨meant, permits⟩ := (exact report).mp outcome
    exact absurd permits (refused report meant)
  | error rejection => exact ⟨rejection, rfl, rfl⟩

namespace Report

def lock : Source :=
  ⟨"lock", .primary, false, .dynamic ⟨"org.lock", .recommendation, true, false⟩
    ⟨some "Screen lock", none, some "How the screen is locked", some "open.lock", .enabled⟩⟩

/-- An issue with an action that leaves out what has a default, and members that mean nothing. -/
def sparseIssue (severity : String) : Json :=
  .object [("actions", .array [.object [("id", .string "set"), ("label", .string "Set a PIN")]]),
    ("extra", .null), ("id", .string "pin"), ("severity", .string severity),
    ("summary", .string "Anyone can open the device"), ("title", .string "No PIN"),
    ("typeId", .string "lock.none")]

def sparse (severity : String) : Json :=
  .object [("issues", .array [sparseIssue severity]), ("note", .number 7),
    ("status", .object [("severity", .string "information"), ("summary", .string "Not locked"),
      ("title", .string "Screen lock")])]

def sparseReport : Report :=
  ⟨some ⟨"Screen lock", "Not locked", .information, true, none, none⟩,
    [⟨"pin", "lock.none", .information, .general, "No PIN", "Anyone can open the device", none,
      [⟨"set", "Set a PIN", false, none, none⟩]⟩]⟩

/-- With a status of information, the issue may be one of information, but not a recommendation. -/
theorem accept_exact_sparse :
    lock.accept (sparse "information") = .ok sparseReport ∧
      sparseReport.MeantBy (sparse "information") ∧ lock.Permits sparseReport ∧
      lock.accept sparseReport.toJson = .ok sparseReport ∧
      ∃ rejection, lock.accept (sparse "recommendation") = .error rejection ∧
        rejection.toError lock.id = .invalidSourceData lock.id (rejection.message lock.id) := by
  have accepted : lock.accept (sparse "information") = .ok sparseReport := by decide +kernel
  obtain ⟨exact, again, -⟩ := SourceOf.accept_exact lock (sparse "information")
  obtain ⟨exact', -, refuses⟩ := SourceOf.accept_exact lock (sparse "recommendation")
  obtain ⟨meant, permits⟩ := (exact sparseReport).mp accepted
  have refused : lock.accept (sparse "recommendation") =
      .error (.issueAboveStatus "pin" .recommendation .information) := by decide +kernel
  refine ⟨accepted, meant, permits, again sparseReport accepted, refuses fun report meant may => ?_⟩
  have accepted' := (exact' report).mpr ⟨meant, may⟩
  rw [refused] at accepted'
  cases accepted'

end Report

end SafetyBoard
