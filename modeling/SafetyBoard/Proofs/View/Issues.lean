import SafetyBoard.Proofs.Text.Spelled
import SafetyBoard.View.Issues

/-!
# Which issues a view lists

A view lists what the sources report for the users of its group, save what the ledger hides. Sorting
and dressing an issue up for the view change neither which issues there are nor their keys.
-/

namespace SafetyBoard.View

variable {registry : Registry} {store : ReportStore} {ledger : DismissalLedger}

theorem mem_sourceIssues {source : Source} {user : UserId} {r : ReportedIssue} :
    r ∈ sourceIssues store source user ↔
      ∃ report, store.get? ⟨source.id, user⟩ = some report ∧ r.issue ∈ report.issues ∧
        ∃ id : String, r.issue.id = id ∧ r.key = ⟨source.id, id, user⟩ := by
  rw [sourceIssues]
  cases store.get? ⟨source.id, user⟩ with
  | none => simp
  | some report =>
    simp only [List.mem_filterMap, keyed?, Option.map_eq_some_iff, Text.spelled?_eq_some,
      Option.some.injEq, exists_eq_left']
    constructor
    · rintro ⟨issue, reported, id, named, rfl⟩
      exact ⟨reported, id, named, rfl⟩
    · rintro ⟨reported, id, named, own⟩
      exact ⟨r.issue, reported, id, named, by rw [SourceKey.issue, ← own]⟩

theorem mem_reportedIssues {group : UserGroup} {r : ReportedIssue} :
    r ∈ reportedIssues registry store group ↔
      ∃ source ∈ registry.externalSources,
        ∃ user ∈ group.reportingUsers source.supportsManaged,
          r ∈ sourceIssues store source user := by
  simp only [reportedIssues, List.mem_flatMap]

theorem mem_openIssues {group : UserGroup} {r : ReportedIssue} :
    r ∈ openIssues registry store ledger group ↔
      r ∈ reportedIssues registry store group ∧
        ledger.isDismissed r.key r.issue.severity = false := by
  rw [openIssues, List.mem_filter, isOpen, Bool.not_eq_true']

theorem mem_issueList {group : UserGroup} {i : ViewIssue} :
    i ∈ issueList registry store ledger group ↔
      ∃ r ∈ openIssues registry store ledger group, toViewIssue store r = i := by
  rw [issueList, List.mem_mergeSort, List.mem_map]

/-- An issue is listed for a source and user if it is reported and not hidden at its severity. -/
theorem listed_iff {group : UserGroup} {source : Source}
    (external : source ∈ registry.externalSources) {user : UserId}
    (reports : user ∈ group.reportingUsers source.supportsManaged) (issueId : String) :
    (∃ i ∈ issueList registry store ledger group, i.key = ⟨source.id, issueId, user⟩) ↔
      ∃ report issue, store.get? ⟨source.id, user⟩ = some report ∧ issue ∈ report.issues ∧
        issue.id = issueId ∧
          ledger.isDismissed ⟨source.id, issueId, user⟩ issue.severity = false := by
  constructor
  · rintro ⟨i, listed, key⟩
    obtain ⟨r, opened, rfl⟩ := mem_issueList.mp listed
    obtain ⟨reported, visible⟩ := mem_openIssues.mp opened
    obtain ⟨source', -, user', -, found⟩ := mem_reportedIssues.mp reported
    obtain ⟨report, stored, member, id, named, own⟩ := mem_sourceIssues.mp found
    have key : r.key = ⟨source.id, issueId, user⟩ := key
    rw [key] at own visible
    obtain ⟨same_source, same_issue, same_user⟩ := IssueKey.mk.inj own
    rw [← same_source, ← same_user] at stored
    exact ⟨report, r.issue, stored, member, same_issue ▸ named, visible⟩
  · rintro ⟨report, issue, stored, member, named, visible⟩
    have found : ⟨⟨source.id, issueId, user⟩, issue⟩ ∈ sourceIssues store source user :=
      mem_sourceIssues.mpr ⟨report, stored, member, issueId, named, rfl⟩
    have reported := mem_reportedIssues.mpr ⟨source, external, user, reports, found⟩
    exact ⟨_, mem_issueList.mpr ⟨_, mem_openIssues.mpr ⟨reported, visible⟩, rfl⟩, rfl⟩

end SafetyBoard.View
