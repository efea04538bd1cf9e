import Mathlib.Algebra.GroupWithZero.Nat
import Mathlib.Data.List.Nodup
import SafetyBoard.Proofs.Source.Registry
import SafetyBoard.Proofs.Users
import SafetyBoard.Proofs.View.Issues

/-!
# Who reports for a group

A view collects issues by going through the sources and, for each, through the users of the group
that it reports for. As long as the users of the group are distinct, no source and user is visited
twice, so the issues that a view lists for one of them are those that are open in its own report,
and together they are all that the view lists.
-/

namespace SafetyBoard

def UserGroup.reporters (group : UserGroup) (sources : List Source) : List (Source × UserId) :=
  sources.flatMap fun source => (group.reportingUsers source.supportsManaged).map (source, ·)

def reporterKey (reporter : Source × UserId) : SourceKey := ⟨reporter.1.id, reporter.2⟩

namespace UserGroup

variable {group : UserGroup} {sources : List Source}

theorem mem_reporters {reporter : Source × UserId} :
    reporter ∈ group.reporters sources ↔
      reporter.1 ∈ sources ∧ reporter.2 ∈ group.reportingUsers reporter.1.supportsManaged := by
  obtain ⟨source, user⟩ := reporter
  simp only [reporters, List.mem_flatMap, List.mem_map, Prod.mk.injEq]
  constructor
  · rintro ⟨source, member, user, reports, rfl, rfl⟩
    exact ⟨member, reports⟩
  · rintro ⟨member, reports⟩
    exact ⟨source, member, user, reports, rfl, rfl⟩

theorem nodup_reporters (users : group.users.Nodup) (ids : (sources.map (·.id)).Nodup) :
    ((group.reporters sources).map reporterKey).Nodup := by
  rw [reporters, List.map_flatMap, List.nodup_flatMap]
  constructor
  · intro source _
    rw [List.map_map]
    refine (users.sublist (reportingUsers_sublist _)).map fun user user' same => ?_
    exact congrArg SourceKey.userId same
  · refine (List.pairwise_map.mp ids).imp fun different => ?_
    intro key one other
    simp only [List.mem_map, exists_exists_and_eq_and] at one other
    obtain ⟨user, -, rfl⟩ := one
    obtain ⟨user', -, same⟩ := other
    exact different (congrArg SourceKey.sourceId same).symm

end UserGroup

/-- What carries the key of its origin can be told from the rest by it, if no two origins share
one. -/
theorem filter_flatMap_of_mem {α β κ : Type} [DecidableEq κ] {key : α → κ} {name : β → κ}
    {found : α → List β} (own : ∀ a, ∀ b ∈ found a, name b = key a) {origins : List α}
    (distinct : (origins.map key).Nodup) {a : α} (member : a ∈ origins) :
    (origins.flatMap found).filter (fun b => name b = key a) = found a := by
  have others {rest : List α} (absent : key a ∉ rest.map key) :
      (rest.flatMap found).filter (fun b => name b = key a) = [] := by
    rw [List.filter_eq_nil_iff]
    intro b later
    obtain ⟨origin, origin_member, b_member⟩ := List.mem_flatMap.mp later
    rw [decide_eq_true_iff, own origin b b_member]
    exact fun same => absent (List.mem_map.mpr ⟨origin, origin_member, same⟩)
  obtain ⟨before, behind, rfl⟩ := List.append_of_mem member
  rw [List.map_append, List.map_cons, List.nodup_append, List.nodup_cons] at distinct
  obtain ⟨-, ⟨not_behind, -⟩, apart⟩ := distinct
  have not_before : key a ∉ before.map key := fun earlier =>
    apart _ earlier _ List.mem_cons_self rfl
  have kept : (found a).filter (fun b => name b = key a) = found a :=
    List.filter_eq_self.mpr fun b b_member => decide_eq_true (own a b b_member)
  rw [List.flatMap_append, List.flatMap_cons, List.filter_append, List.filter_append,
    others not_before, others not_behind, kept, List.nil_append, List.append_nil]

namespace View

variable {registry : Registry} {store : ReportStore} {ledger : DismissalLedger} {group : UserGroup}

def openFrom (store : ReportStore) (ledger : DismissalLedger) (reporter : Source × UserId) :
    List ReportedIssue :=
  (sourceIssues store reporter.1 reporter.2).filter (isOpen ledger)

theorem source_of_mem_openFrom {reporter : Source × UserId} {r : ReportedIssue}
    (member : r ∈ openFrom store ledger reporter) : r.key.source = reporterKey reporter := by
  obtain ⟨_, -, -, _, -, own⟩ := mem_sourceIssues.mp (List.mem_filter.mp member).1
  rw [own]
  rfl

theorem id_of_map_keyed? {source : SourceKey} {issue : Issue} {key : IssueKey}
    (found : (keyed? source issue).map (·.key) = some key) : issue.id = key.issueId := by
  rw [keyed?, Option.map_map, Option.map_eq_some_iff] at found
  obtain ⟨id, spelled, rfl⟩ := found
  exact Text.spelled?_eq_some.mp spelled

theorem spelled_of_drawable (drawable : isDrawable registry store ledger group = true)
    {reporter : Source × UserId} (member : reporter ∈ group.reporters registry.externalSources)
    {report : Report} (stored : store.get? (reporterKey reporter) = some report) :
    report.isSpelled = true := by
  obtain ⟨external, counts⟩ := UserGroup.mem_reporters.mp member
  have all := List.all_eq_true.mp (Bool.and_eq_true_iff.mp drawable).1
  exact all report (List.mem_flatMap.mpr ⟨_, external, List.mem_filterMap.mpr ⟨_, counts, stored⟩⟩)

theorem length_sourceIssues {report : Report} (spelled : report.isSpelled = true) {source : Source}
    {user : UserId} (stored : store.get? ⟨source.id, user⟩ = some report) :
    (sourceIssues store source user).length = report.issues.length := by
  rw [sourceIssues, stored, List.length_filterMap_eq_countP, List.countP_eq_length]
  intro issue member
  have named := List.all_eq_true.mp spelled issue.id (List.mem_map_of_mem member)
  rw [keyed?, Option.isSome_map]
  exact named

theorem openIssues_eq_flatMap (registry : Registry) (store : ReportStore)
    (ledger : DismissalLedger) (group : UserGroup) :
    openIssues registry store ledger group =
      (group.reporters registry.externalSources).flatMap (openFrom store ledger) := by
  simp only [openIssues, reportedIssues, UserGroup.reporters, List.filter_flatMap,
    List.flatMap_assoc, List.flatMap_map]
  rfl

theorem issueList_perm : (issueList registry store ledger group).Perm
    ((openIssues registry store ledger group).map (toViewIssue store)) :=
  List.mergeSort_perm _ _

theorem countP_issueList (users : group.users.Nodup) {reporter : Source × UserId}
    (member : reporter ∈ group.reporters registry.externalSources) :
    (issueList registry store ledger group).countP (fun i => i.key.source = reporterKey reporter) =
      (openFrom store ledger reporter).length := by
  have distinct := UserGroup.nodup_reporters users registry.nodup_external_ids
  have own : ((group.reporters registry.externalSources).flatMap (openFrom store ledger)).filter
      (fun r => r.key.source = reporterKey reporter) = openFrom store ledger reporter :=
    filter_flatMap_of_mem (fun _ _ => source_of_mem_openFrom) distinct member
  rw [issueList_perm.countP_eq, List.countP_map, openIssues_eq_flatMap, ← own,
    ← List.countP_eq_length_filter]
  rfl

theorem length_issueList : (issueList registry store ledger group).length =
    ((group.reporters registry.externalSources).map
      fun reporter => (openFrom store ledger reporter).length).sum := by
  rw [issueList_perm.length_eq, List.length_map, openIssues_eq_flatMap, List.length_flatMap]

theorem nodup_keys_openIssues (users : group.users.Nodup)
    (ids : ∀ key report, store.get? key = some report → report.issueIds.Nodup) :
    ((openIssues registry store ledger group).map (·.key)).Nodup := by
  have distinct := UserGroup.nodup_reporters users registry.nodup_external_ids
  have sources := List.pairwise_map.mp distinct
  rw [openIssues_eq_flatMap, List.map_flatMap, List.nodup_flatMap]
  constructor
  · intro reporter _
    refine List.Nodup.sublist (List.filter_sublist.map _) ?_
    rw [sourceIssues]
    cases stored : store.get? ⟨reporter.1.id, reporter.2⟩ with
    | none => exact List.nodup_nil
    | some report =>
      have own : (report.issues.map (·.id)).Nodup := ids _ report stored
      simp only [List.map_filterMap]
      refine (List.pairwise_map.mp own).filterMap _ fun issue other different key one key' two => ?_
      rintro rfl
      exact different ((id_of_map_keyed? one).trans (id_of_map_keyed? two).symm)
  · refine sources.imp fun different key one other => ?_
    obtain ⟨r, member, rfl⟩ := List.mem_map.mp one
    obtain ⟨r', member', same⟩ := List.mem_map.mp other
    have there := source_of_mem_openFrom member'
    rw [same, source_of_mem_openFrom member] at there
    exact different there

theorem listed_reported_iff {reporter : Source × UserId}
    (member : reporter ∈ group.reporters registry.externalSources) {report : Report}
    (stored : store.get? (reporterKey reporter) = some report) (distinct : report.issueIds.Nodup)
    {issue : Issue} (reported : issue ∈ report.issues) {id : String} (named : issue.id = id) :
    (∃ i ∈ issueList registry store ledger group,
        i.key.source = reporterKey reporter ∧ issue.id = i.key.issueId) ↔
      ledger.isDismissed ⟨reporter.1.id, id, reporter.2⟩ issue.severity = false := by
  obtain ⟨external, reports⟩ := UserGroup.mem_reporters.mp member
  have listed :
      (∃ i ∈ issueList registry store ledger group, i.key = ⟨reporter.1.id, id, reporter.2⟩) ↔ _ :=
    listed_iff external reports id
  constructor
  · rintro ⟨i, member, own, same⟩
    have key : i.key = i.key.source.issue id := by
      rw [Text.plain_injective (named.symm.trans same)]
      rfl
    rw [own] at key
    obtain ⟨_, other, stored', other_reported, same', visible⟩ := listed.mp ⟨i, member, key⟩
    cases stored.symm.trans stored'
    obtain rfl := List.inj_on_of_nodup_map distinct other_reported reported
      (same'.trans named.symm)
    exact visible
  · intro visible
    obtain ⟨i, member, key⟩ := listed.mpr ⟨report, issue, stored, reported, named, visible⟩
    refine ⟨i, member, ?_, ?_⟩
    · rw [key]
      rfl
    · rw [key]
      exact named

/-- Where no two issues of a report have one id, those that are open are those that a view lists. -/
theorem map_issue_openFrom {reporter : Source × UserId}
    (member : reporter ∈ group.reporters registry.externalSources) {report : Report}
    (stored : store.get? (reporterKey reporter) = some report)
    (distinct : report.issueIds.Nodup) :
    (openFrom store ledger reporter).map (·.issue) = report.issues.filter fun issue : Issue =>
      (issueList registry store ledger group).any fun i =>
        i.key.source = reporterKey reporter ∧ issue.id = i.key.issueId := by
  have stored' : store.get? ⟨reporter.1.id, reporter.2⟩ = some report := stored
  rw [openFrom, sourceIssues, stored', List.filter_filterMap, List.map_filterMap,
    ← List.filterMap_eq_filter]
  refine List.filterMap_congr fun issue reported => ?_
  rw [Option.guard_apply, keyed?]
  simp only [List.any_eq_true, decide_eq_true_eq]
  cases spelled : issue.id.spelled? with
  | none =>
    have garbled (id : String) : issue.id ≠ id := fun named => by
      rw [Text.spelled?_eq_some.mpr named] at spelled
      cases spelled
    simp [garbled]
  | some id =>
    have named := Text.spelled?_eq_some.mp spelled
    have listed : _ ↔ ledger.isDismissed ⟨reporter.1.id, id, reporter.2⟩ issue.severity = false :=
      listed_reported_iff member stored distinct reported named
    rw [if_congr listed rfl rfl]
    cases hidden : ledger.isDismissed ⟨reporter.1.id, id, reporter.2⟩ issue.severity <;>
      simp [hidden, isOpen, SourceKey.issue]

end View

end SafetyBoard
