import SafetyBoard.Proofs.Report.Reading
import SafetyBoard.Proofs.Report.Store
import SafetyBoard.Proofs.View.Entries
import SafetyBoard.Proofs.View.Issues
import SafetyBoard.Proofs.View.Overall

/-!
# Everything that is shown has a title

What a view shows takes its title from a report or from the configuration. Reports are only accepted
with titles; and a valid configuration may leave a title out only where it is never asked for: at a
source that is not shown before it reports, and at a group that is not shown at all. So neither
place where a missing title would be replaced by an empty one is ever reached.
-/

namespace SafetyBoard

/-- Nothing in the view is without a title, nor is the view itself. -/
structure View.Titled (v : View) : Prop where
  title : v.title ≠ ""
  issues : ∀ issue ∈ v.issues, issue.title ≠ ""
  entries : ∀ item ∈ v.entries, ∀ entry ∈ item.entries, entry.title ≠ ""
  entryGroups : ∀ group : EntryGroup, .group group ∈ v.entries → group.title ≠ ""
  staticEntryGroups : ∀ group ∈ v.staticEntryGroups, group.title ≠ ""
  staticEntries : ∀ group ∈ v.staticEntryGroups, ∀ entry ∈ group.entries, entry.title ≠ ""

def ReportStore.Accepted (store : ReportStore) : Prop :=
  ∀ key report, store.get? key = some report →
    ∃ (source : Source) (payload : Json), source.accept payload = .ok report

theorem ReportStore.Accepted.wellFormed {store : ReportStore} (accepted : store.Accepted)
    {key : SourceKey} {report : Report} (stored : store.get? key = some report) :
    report.WellFormed := by
  obtain ⟨source, payload, made⟩ := accepted key report stored
  exact (SourceOf.accept_toJson made).1

namespace SourceOf

variable {s : Source}

theorem title_of_either {forWork own : Option Text} {title : Text} (worded : Worded forWork)
    (titled : own = some title) (filled : title ≠ "") (isManaged : Bool) :
    ∃ title, (if isManaged then forWork <|> own else own) = some title ∧ title ≠ "" := by
  cases isManaged with
  | false => exact ⟨title, titled, filled⟩
  | true =>
    cases forWork with
    | none => exact ⟨title, titled, filled⟩
    | some work => exact ⟨work, rfl, worded work rfl⟩

theorem configuredTitle?_eq_some (worded : s.kind.WellFormed) (complete : s.Complete)
    (shown : s.isInitiallyHidden = false) (hasEntry : ∀ reporting, s.kind ≠ .issueOnly reporting)
    (isManaged : Bool) : ∃ title, s.configuredTitle? isManaged = some title ∧ title ≠ "" := by
  rw [Complete] at complete
  rw [isInitiallyHidden, hasDisplay] at shown
  rw [configuredTitle?]
  cases kind : s.kind with
  | dynamic reporting entry =>
    rw [kind] at worded complete shown
    have notHidden : entry.initialDisplay ≠ .hidden := of_decide_eq_false shown
    obtain ⟨title, titled⟩ := Option.isSome_iff_exists.mp (complete.shown notHidden).1
    exact title_of_either worded.2.titleForWork titled (worded.2.title title titled) isManaged
  | fixed entry =>
    rw [kind] at worded
    exact title_of_either worded.titleForWork rfl worded.title isManaged
  | issueOnly reporting => exact absurd kind (hasEntry reporting)

end SourceOf

namespace View

def IsUntitledLine (line : LogLine) : Prop :=
  ∃ level context, line = .line level tag "Source has no title" context

section Member

variable {resolver : ActionResolver} {store : ReportStore} {s : Source} {m : Member}
  (worded : s.kind.WellFormed) (complete : s.Complete) (accepted : store.Accepted)

include worded complete

theorem title_of_default (shown : s.isInitiallyHidden = false)
    (hasEntry : ∀ reporting, s.kind ≠ .issueOnly reporting) :
    defaultTitle s m ≠ "" ∧ untitledLines s m = [] := by
  obtain ⟨title, configured, filled⟩ :=
    SourceOf.configuredTitle?_eq_some worded complete shown hasEntry m.isManaged
  rw [defaultTitle, untitledLines, configured]
  exact ⟨filled, rfl⟩

theorem entryLines_eq_nil : entryLines store s m = [] := by
  have byDefault (hasEntry : ∀ reporting, s.kind ≠ .issueOnly reporting) :
      (if (s.reporting?.isSome && (liveStatus? store s m).isSome) || s.isInitiallyHidden then []
        else untitledLines s m) = [] := by
    split
    · rfl
    · next shown =>
      rw [Bool.or_eq_true, not_or] at shown
      exact (title_of_default worded complete (Bool.eq_false_iff.mpr shown.2) hasEntry).2
  rw [entryLines]
  split
  · rfl
  · next kind => exact byDefault (by simp [kind])
  · next kind => exact byDefault (by simp [kind])

include accepted

theorem title_of_origin {e : Entry} (origin : EntryOrigin resolver store s m e) :
    e.title ≠ "" := by
  cases origin with
  | fixed kind =>
    exact (title_of_default worded complete (isInitiallyHidden_of_fixed kind)
      (by simp [kind])).1
  | reported _ _ stored has => exact ((accepted.wellFormed stored).status _ has).title
  | awaited kind shown => exact (title_of_default worded complete shown (by simp [kind])).1

theorem title_of_placement {entry : StaticEntry}
    (shown : placement resolver store s m = .shown entry) :
    entry.title ≠ "" ∧ ((s.reporting?.isSome && (liveStatus? store s m).isSome) = true ∨
      untitledLines s m = []) := by
  cases origin_of_placement shown with
  | reported kind awake stored has =>
    have live := liveStatus?_eq_some.mpr ⟨awake, _, stored, has⟩
    exact ⟨((accepted.wellFormed stored).status _ has).title,
      .inl (by simp [SourceOf.reporting?, kind, live])⟩
  | configured hasEntry notHidden =>
    exact (title_of_default worded complete notHidden hasEntry).imp_right .inr

theorem not_isUntitledLine_placementLines {line : LogLine}
    (logged : line ∈ placementLines resolver store s m) : ¬IsUntitledLine line := by
  rw [placementLines] at logged
  split at logged
  · cases logged
  · rw [List.mem_singleton] at logged
    rintro ⟨level, context, rfl⟩
    simp at logged
  · next shown =>
    obtain live | silent := (title_of_placement worded complete accepted shown).2
    · rw [if_pos live] at logged
      cases logged
    · rw [silent, ite_self] at logged
      cases logged

end Member

section Group

variable {resolver : ActionResolver} {store : ReportStore} {users : UserGroup} {g : SourceGroup}

theorem title_of_shown (worded : Worded g.title) (titled : g.Titled) (shown : g.type ≠ .hidden) :
    g.title.getD "" ≠ "" := by
  obtain ⟨title, has⟩ := Option.isSome_iff_exists.mp (titled shown)
  rw [has]
  exact worded title has

theorem title_of_entryGroup {entries : List Entry} {group : EntryGroup}
    (made : .group group ∈ entryItems store g entries) : group.title = g.title.getD "" := by
  match entries with
  | [] => cases made
  | [_] => cases List.mem_singleton.mp made
  | _ :: _ :: _ =>
    cases List.mem_singleton.mp made
    rfl

variable (worded : ∀ s ∈ g.sources, s.kind.WellFormed) (complete : ∀ s ∈ g.sources, s.Complete)
  (accepted : store.Accepted)
include worded complete accepted

theorem title_of_groupEntries {e : Entry} (made : e ∈ groupEntries resolver store users g) :
    e.title ≠ "" := by
  obtain ⟨s, stands, _, -, origin⟩ := mem_groupEntries.mp made
  exact title_of_origin (worded s stands) (complete s stands) accepted origin

theorem title_of_placedEntries {entry : StaticEntry} {unknown : Bool}
    (made : (entry, unknown) ∈ placedEntries resolver store users g) : entry.title ≠ "" := by
  obtain ⟨s, stands, m, -, shown, -⟩ := mem_placedEntries.mp made
  exact (title_of_placement (worded s stands) (complete s stands) accepted shown).1

theorem not_isUntitledLine_groupLines {line : LogLine}
    (logged : line ∈ groupLines resolver store users g) : ¬IsUntitledLine line := by
  obtain ⟨s, stands, found⟩ := List.mem_flatMap.mp logged
  obtain ⟨m, -, logged⟩ := List.mem_flatMap.mp found
  have own := worded s stands
  split at logged
  · rw [entryLines_eq_nil own (complete s stands)] at logged
    cases logged
  · exact not_isUntitledLine_placementLines own (complete s stands) accepted logged
  · cases logged

end Group

theorem title_of_issueList {registry : Registry} {store : ReportStore} {ledger : DismissalLedger}
    {users : UserGroup} (accepted : store.Accepted) {issue : ViewIssue}
    (listed : issue ∈ issueList registry store ledger users) : issue.title ≠ "" := by
  obtain ⟨r, opened, rfl⟩ := mem_issueList.mp listed
  obtain ⟨source, -, user, -, found⟩ := mem_reportedIssues.mp (mem_openIssues.mp opened).1
  obtain ⟨report, stored, reported, -⟩ := mem_sourceIssues.mp found
  exact ((accepted.wellFormed stored).issues r.issue reported).title

theorem not_isUntitledLine_issueLines {ledger : DismissalLedger} {found : List (SourceKey × Issue)}
    {line : LogLine} (logged : line ∈ issueLines ledger found) : ¬IsUntitledLine line := by
  have unspecified (issue : Issue) (logged : line ∈ unspecifiedLines issue) :
      ¬IsUntitledLine line := by
    rw [unspecifiedLines] at logged
    rintro ⟨level, context, rfl⟩
    split at logged <;> simp at logged
  fun_induction issueLines ledger found with
  | case1 | case2 => cases logged
  | case3 _ _ _ _ _ _ ih => exact ih logged
  | case4 _ issue _ _ _ _ _ ih =>
    rcases List.mem_append.mp logged with first | later
    · exact unspecified issue first
    · exact ih later
  | case5 _ issue => exact unspecified issue logged

theorem statusTitle_ne (severity : OverallSeverity) (issues : List ViewIssue)
    (refresh : RefreshStatus) (review : Bool) :
    statusTitle severity issues refresh review ≠ "" := by
  rw [statusTitle.eq_def]
  split
  · decide
  · cases severity <;> cases review <;> cases topCategory issues <;> decide

/-- A view of a valid configuration and of accepted reports has a title and shows nothing without
one; every group that is shown is configured with a title, and no source that is shown is found to
have none. -/
theorem compute_titled {raw : Json} {registry : Registry}
    (parsed : RegistryOf.parse raw = .ok (registry.map .plain)) {store : ReportStore}
    (accepted : store.Accepted) (resolver : ActionResolver) (ledger : DismissalLedger)
    (refresh : RefreshStatus) (users : UserGroup) :
    (compute registry resolver store ledger refresh users).Titled ∧
      (∀ g ∈ registry.groups, g.type ≠ .hidden → ∃ title, g.title = some title ∧ title ≠ "") ∧
      ∀ line ∈ lines registry resolver store ledger refresh users, ¬IsUntitledLine line := by
  have valid := RegistryOf.accepted_of_parse parsed
  have own {g : SourceGroup} (configured : g ∈ registry.groups) :=
    And.intro (valid.kind g configured) (valid.complete g configured)
  have heading {g : SourceGroup} (configured : g ∈ registry.groups) (shown : g.type ≠ .hidden) :=
    title_of_shown (valid.worded g configured) (valid.titled g configured) shown
  refine ⟨{
    title := statusTitle_ne _ _ _ _
    issues := fun issue listed => title_of_issueList accepted listed
    entries := fun item made entry inside => ?_
    entryGroups := fun group made => ?_
    staticEntryGroups := fun group made => ?_
    staticEntries := fun group made entry inside => ?_ }, fun g configured shown => ?_,
    fun line logged => ?_⟩
  · obtain ⟨g, configured, -, listed⟩ := exists_group_of_listed made inside
    exact title_of_groupEntries (own configured).1 (own configured).2 accepted listed
  · obtain ⟨g, configured, type, made⟩ := mem_entries.mp made
    rw [title_of_entryGroup made]
    exact heading configured (by simp [type])
  · obtain ⟨g, configured, type, rfl⟩ := mem_staticEntryGroups.mp made
    exact heading configured (by simp [type])
  · obtain ⟨g, configured, type, rfl⟩ := mem_staticEntryGroups.mp made
    obtain ⟨⟨_, unknown⟩, placed, rfl⟩ := List.mem_map.mp inside
    exact title_of_placedEntries (own configured).1 (own configured).2 accepted placed
  · obtain ⟨title, has⟩ := Option.isSome_iff_exists.mp (valid.titled g configured shown)
    exact ⟨title, has, valid.worded g configured title has⟩
  · rw [lines, List.mem_append] at logged
    rcases logged with issueLine | drawn
    · exact not_isUntitledLine_issueLines issueLine
    split at drawn
    case isFalse => cases drawn
    rcases List.mem_append.mp drawn with groupLine | titleLine
    · obtain ⟨g, configured, logged⟩ := List.mem_flatMap.mp groupLine
      exact not_isUntitledLine_groupLines (own configured).1 (own configured).2 accepted logged
    · rintro ⟨level, context, rfl⟩
      rw [titleLines] at titleLine
      split at titleLine <;> simp at titleLine

/-- A screen lock that reports an issue, for a parent with a running and a paused profile. -/
theorem compute_titled_sparse :
    let registry : Registry := ⟨Config.sparseGroups⟩
    let report : Report :=
      ⟨some ⟨"Screen lock", "No screen lock", .recommendation, true, none, none⟩,
        [⟨"none", "lock", .recommendation, .device, "No screen lock", "Anyone can look", none, []⟩]⟩
    let store := ((∅ : ReportStore).set ⟨"lock", 0⟩ report).2
    let v := compute registry .configured store ∅ .none ⟨0, [⟨10, true⟩, ⟨11, false⟩]⟩
    v.Titled ∧ v.issues.length = 1 ∧ v.entries.flatMap EntryItem.entries ≠ [] := by
  intro registry report store v
  have parsed : RegistryOf.parse Config.sparse = .ok (registry.map .plain) := by decide +kernel
  have accepted : store.Accepted := by
    intro key stored found
    rw [ReportStore.get?_set] at found
    split at found
    · cases found
      let lock : Source := ⟨"lock", .primary, false,
        .dynamic ⟨"org.lock", .criticalWarning, true, false⟩
          ⟨some "Screen lock", none, some "How the screen is locked", some "open.lock", .enabled⟩⟩
      exact ⟨lock, report.toJson, by decide +kernel⟩
    · cases found
  exact ⟨(compute_titled parsed accepted .configured ∅ .none _).1, by decide +kernel,
    by decide +kernel⟩

end View

end SafetyBoard
