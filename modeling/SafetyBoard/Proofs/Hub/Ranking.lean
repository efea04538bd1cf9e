import SafetyBoard.Proofs.Hub.Reached
import SafetyBoard.Proofs.Hub.Sound
import SafetyBoard.Proofs.Source.Config
import SafetyBoard.Proofs.View.Issues
import SafetyBoard.Proofs.View.Overall
import SafetyBoard.Proofs.View.Reads
import SafetyBoard.Wire.Reports

/-!
# An issue never outranks the entry of its source

Where a source is shown with a severity for a user, that is the severity of the status in its stored
report, and the issues of the user come from the same report. A report is only accepted if its
status is at least as severe as each of its issues that matter. What is shown by default has no
severity or says that it is unknown, and a source that only shows what is configured has no issues,
as no other source has its id.
-/

namespace SafetyBoard

namespace SourceSeverity

theorem exceeds_of_toIssue {s : SourceSeverity} (above : s.toIssue ≠ .ok) :
    s.exceeds .information = true := by
  cases s <;> first | rfl | exact absurd rfl above

theorem rank_toIssue {s : SourceSeverity} (above : s.toIssue ≠ .ok) : s.toIssue.rank = s.rank := by
  cases s <;> first | rfl | exact absurd rfl above

theorem rank?_toEntry (s : SourceSeverity) : s.toEntry.rank? = some s.rank := by
  cases s <;> rfl

end SourceSeverity

namespace View

variable {registry : Registry} {resolver : ActionResolver} {store : ReportStore}
  {ledger : DismissalLedger} {users : UserGroup}

/-- An enabled entry that is not unknown shows the severity of a stored status, unless its source
only ever shows what is configured. -/
theorem severity_of_enabled {s : Source} {m : Member} {entry : Entry}
    (made : entryOf resolver store s m = some entry) (enabled : entry.enabled = true)
    (known : entry.severity ≠ .unknown) :
    (∃ fixed, s.kind = .fixed fixed) ∨ ∃ report status,
      store.get? (memberKey s m) = some report ∧ report.status = some status ∧
        entry.severity = status.severity.toEntry := by
  cases entryOf_eq_some_iff.mp made with
  | fixed kind => exact .inl ⟨_, kind⟩
  | reported _ _ stored has => exact .inr ⟨_, _, stored, has, if_pos enabled⟩
  | awaited => exact absurd rfl known

theorem rank_le_of_entry (distinct : (registry.allSources.map (·.id)).Nodup)
    (admitted : ∀ key report, store.get? key = some report → ∃ source payload,
      registry.source? key.sourceId = some source ∧ source.accept payload = .ok report)
    {issue : ViewIssue} (listed : issue ∈ issueList registry store ledger users)
    (above : issue.severity ≠ .ok)
    {s : Source} (configured : s ∈ registry.allSources) {m : Member} {entry : Entry}
    (made : entryOf resolver store s m = some entry) (same : entry.key = issue.key.source)
    (enabled : entry.enabled = true) (known : entry.severity ≠ .unknown) :
    ∃ rank, entry.severity.rank? = some rank ∧ issue.severity.rank ≤ rank := by
  obtain ⟨r, opened, rfl⟩ := mem_issueList.mp listed
  obtain ⟨report, stored, member, -⟩ := (readable_of_reported (mem_openIssues.mp opened).1).2
  have key : memberKey s m = r.key.source := (entryOf_eq_some_iff.mp made).key.1.symm.trans same
  rw [← key] at stored
  obtain ⟨source, payload, found, accepted⟩ := admitted _ _ stored
  obtain ⟨fixed, kind⟩ | ⟨report', status, stored', reported, severity⟩ :=
    severity_of_enabled made enabled known
  · cases RegistryOf.eq_of_found distinct configured found
    exact absurd kind (SourceOf.kind_of_accept accepted fixed)
  · cases stored.symm.trans stored'
    refine ⟨status.severity.rank, ?_, ?_⟩
    · rw [severity, SourceSeverity.rank?_toEntry]
    · calc r.issue.severity.toIssue.rank
          = r.issue.severity.rank := SourceSeverity.rank_toIssue above
        _ ≤ status.severity.rank := source.rank_le_of_accept accepted reported member
          (SourceSeverity.exceeds_of_toIssue above)

end View

namespace Hub

variable {σ : Type} {host : Host σ} {setup : Setup} {x : Hub × σ}

/-- Whatever was done to a hub with a valid configuration: where a view lists an issue above ok and
shows an enabled entry of the same source and user whose severity is not unknown, the entry is at
least as severe as the issue. -/
theorem issues_never_outrank_entries {raw : Json}
    (parsed : RegistryOf.parse raw = .ok (setup.registry.map .plain)) {faultless : Prop}
    {history : List Entered}
    (ran : Execution setup faultless (.initial setup.settings) history x.1.state)
    (free : x.1.held = false) (group : UserGroup) :
    LooksAt host setup x group fun v =>
      ∀ issue ∈ v.issues, issue.severity ≠ .ok →
        ∀ item ∈ v.entries, ∀ entry ∈ item.entries, entry.key = issue.key.source →
          entry.enabled = true → entry.severity ≠ .unknown →
          ∃ rank, entry.severity.rank? = some rank ∧ issue.severity.rank ≤ rank := by
  by_cases on : setup.settings.enabled = true
  · refine looksAt_view host on free ?_
    intro _ issue listed above item made entry inside same enabled known
    have accepted := RegistryOf.accepted_of_parse parsed
    have sound := (HubState.sound_initial setup).execution ran
    obtain ⟨g, configured, -, entered⟩ := View.exists_group_of_listed made inside
    obtain ⟨s, stands, found⟩ := List.mem_flatMap.mp entered
    obtain ⟨m, -, made⟩ := List.mem_filterMap.mp found
    exact View.rank_le_of_entry accepted.distinctSources
      (fun key report stored => (sound.admitted key report stored).2) listed above
      (List.mem_flatMap.mpr ⟨g, configured, stands⟩) made same enabled known
  · refine looksAt host setup free group fun v nothing => ?_
    rw [shown, if_neg on] at nothing
    cases nothing
    exact List.forall_mem_nil _

theorem issues_never_outrank_entries_locked :
    let setup : Setup := ⟨⟨Config.sparseGroups⟩, .configured, ⟨true, true, [], .default, false⟩⟩
    let report : Report :=
      ⟨some ⟨"Screen lock", "No screen lock", .criticalWarning, true, none, none⟩,
        [⟨"none", "lock", .recommendation, .device, "No screen lock", "Anyone can look", none, []⟩]⟩
    let x := ((run diary setup (.setSourceData ⟨"lock", 0⟩ report.toJson none)).run
        (.initial setup.settings, (⟨[], [], []⟩ : Diary))).2
    ∃ v h, (run diary setup (.view ⟨0, []⟩)).run x = (.ok (.view v), x.1, h) ∧
      ∃ issue ∈ v.issues, ∃ item ∈ v.entries, ∃ entry ∈ item.entries, ∃ rank,
        entry.key = issue.key.source ∧ issue.severity = .recommendation ∧
          entry.severity.rank? = some rank ∧ issue.severity.rank ≤ rank := by
  intro setup report x
  have orderly := diary_orderly setup False
  have parsed : RegistryOf.parse Config.sparse = .ok (setup.registry.map .plain) := by
    decide +kernel
  have reached : Reached diary setup False _ x :=
    (Reached.start (⟨[], [], []⟩ : Diary)).quietly 0 (by decide +kernel)
  have drawable : x.1.state.isDrawable setup ⟨0, []⟩ = true := by decide +kernel
  obtain ⟨v, h, viewed, ranks⟩ := (issues_never_outrank_entries parsed
    (reached.execution orderly) (reached.free orderly) ⟨0, []⟩).of_drawable drawable
  have enabled : setup.settings.enabled = true := rfl
  obtain ⟨_, viewed'⟩ := run_view_of_drawable diary enabled (reached.free orderly) drawable
  have same : v = x.1.state.view setup ⟨0, []⟩ :=
    Answer.view.inj (Except.ok.inj (congrArg Prod.fst (viewed.symm.trans viewed')))
  subst same
  refine ⟨_, h, viewed, ?_⟩
  obtain ⟨issue, listed, item, made, entry, inside, same, severity, taps, known⟩ :
      ∃ issue ∈ (x.1.state.view setup ⟨0, []⟩).issues,
        ∃ item ∈ (x.1.state.view setup ⟨0, []⟩).entries, ∃ entry ∈ item.entries,
          entry.key = issue.key.source ∧ issue.severity = .recommendation ∧
            entry.enabled = true ∧ entry.severity ≠ .unknown := by decide +kernel
  obtain ⟨rank, ranked, below⟩ :=
    ranks issue listed (by rw [severity]; decide) item made entry inside same taps known
  exact ⟨issue, listed, item, made, entry, inside, rank, same, severity, ranked, below⟩

end Hub

end SafetyBoard
