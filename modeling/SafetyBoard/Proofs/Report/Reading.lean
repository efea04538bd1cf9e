import SafetyBoard.Proofs.Report.Admission
import SafetyBoard.Proofs.Source.Config
import SafetyBoard.Wire.Reports

/-!
# A report is read back from what is written for it

Whatever is read from a payload is well-formed: its texts have characters, and its issues have a
severity that means something. A well-formed report is written with all its defaults filled in and
is read back from that, so a source that made a report may make it again as it was stored.
-/

namespace SafetyBoard

structure IssueAction.WellFormed (a : IssueAction) : Prop where
  id : a.id ≠ ""
  label : a.label ≠ ""
  successMessage : Worded a.successMessage
  pendingAction : Worded a.pendingAction

structure Issue.WellFormed (i : Issue) : Prop where
  id : i.id ≠ ""
  typeId : i.typeId ≠ ""
  severity : i.severity ∈ Report.issueSeverities
  title : i.title ≠ ""
  summary : i.summary ≠ ""
  subtitle : Worded i.subtitle
  actions : ∀ a ∈ i.actions, a.WellFormed

structure Status.WellFormed (s : Status) : Prop where
  title : s.title ≠ ""
  summary : s.summary ≠ ""
  pendingAction : Worded s.pendingAction
  iconAction : ∀ icon, s.iconAction = some icon → icon.pendingAction ≠ ""

structure Report.WellFormed (r : Report) : Prop where
  status : ∀ s, r.status = some s → s.WellFormed
  issues : ∀ i ∈ r.issues, i.WellFormed

namespace Report

open Reader Checked

theorem reads_issueSeverity : (choice issueSeverities SourceSeverity.name).Reads
    (· ∈ issueSeverities) fun s => .string s.name :=
  reads_choice (by decide)

theorem reads_category :
    (choice IssueCategory.all IssueCategory.name).Reads (fun _ => True) fun c => .string c.name :=
  reads_anyChoice (fun c => by cases c <;> decide) (by decide)

theorem reads_iconType :
    (choice IconType.all IconType.name).Reads (fun _ => True) fun t => .string t.name :=
  reads_anyChoice (fun t => by cases t <;> decide) (by decide)

theorem reads_action : readAction.Reads (·.WellFormed) (·.toJson) := by
  refine reads_object (fun members a given => ?_) fun a wellFormed => ?_
  · simp only [gives_seq, gives_map] at given
    obtain ⟨id, hasId, label, hasLabel, resolving, -, success, hasSuccess, pending, hasPending,
      rfl⟩ := given
    exact {
      id := reads_text.of_required hasId
      label := reads_text.of_required hasLabel
      successMessage := reads_text.of_optional hasSuccess
      pendingAction := reads_text.of_optional hasPending }
  · obtain ⟨id, label, resolving, success, pending⟩ := a
    simp only [gives_seq, gives_map]
    refine ⟨id, reads_text.required_written wellFormed.id ?_ ?_,
      label, reads_text.required_written wellFormed.label ?_ ?_,
      resolving, reads_flag.defaulted_written trivial ?_ ?_,
      success, reads_text.optional_written wellFormed.successMessage ?_ ?_,
      pending, reads_text.optional_written wellFormed.pendingAction ?_ ?_, rfl⟩
    all_goals simp

theorem reads_issue : readIssue.Reads (·.WellFormed) (·.toJson) := by
  refine reads_object (fun members i given => ?_) fun i wellFormed => ?_
  · simp only [gives_seq, gives_map] at given
    obtain ⟨id, hasId, typeId, hasType, severity, hasSeverity, category, -, title, hasTitle,
      summary, hasSummary, subtitle, hasSubtitle, actions, hasActions, rfl⟩ := given
    exact {
      id := reads_text.of_required hasId
      typeId := reads_text.of_required hasType
      severity := reads_issueSeverity.of_required hasSeverity
      title := reads_text.of_required hasTitle
      summary := reads_text.of_required hasSummary
      subtitle := reads_text.of_optional hasSubtitle
      actions := reads_action.list.of_defaulted (List.forall_mem_nil _) hasActions }
  · obtain ⟨id, typeId, severity, category, title, summary, subtitle, actions⟩ := i
    simp only [gives_seq, gives_map]
    refine ⟨id, reads_text.required_written wellFormed.id ?_ ?_,
      typeId, reads_text.required_written wellFormed.typeId ?_ ?_,
      severity, reads_issueSeverity.required_written wellFormed.severity ?_ ?_,
      category, reads_category.defaulted_written trivial ?_ ?_,
      title, reads_text.required_written wellFormed.title ?_ ?_,
      summary, reads_text.required_written wellFormed.summary ?_ ?_,
      subtitle, reads_text.optional_written wellFormed.subtitle ?_ ?_,
      actions, reads_action.list.defaulted_written wellFormed.actions ?_ ?_, rfl⟩
    all_goals simp

theorem reads_iconAction : readIconAction.Reads (·.pendingAction ≠ "") (·.toJson) := by
  show readIconAction.Reads _ fun icon => .ofParts [("type", some (.string icon.type.name)),
    ("pendingAction", some (.string icon.pendingAction))]
  refine reads_object (fun members icon given => ?_) fun icon worded => ?_
  · simp only [gives_seq, gives_map] at given
    obtain ⟨type, -, pending, hasPending, rfl⟩ := given
    exact reads_text.of_required hasPending
  · obtain ⟨type, pending⟩ := icon
    simp only [gives_seq, gives_map]
    refine ⟨type, reads_iconType.required_written trivial ?_ ?_,
      pending, reads_text.required_written worded ?_ ?_, rfl⟩
    all_goals simp

theorem reads_status : readStatus.Reads (·.WellFormed) (·.toJson) := by
  refine reads_object (fun members s given => ?_) fun s wellFormed => ?_
  · simp only [gives_seq, gives_map] at given
    obtain ⟨title, hasTitle, summary, hasSummary, severity, -, enabled, -, pending, hasPending,
      icon, hasIcon, rfl⟩ := given
    exact {
      title := reads_text.of_required hasTitle
      summary := reads_text.of_required hasSummary
      pendingAction := reads_text.of_optional hasPending
      iconAction := reads_iconAction.of_optional hasIcon }
  · obtain ⟨title, summary, severity, enabled, pending, icon⟩ := s
    simp only [gives_seq, gives_map]
    refine ⟨title, reads_text.required_written wellFormed.title ?_ ?_,
      summary, reads_text.required_written wellFormed.summary ?_ ?_,
      severity, Config.reads_severity.required_written trivial ?_ ?_,
      enabled, reads_flag.defaulted_written trivial ?_ ?_,
      pending, reads_text.optional_written wellFormed.pendingAction ?_ ?_,
      icon, reads_iconAction.optional_written wellFormed.iconAction ?_ ?_, rfl⟩
    all_goals simp

theorem reads_report : read.Reads (·.WellFormed) (·.toJson) := by
  refine reads_object (fun members r given => ?_) fun r wellFormed => ?_
  · simp only [gives_seq, gives_map] at given
    obtain ⟨status, hasStatus, issues, hasIssues, rfl⟩ := given
    exact {
      status := reads_status.of_optional hasStatus
      issues := reads_issue.list.of_defaulted (List.forall_mem_nil _) hasIssues }
  · obtain ⟨status, issues⟩ := r
    simp only [gives_seq, gives_map]
    refine ⟨status, reads_status.optional_written wellFormed.status ?_ ?_,
      issues, reads_issue.list.defaulted_written wellFormed.issues ?_ ?_, rfl⟩
    all_goals simp

end Report

variable {ι : Type} {source : SourceOf ι} {payload : Json} {report : Report}

/-- An accepted report is well-formed, and its source may make it again as it was stored. -/
theorem SourceOf.accept_toJson (accepted : source.accept payload = .ok report) :
    report.WellFormed ∧ source.accept report.toJson = .ok report := by
  obtain ⟨read, permits⟩ := accept_eq_ok.mp accepted
  have wellFormed := Report.reads_report.sound read
  exact ⟨wellFormed, accept_eq_ok.mpr ⟨Report.reads_report.back wellFormed, permits⟩⟩

end SafetyBoard
