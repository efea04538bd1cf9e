import SafetyBoard.Proofs.Fresh
import SafetyBoard.Report.Admission

/-!
# Which reports a source may make

A payload is accepted exactly if the report that is read from it is one that its source may make: no
id is used twice, no severity is above the highest one of the source, and no issue that matters is
more severe than the status that it is reported with. The checks stop at the first fault, so each of
them is shown to find none exactly if there is none.
-/

namespace SafetyBoard

/-- An issue that may be reported, with the status that it is reported with, if there is one. -/
structure Issue.Permitted (max : SourceSeverity) (status : Option SourceSeverity) (i : Issue) :
    Prop where
  max : i.severity.rank ≤ max.rank
  status : ∀ s, status = some s → SourceSeverity.information.rank < i.severity.rank →
    i.severity.rank ≤ s.rank
  actions : (i.actions.map (·.id)).Nodup

structure Report.Permitted (mayHaveStatus : Bool) (max : SourceSeverity) (r : Report) : Prop where
  status : ∀ s, r.status = some s → mayHaveStatus = true ∧ s.severity.rank ≤ max.rank
  distinct : r.issueIds.Nodup
  issues : ∀ i ∈ r.issues, i.Permitted max (r.status.map (·.severity))

/-- A report that the source may make: none if it only shows what is configured, and none with a
status if it only has issues. -/
def SourceOf.Permits {ι : Type} (s : SourceOf ι) (r : Report) : Prop :=
  match s.kind with
  | .fixed _ => False
  | .dynamic reporting _ => r.Permitted true reporting.maxSeverity
  | .issueOnly reporting => r.Permitted false reporting.maxSeverity

theorem SourceSeverity.exceeds_eq_false {a b : SourceSeverity} :
    a.exceeds b = false ↔ a.rank ≤ b.rank := by
  rw [exceeds, decide_eq_false_iff_not, Nat.not_lt]

namespace Admission

theorem readReporting_eq_ok {mayHaveStatus : Bool} {max : SourceSeverity} {payload : Json}
    {report : Report} : readReporting mayHaveStatus max payload = .ok report ↔
      Report.read payload = .good report ∧ fault? mayHaveStatus max report = none := by
  rw [readReporting]
  cases read : Report.read payload with
  | bad first more => exact ⟨nofun, fun h => by cases h.1⟩
  | good found =>
    dsimp only
    cases fault : fault? mayHaveStatus max found with
    | some rejection =>
      refine ⟨nofun, ?_⟩
      rintro ⟨same, none⟩
      cases same
      rw [none] at fault
      cases fault
    | none =>
      constructor
      · intro accepted
        cases accepted
        exact ⟨rfl, fault⟩
      · rintro ⟨same, -⟩
        cases same
        rfl

theorem faultIf_eq_none {p : Prop} [Decidable p] {fault : Rejection} {later : Option Rejection} :
    (if p then some fault else later) = none ↔ ¬p ∧ later = none := by
  split
  · next found => exact iff_of_false nofun fun none => none.1 found
  · next passed => exact (and_iff_right passed).symm

theorem actionFault?_eq_none {issue : Text} {seen : List Text} {actions : List IssueAction} :
    actionFault? issue seen actions = none ↔ Fresh seen (actions.map (·.id)) := by
  induction actions generalizing seen with
  | nil => simp [actionFault?, Fresh]
  | cons a rest ih =>
    rw [actionFault?, faultIf_eq_none, ih, List.contains_iff_mem, List.map_cons, fresh_cons]

/-- No status is outranked exactly if the issue is up to information or up to the status. -/
theorem outranked_eq_none {severity : SourceSeverity} {status : Option SourceSeverity} :
    (status.filter fun s => severity.exceeds .information && severity.exceeds s) = none ↔
      ∀ s, status = some s → SourceSeverity.information.rank < severity.rank →
        severity.rank ≤ s.rank := by
  rw [Option.filter_eq_none_iff]
  refine forall₂_congr fun s _ => ?_
  rw [Bool.and_eq_true, not_and, Bool.not_eq_true, SourceSeverity.exceeds_eq_false,
    SourceSeverity.exceeds, decide_eq_true_iff]

theorem permitted_iff {max : SourceSeverity} {status : Option SourceSeverity} {i : Issue} :
    i.Permitted max status ↔ i.severity.exceeds max = false ∧
      (status.filter fun s => i.severity.exceeds .information && i.severity.exceeds s) = none ∧
        actionFault? i.id [] i.actions = none := by
  rw [SourceSeverity.exceeds_eq_false, outranked_eq_none, actionFault?_eq_none, fresh_nil]
  exact ⟨fun ⟨max, status, actions⟩ => ⟨max, status, actions⟩,
    fun ⟨max, status, actions⟩ => ⟨max, status, actions⟩⟩

theorem issueFault?_eq_none {max : SourceSeverity} {status : Option SourceSeverity}
    {seen : List Text} {issues : List Issue} :
    issueFault? max status seen issues = none ↔
      Fresh seen (issues.map (·.id)) ∧ ∀ i ∈ issues, i.Permitted max status := by
  induction issues generalizing seen with
  | nil => simp [issueFault?, Fresh]
  | cons first rest ih =>
    rw [issueFault?, faultIf_eq_none, faultIf_eq_none, List.contains_iff_mem, Bool.not_eq_true,
      List.map_cons, fresh_cons, List.forall_mem_cons, permitted_iff]
    dsimp only
    cases status.filter fun s =>
        first.severity.exceeds .information && first.severity.exceeds s with
    | some s => simp
    | none =>
      rw [Option.orElse_eq_orElse, Option.orElse_eq_or, Option.or_eq_none_iff, ih]
      tauto

theorem statusFault?_eq_none {mayHaveStatus : Bool} {max : SourceSeverity}
    {status : Option Status} : statusFault? mayHaveStatus max status = none ↔
      ∀ s, status = some s → mayHaveStatus = true ∧ s.severity.rank ≤ max.rank := by
  cases status with
  | none => simp [statusFault?]
  | some s =>
    have severity : (if s.severity.exceeds max then some (Rejection.statusTooSevere s.severity max)
        else none) = none ↔ s.severity.rank ≤ max.rank := by
      rw [faultIf_eq_none, and_iff_left rfl, Bool.not_eq_true, SourceSeverity.exceeds_eq_false]
    rw [statusFault?, faultIf_eq_none, severity]
    simp

theorem fault?_eq_none {mayHaveStatus : Bool} {max : SourceSeverity} {r : Report} :
    fault? mayHaveStatus max r = none ↔ r.Permitted mayHaveStatus max := by
  rw [fault?, Option.orElse_eq_orElse, Option.orElse_eq_or, Option.or_eq_none_iff,
    statusFault?_eq_none, issueFault?_eq_none, fresh_nil]
  exact ⟨fun ⟨status, distinct, issues⟩ => ⟨status, distinct, issues⟩,
    fun ⟨status, distinct, issues⟩ => ⟨status, distinct, issues⟩⟩

end Admission

variable {ι : Type} {source : SourceOf ι} {payload : Json} {report : Report}

theorem SourceOf.accept_eq_ok : source.accept payload = .ok report ↔
    Report.read payload = .good report ∧ source.Permits report := by
  rw [accept, Permits]
  cases source.kind with
  | fixed _ => exact iff_of_false nofun fun permitted => permitted.2
  | dynamic reporting _ =>
    exact Admission.readReporting_eq_ok.trans (and_congr_right' Admission.fault?_eq_none)
  | issueOnly reporting =>
    exact Admission.readReporting_eq_ok.trans (and_congr_right' Admission.fault?_eq_none)

theorem SourceOf.Permits.permitted (permits : source.Permits report) :
    ∃ mayHaveStatus max, report.Permitted mayHaveStatus max := by
  rw [Permits] at permits
  split at permits
  · exact permits.elim
  · exact ⟨_, _, permits⟩
  · exact ⟨_, _, permits⟩

theorem SourceOf.nodup_issueIds (accepted : source.accept payload = .ok report) :
    report.issueIds.Nodup := by
  obtain ⟨mayHaveStatus, max, permitted⟩ := (accept_eq_ok.mp accepted).2.permitted
  exact permitted.distinct

theorem SourceOf.rank_le_of_accept (accepted : source.accept payload = .ok report) {status : Status}
    (reported : report.status = some status) {issue : Issue} (member : issue ∈ report.issues)
    (above : issue.severity.exceeds .information = true) :
    issue.severity.rank ≤ status.severity.rank := by
  obtain ⟨mayHaveStatus, max, permitted⟩ := (accept_eq_ok.mp accepted).2.permitted
  exact (permitted.issues issue member).status status.severity
    (congrArg (Option.map Status.severity) reported) (of_decide_eq_true above)

/-- Only a source that reports makes reports. -/
theorem SourceOf.isExternal_of_accept (accepted : source.accept payload = .ok report) :
    source.isExternal = true := by
  rw [accept] at accepted
  rw [isExternal, reporting?]
  split at accepted
  · cases accepted
  · next kind => rw [kind]; rfl
  · next kind => rw [kind]; rfl

/-- A source that only shows what is configured makes no reports. -/
theorem SourceOf.kind_of_accept (accepted : source.accept payload = .ok report) (entry : FixedEntry) :
    source.kind ≠ .fixed entry := by
  intro kind
  rw [accept, kind] at accepted
  cases accepted

end SafetyBoard
