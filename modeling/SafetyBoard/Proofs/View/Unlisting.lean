import SafetyBoard.Proofs.View.Overall
import SafetyBoard.Proofs.View.Reads

/-!
# What dismissing an issue does to a view

A view asks the ledger only about its issues. When one of them is dismissed it goes from the list,
where the others stay as they are and in their order; entries do not look at the ledger at all. So
the severity on top is what follows from fewer issues and the same entries, and it does not rise.
-/

namespace SafetyBoard

theorem OverallSeverity.one_le_rank {s : OverallSeverity} {n : Nat} (h : s.rank? = some n) :
    1 ≤ n := by
  cases s <;> cases h <;> decide

theorem IssueSeverity.rank?_toOverall (s : IssueSeverity) : s.toOverall.rank? = some s.rank := by
  cases s <;> rfl

namespace View

/-- The severity of the first issue; without issues, ok. -/
def firstSeverity (issues : List ViewIssue) : OverallSeverity :=
  (issues.head?.map (·.severity.toOverall)).getD .ok

/-- The second view is the first without the issue of a key; its severity is what follows from the
issues that are left and from the entries, which are those of the first. -/
structure HidesIssue (registry : Registry) (resolver : ActionResolver) (store : ReportStore)
    (users : UserGroup) (key : IssueKey) (v w : View) : Prop where
  issues : w.issues = v.issues.filter (·.key ≠ key)
  entries : w.entries = v.entries
  staticEntryGroups : w.staticEntryGroups = v.staticEntryGroups
  refreshStatus : w.refreshStatus = v.refreshStatus
  unknown : w.overallSeverity = .unknown ↔ Contributes registry resolver store users v .unknown ∧
    ∀ i ∈ w.issues, i.severity.toOverall.exceeds .ok = false
  known : w.overallSeverity ≠ .unknown → w.overallSeverity = firstSeverity w.issues
  noHigher : ∀ before after, v.overallSeverity.rank? = some before →
    w.overallSeverity.rank? = some after → after ≤ before

variable {registry : Registry} {resolver : ActionResolver} {store : ReportStore}
  {ledger : DismissalLedger} {users : UserGroup} {key : IssueKey} {severity : SourceSeverity}

def CoversReported (store : ReportStore) (key : IssueKey) (severity : SourceSeverity) : Prop :=
  ∀ report issue, store.get? key.source = some report → issue ∈ report.issues →
    issue.id = key.issueId → issue.severity.rank ≤ severity.rank

theorem openIssues_dismiss (sound : ledger.Sound) (covers : CoversReported store key severity)
    (now : Instant) :
    openIssues registry store (ledger.dismiss key severity now) users =
      (openIssues registry store ledger users).filter (·.key ≠ key) := by
  rw [openIssues, openIssues, List.filter_filter]
  refine List.filter_congr fun r reported => ?_
  obtain ⟨-, report, stored, member, named⟩ := readable_of_reported reported
  rw [Bool.eq_iff_iff, isOpen, Bool.not_eq_true', Bool.and_eq_true, isOpen, Bool.not_eq_true',
    decide_eq_true_iff, ← Bool.not_eq_true, ← Bool.not_eq_true,
    DismissalLedger.isDismissed_dismiss sound, not_or]
  refine and_congr_left fun _ => not_congr ⟨fun dismissed => dismissed.1.symm, ?_⟩
  rintro rfl
  exact ⟨rfl, covers report r.issue stored member named⟩

theorem isDrawable_dismiss (sound : ledger.Sound) (covers : CoversReported store key severity)
    (now : Instant) (drawable : isDrawable registry store ledger users = true) :
    isDrawable registry store (ledger.dismiss key severity now) users = true := by
  obtain ⟨spelled, actions⟩ := Bool.and_eq_true_iff.mp drawable
  rw [isDrawable, spelled, openIssues_dismiss sound covers, Bool.true_and, List.all_eq_true]
  intro r member
  exact List.all_eq_true.mp actions r (List.mem_filter.mp member).1

theorem issueList_dismiss (sound : ledger.Sound) (covers : CoversReported store key severity)
    (now : Instant) :
    issueList registry store (ledger.dismiss key severity now) users =
      (issueList registry store ledger users).filter (·.key ≠ key) := by
  have left : (openIssues registry store (ledger.dismiss key severity now) users).map
      (toViewIssue store) =
        ((openIssues registry store ledger users).map (toViewIssue store)).filter
          (·.key ≠ key) := by
    rw [openIssues_dismiss sound covers, List.filter_map]
    rfl
  have sorted := StableOrder.mergeSort (fun i : ViewIssue => i.severity.rank)
    ((openIssues registry store ledger users).map (toViewIssue store))
  rw [issueList, left]
  exact (StableOrder.mergeSort (fun i : ViewIssue => i.severity.rank) _).unique
    (sorted.filter fun i => i.key ≠ key)

theorem rank_le_of_sublist {issues fewer : List ViewIssue}
    (falling : issues.Pairwise fun i j => j.severity.rank ≤ i.severity.rank)
    (part : fewer.Sublist issues) {before after : Nat}
    (first : (firstSeverity issues).rank? = some before)
    (later : (firstSeverity fewer).rank? = some after) : after ≤ before := by
  cases fewer with
  | nil =>
    cases later
    exact OverallSeverity.one_le_rank first
  | cons i rest =>
    have member : i ∈ issues := part.subset List.mem_cons_self
    cases issues with
    | nil => cases member
    | cons j others =>
      have ranks : some j.severity.rank = some before ∧ some i.severity.rank = some after :=
        ⟨j.severity.rank?_toOverall.symm.trans first, i.severity.rank?_toOverall.symm.trans later⟩
      rw [Option.some_inj, Option.some_inj] at ranks
      rw [← ranks.1, ← ranks.2]
      rcases List.mem_cons.mp member with rfl | behind
      · exact Nat.le_refl _
      · exact List.rel_of_pairwise_cons falling behind

theorem compute_dismiss (sound : ledger.Sound) (covers : CoversReported store key severity)
    (now : Instant) (refresh : RefreshStatus) :
    HidesIssue registry resolver store users key
      (compute registry resolver store ledger refresh users)
      (compute registry resolver store (ledger.dismiss key severity now) refresh users) := by
  let v := compute registry resolver store ledger refresh users
  let w := compute registry resolver store (ledger.dismiss key severity now) refresh users
  have issues : w.issues = v.issues.filter (·.key ≠ key) := issueList_dismiss sound covers now
  have same : Contributes registry resolver store users w .unknown ↔
      Contributes registry resolver store users v .unknown :=
    mem_contributions_iff.symm.trans mem_contributions_iff
  have known := overallSeverity_of_known registry resolver store
  have unknown := overallSeverity_eq_unknown registry resolver store
    (ledger.dismiss key severity now) refresh users
  refine ⟨issues, rfl, rfl, rfl, unknown.trans (and_congr_left' same),
    known (ledger.dismiss key severity now) refresh users, fun before after first later => ?_⟩
  have level {s : OverallSeverity} {n : Nat} (ranked : s.rank? = some n) : s ≠ .unknown := by
    rintro rfl
    cases ranked
  rw [known ledger refresh users (level first)] at first
  rw [known _ refresh users (level later)] at later
  refine rank_le_of_sublist (issueList_falling registry store ledger users) ?_ first later
  change w.issues.Sublist v.issues
  rw [issues]
  exact List.filter_sublist

end View

end SafetyBoard
