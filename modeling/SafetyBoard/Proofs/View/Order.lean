import Mathlib.Data.List.Forall2
import SafetyBoard.Proofs.Text.Spelled
import SafetyBoard.View.Board

/-!
# The order of the issues of a view

A stable order by rank is a permutation that never goes up in rank and leaves what has the same rank
in its order; a list has exactly one. A view lists the reported issues that are not dismissed, as
they are collected source after source, user after user and report after report, in the stable order
by severity. None is drawn if one of their ids, or of the ids of their actions, is garbled.
-/

namespace SafetyBoard

/-- The one list is the other by falling rank; within a rank nothing changes places. -/
structure StableOrder {α : Type} (rank : α → Nat) (given ordered : List α) : Prop where
  perm : ordered.Perm given
  falling : ordered.Pairwise fun a b => rank b ≤ rank a
  ties : ∀ r, ordered.filter (rank · = r) = given.filter (rank · = r)

namespace StableOrder

variable {α : Type} {rank : α → Nat}

theorem rank_le_head {a b : α} {rest : List α}
    (falling : (b :: rest).Pairwise fun a b => rank b ≤ rank a) (h : a ∈ b :: rest) :
    rank a ≤ rank b := by
  rcases List.mem_cons.mp h with rfl | later
  · exact Nat.le_refl _
  · exact List.rel_of_pairwise_cons falling later

theorem mem_of_ties {xs ys : List α} (ties : ∀ r, xs.filter (rank · = r) = ys.filter (rank · = r))
    {a : α} (h : a ∈ xs) : a ∈ ys := by
  have own : a ∈ xs.filter (rank · = rank a) := List.mem_filter.mpr ⟨h, decide_eq_true rfl⟩
  rw [ties] at own
  exact (List.mem_filter.mp own).1

theorem eq_of_ties {xs ys : List α} (hx : xs.Pairwise fun a b => rank b ≤ rank a)
    (hy : ys.Pairwise fun a b => rank b ≤ rank a)
    (ties : ∀ r, xs.filter (rank · = r) = ys.filter (rank · = r)) : xs = ys := by
  induction xs generalizing ys with
  | nil =>
    apply (List.eq_nil_iff_forall_not_mem.mpr fun a ha => ?_).symm
    exact List.not_mem_nil (mem_of_ties (fun r => (ties r).symm) ha)
  | cons a xs ih =>
    cases ys with
    | nil => exact absurd (mem_of_ties ties List.mem_cons_self) List.not_mem_nil
    | cons b ys =>
      have below : rank a ≤ rank b := rank_le_head hy (mem_of_ties ties List.mem_cons_self)
      have above : rank b ≤ rank a :=
        rank_le_head hx (mem_of_ties (fun r => (ties r).symm) List.mem_cons_self)
      have same : rank b = rank a := Nat.le_antisymm above below
      have heads := ties (rank a)
      rw [List.filter_cons_of_pos (by simp), List.filter_cons_of_pos (by simp [same])] at heads
      obtain ⟨rfl, -⟩ := List.cons.inj heads
      congr 1
      refine ih hx.of_cons hy.of_cons fun r => ?_
      have rests := ties r
      rw [List.filter_cons, List.filter_cons] at rests
      split at rests
      · exact (List.cons.inj rests).2
      · exact rests

theorem unique {given xs ys : List α} (hx : StableOrder rank given xs)
    (hy : StableOrder rank given ys) : xs = ys :=
  eq_of_ties hx.falling hy.falling fun r => (hx.ties r).trans (hy.ties r).symm

theorem mergeSort (rank : α → Nat) (given : List α) :
    StableOrder rank given (given.mergeSort fun a b => rank b ≤ rank a) := by
  have trans : ∀ a b c : α, decide (rank b ≤ rank a) = true → decide (rank c ≤ rank b) = true →
      decide (rank c ≤ rank a) = true := by
    intro a b c h k
    exact decide_eq_true (Nat.le_trans (of_decide_eq_true k) (of_decide_eq_true h))
  have total : ∀ a b : α, (decide (rank b ≤ rank a) || decide (rank a ≤ rank b)) = true := by
    intro a b
    simpa using Nat.le_total (rank b) (rank a)
  have perm := given.mergeSort_perm fun a b => decide (rank b ≤ rank a)
  refine ⟨perm, ?_, fun r => ?_⟩
  · simpa using List.pairwise_mergeSort trans total given
  · have level : (given.filter (rank · = r)).Pairwise fun a b =>
        decide (rank b ≤ rank a) = true := by
      apply List.pairwise_filter.mpr
      apply List.pairwise_of_forall
      intro a b ha hb
      rw [of_decide_eq_true ha, of_decide_eq_true hb]
      exact decide_eq_true (Nat.le_refl r)
    have kept := (List.sublist_mergeSort trans total level List.filter_sublist).filter (rank · = r)
    rw [List.filter_filter] at kept
    simp only [Bool.and_self] at kept
    exact (kept.eq_of_length (perm.filter _).length_eq.symm).symm

theorem filter {given ordered : List α} (h : StableOrder rank given ordered) (p : α → Bool) :
    StableOrder rank (given.filter p) (ordered.filter p) := by
  refine ⟨h.perm.filter p, h.falling.filter p, fun r => ?_⟩
  rw [List.filter_comm, h.ties, List.filter_comm]

end StableOrder

namespace View

/-- A view action is an action of an issue, with whether it is in flight. -/
structure ShowsAction (store : ReportStore) (issue : IssueKey) (a : IssueAction) (v : ViewAction) :
    Prop where
  id : v.id = a.id
  label : v.label = a.label
  resolving : v.resolving = a.resolving
  inFlight : v.inFlight = true ↔ ∃ id : String, a.id = id ∧ store.isActionInFlight ⟨issue, id⟩
  successMessage : v.successMessage = a.successMessage
  pendingAction : v.pendingAction = a.pendingAction

structure Shows (store : ReportStore) (r : ReportedIssue) (v : ViewIssue) : Prop where
  id : v.id = r.key.encode
  key : v.key = r.key
  typeId : v.typeId = r.issue.typeId
  severity : v.severity = r.issue.severity.toIssue
  category : v.category = r.issue.category
  title : v.title = r.issue.title
  summary : v.summary = r.issue.summary
  subtitle : v.subtitle = r.issue.subtitle
  confirm : v.shouldConfirmDismissal = true ↔ IssueSeverity.ok.rank < v.severity.rank
  actions : List.Forall₂ (ShowsAction store r.key) r.issue.actions v.actions

/-- What a view collects: of each source that reports, for the parent and then, if the source
supports them, for each running profile, the issues of the stored report that are not dismissed. -/
def collected (registry : Registry) (store : ReportStore) (ledger : DismissalLedger)
    (users : UserGroup) : List ReportedIssue :=
  (registry.sources.filter (·.isExternal)).flatMap fun source =>
    let profiles := if source.supportsManaged then users.managed.filter (·.running) else []
    (users.parent :: profiles.map (·.userId)).flatMap fun user =>
      let reported := match store.get? ⟨source.id, user⟩ with
        | some report => report.issues
        | none => []
      reported.filterMap fun issue => issue.id.spelled?.bind fun id =>
        let key : IssueKey := ⟨source.id, id, user⟩
        if ledger.isDismissed key issue.severity then none else some ⟨key, issue⟩

/-- No text that a view has to encode is garbled: the ids of all issues that count for the group, and
of the actions of those that are collected. -/
structure Encodable (registry : Registry) (store : ReportStore) (ledger : DismissalLedger)
    (users : UserGroup) : Prop where
  issues : ∀ source ∈ registry.externalSources, ∀ user ∈ users.reportingUsers source.supportsManaged,
    ∀ report, store.get? ⟨source.id, user⟩ = some report → ∀ issue ∈ report.issues,
      ∃ id : String, issue.id = id
  actions : ∀ r ∈ collected registry store ledger users, ∀ a ∈ r.issue.actions,
    ∃ id : String, a.id = id

variable {registry : Registry} {store : ReportStore} {ledger : DismissalLedger}

theorem openIssues_eq_collected (users : UserGroup) :
    openIssues registry store ledger users = collected registry store ledger users := by
  have managed (source : Source) : users.reportingUsers source.supportsManaged =
      users.parent :: ((if source.supportsManaged then users.managed.filter (·.running)
        else []).map (·.userId)) := by
    rw [UserGroup.reportingUsers]
    split <;> rfl
  rw [openIssues, reportedIssues, List.filter_flatMap]
  refine List.flatMap_congr fun source _ => ?_
  rw [List.filter_flatMap, managed]
  refine List.flatMap_congr fun user _ => ?_
  rw [sourceIssues]
  cases store.get? ⟨source.id, user⟩ with
  | none => rfl
  | some report =>
    dsimp only
    rw [← List.filterMap_eq_filter, List.filterMap_filterMap]
    refine List.filterMap_congr fun issue _ => ?_
    rw [keyed?]
    cases issue.id.spelled? with
    | none => rfl
    | some id =>
      cases hidden : ledger.isDismissed ⟨source.id, id, user⟩ issue.severity <;>
        simp [isOpen, hidden, Option.guard, SourceKey.issue]

theorem isDrawable_iff {users : UserGroup} :
    isDrawable registry store ledger users = true ↔ Encodable registry store ledger users := by
  rw [isDrawable, Bool.and_eq_true, openIssues_eq_collected, reports]
  simp only [List.all_eq_true, List.mem_flatMap, List.mem_filterMap, Report.isSpelled,
    Report.issueIds, List.all_map, Function.comp_apply, Text.isSpelled_iff]
  constructor
  · rintro ⟨issues, actions⟩
    exact ⟨fun source external user counts report stored =>
      issues report ⟨source, external, user, counts, stored⟩, actions⟩
  · rintro ⟨issues, actions⟩
    refine ⟨?_, actions⟩
    rintro report ⟨source, external, user, counts, stored⟩
    exact issues source external user counts report stored

theorem forall₂_iff_eq_map {α β : Type} {R : α → β → Prop} {f : α → β}
    (h : ∀ a b, R a b ↔ b = f a) {as : List α} {bs : List β} :
    List.Forall₂ R as bs ↔ bs = as.map f := by
  induction as generalizing bs with
  | nil => exact List.forall₂_nil_left_iff
  | cons a as ih =>
    rw [List.forall₂_cons_left_iff, List.map_cons]
    constructor
    · rintro ⟨b, rest, first, others, rfl⟩
      rw [(h a b).mp first, ih.mp others]
    · rintro rfl
      exact ⟨f a, as.map f, (h a _).mpr rfl, ih.mpr rfl, rfl⟩

theorem showsAction_iff (issue : IssueKey) (a : IssueAction) (v : ViewAction) :
    ShowsAction store issue a v ↔
      v = ⟨a.id, a.label, a.resolving, isInFlight store issue a, a.successMessage,
        a.pendingAction⟩ := by
  have inFlight : isInFlight store issue a = true ↔
      ∃ id : String, a.id = id ∧ store.isActionInFlight ⟨issue, id⟩ := by
    simp only [isInFlight, Option.any_eq_true, Text.spelled?_eq_some]
  constructor
  · intro h
    obtain ⟨id, label, resolving, flying, successMessage, pendingAction⟩ := v
    rw [ViewAction.mk.injEq]
    exact ⟨h.id, h.label, h.resolving, Bool.eq_iff_iff.mpr (h.inFlight.trans inFlight.symm),
      h.successMessage, h.pendingAction⟩
  · rintro rfl
    exact ⟨rfl, rfl, rfl, inFlight, rfl, rfl⟩

theorem above_ok_iff {severity : IssueSeverity} :
    IssueSeverity.ok.rank < severity.rank ↔ severity ≠ .ok := by
  cases severity <;> decide

theorem shows_iff (r : ReportedIssue) (v : ViewIssue) :
    Shows store r v ↔ v = toViewIssue store r := by
  have actions (vs : List ViewAction) :
      List.Forall₂ (ShowsAction store r.key) r.issue.actions vs ↔
        vs = (toViewIssue store r).actions :=
    forall₂_iff_eq_map (showsAction_iff r.key)
  constructor
  · intro h
    obtain ⟨id, key, typeId, severity, category, title, summary, subtitle, confirm, vs⟩ := v
    have confirmed : confirm = decide (r.issue.severity.toIssue ≠ .ok) := by
      rw [Bool.eq_iff_iff, h.confirm, above_ok_iff, decide_eq_true_iff, h.severity]
    rw [toViewIssue, ViewIssue.mk.injEq]
    exact ⟨h.id, h.key, h.typeId, h.severity, h.category, h.title, h.summary, h.subtitle,
      confirmed, (actions vs).mp h.actions⟩
  · rintro rfl
    refine ⟨rfl, rfl, rfl, rfl, rfl, rfl, rfl, rfl, ?_, (actions _).mpr rfl⟩
    exact decide_eq_true_iff.trans above_ok_iff.symm

theorem issueList_eq_map (users : UserGroup) :
    issueList registry store ledger users =
      ((collected registry store ledger users).mergeSort fun a b =>
        b.issue.severity.toIssue.rank ≤ a.issue.severity.toIssue.rank).map (toViewIssue store) := by
  rw [issueList, openIssues_eq_collected]
  symm
  apply List.map_mergeSort
  intro a _ b _
  rfl

theorem eq_issueList_iff (users : UserGroup) (issues : List ViewIssue) :
    issues = issueList registry store ledger users ↔
      ∃ order, StableOrder (·.issue.severity.toIssue.rank)
          (collected registry store ledger users) order ∧
        List.Forall₂ (Shows store) order issues := by
  have sorted := StableOrder.mergeSort (·.issue.severity.toIssue.rank)
    (collected registry store ledger users)
  have shown {order : List ReportedIssue} :
      List.Forall₂ (Shows store) order issues ↔ issues = order.map (toViewIssue store) :=
    forall₂_iff_eq_map shows_iff
  rw [issueList_eq_map]
  constructor
  · intro listed
    exact ⟨_, sorted, shown.mpr listed⟩
  · rintro ⟨order, stable, listed⟩
    rw [← stable.unique sorted]
    exact shown.mp listed

end View

end SafetyBoard
