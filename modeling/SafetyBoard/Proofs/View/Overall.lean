import Mathlib.Data.List.Induction
import SafetyBoard.Proofs.View.Order
import SafetyBoard.View.Remarks

/-!
# What stands on top of a view

The overall severity, the review flag and the title sum up what a view lists. They are computed from
two merges, one over the issues and one over the entries, in which unknown wins over every level;
here they are read off the finished view: its first issue, and the severities of its entries.
-/

namespace SafetyBoard

namespace OverallSeverity

theorem merge_eq_unknown {a b : OverallSeverity} :
    a.merge b = .unknown ↔ a = .unknown ∨ b = .unknown := by
  cases a <;> cases b <;> decide

theorem exceeds_merge (s a b : OverallSeverity) :
    s.exceeds (a.merge b) = (s.exceeds a && s.exceeds b) := by
  cases s <;> cases a <;> cases b <;> rfl

theorem merge_exceeds {a b : OverallSeverity} (ha : a ≠ .unknown) (hb : b ≠ .unknown)
    (s : OverallSeverity) : (a.merge b).exceeds s = (a.exceeds s || b.exceeds s) := by
  cases a <;> cases b <;> first | contradiction | (cases s <;> rfl)

theorem not_ok_exceeds (s : OverallSeverity) : ok.exceeds s = false := by
  cases s <;> rfl

end OverallSeverity

namespace IssueSeverity

theorem toOverall_ne_unknown (s : IssueSeverity) : s.toOverall ≠ .unknown := by
  cases s <;> exact nofun

theorem merge_toOverall {a b : IssueSeverity} (h : b.rank ≤ a.rank) :
    a.toOverall.merge b.toOverall = a.toOverall := by
  cases a <;> cases b <;> first | rfl | exact absurd h (by decide)

theorem ok_merge_toOverall (s : IssueSeverity) :
    OverallSeverity.ok.merge s.toOverall = s.toOverall := by
  cases s <;> rfl

end IssueSeverity

namespace View

section Highest

variable {severities : List OverallSeverity}

theorem highest_append (severities : List OverallSeverity) (s : OverallSeverity) :
    highest (severities ++ [s]) = (highest severities).merge s := by
  rw [highest, List.foldl_append]
  rfl

theorem highest_eq_unknown : highest severities = .unknown ↔ .unknown ∈ severities := by
  induction severities using List.reverseRecOn with
  | nil => simp [highest]
  | append_singleton severities s ih =>
    rw [highest_append, OverallSeverity.merge_eq_unknown, ih, List.mem_append,
      List.mem_singleton, eq_comm]

theorem exceeds_highest (s : OverallSeverity) :
    s.exceeds (highest severities) = true ↔
      s.exceeds .ok = true ∧ ∀ t ∈ severities, s.exceeds t = true := by
  induction severities using List.reverseRecOn with
  | nil => simp [highest]
  | append_singleton severities t ih =>
    rw [highest_append, OverallSeverity.exceeds_merge, Bool.and_eq_true, ih, and_assoc]
    simp [or_imp, forall_and]

/-- While none is unknown, the highest stands above what one of them stands above. -/
theorem highest_exceeds (known : .unknown ∉ severities) (s : OverallSeverity) :
    (highest severities).exceeds s = true ↔ ∃ t ∈ severities, t.exceeds s = true := by
  induction severities using List.reverseRecOn with
  | nil => simp [highest, OverallSeverity.not_ok_exceeds]
  | append_singleton severities t ih =>
    rw [List.mem_append, not_or, List.mem_singleton] at known
    have below : highest severities ≠ .unknown := fun h => known.1 (highest_eq_unknown.mp h)
    rw [highest_append, OverallSeverity.merge_exceeds below (Ne.symm known.2),
      Bool.or_eq_true, ih known.1]
    simp [or_and_right, exists_or]

end Highest

theorem highest_issues {issues : List ViewIssue}
    (falling : issues.Pairwise fun i j => j.severity.rank ≤ i.severity.rank) :
    highest (issues.map (·.severity.toOverall)) =
      (issues.head?.map (·.severity.toOverall)).getD .ok := by
  cases issues with
  | nil => rfl
  | cons first rest =>
    have below : ∀ i ∈ rest, i.severity.rank ≤ first.severity.rank := fun i hi =>
      List.rel_of_pairwise_cons falling hi
    rw [List.map_cons, highest, List.foldl_cons, IssueSeverity.ok_merge_toOverall,
      List.head?_cons, Option.map_some, Option.getD_some]
    clear falling
    induction rest with
    | nil => rfl
    | cons i rest ih =>
      rw [List.map_cons, List.foldl_cons,
        IssueSeverity.merge_toOverall (below i List.mem_cons_self)]
      exact ih fun j hj => below j (List.mem_cons_of_mem i hj)

theorem unknown_notMem_issues (issues : List ViewIssue) :
    .unknown ∉ issues.map (·.severity.toOverall) := by
  intro h
  obtain ⟨i, -, unknown⟩ := List.mem_map.mp h
  exact i.severity.toOverall_ne_unknown unknown

theorem issueList_falling (registry : Registry) (store : ReportStore) (ledger : DismissalLedger)
    (users : UserGroup) :
    (issueList registry store ledger users).Pairwise fun i j =>
      j.severity.rank ≤ i.severity.rank :=
  (StableOrder.mergeSort (fun i : ViewIssue => i.severity.rank) _).falling

/-- The severities that the entries of a view contribute: its own for each entry that is listed,
alone or in a group, and unknown for each entry kept in a rigid group whose profile is paused or
whose source is in error. -/
inductive Contributes (registry : Registry) (resolver : ActionResolver) (store : ReportStore)
    (users : UserGroup) (v : View) : OverallSeverity → Prop where
  | listed {item entry} : item ∈ v.entries → entry ∈ item.entries →
      Contributes registry resolver store users v entry.severity.toOverall
  | kept {g source member shown entry} : g ∈ registry.groups → g.type = .rigid →
      source ∈ g.sources → member ∈ users.members source.supportsManaged →
      placement resolver store source member = .shown entry →
      shown ∈ v.staticEntryGroups → entry ∈ shown.entries →
      member.isPaused = true ∨ store.hasError ⟨source.id, member.userId⟩ = true →
      Contributes registry resolver store users v .unknown

def contributions (registry : Registry) (resolver : ActionResolver) (store : ReportStore)
    (users : UserGroup) : List OverallSeverity :=
  (registry.groups.map (groupPart resolver store users)).flatMap (·.severities)

section Entries

variable {registry : Registry} {resolver : ActionResolver} {store : ReportStore}
  {users : UserGroup} {g : SourceGroup}

theorem flatMap_entryItems (store : ReportStore) (g : SourceGroup) (entries : List Entry) :
    (entryItems store g entries).flatMap EntryItem.entries = entries := by
  match entries with
  | [] => rfl
  | [_] => rfl
  | _ :: _ :: _ => simp [entryItems, EntryItem.entries]

theorem groupPart_collapsible (h : g.type = .collapsible) :
    groupPart resolver store users g =
      ⟨entryItems store g (groupEntries resolver store users g), [],
        (groupEntries resolver store users g).map (·.severity.toOverall)⟩ := by
  rw [groupPart, h]

theorem groupPart_rigid (h : g.type = .rigid) :
    groupPart resolver store users g =
      ⟨[], [⟨g.title.getD "", (placedEntries resolver store users g).map Prod.fst⟩],
        ((placedEntries resolver store users g).filter Prod.snd).map fun _ => .unknown⟩ := by
  rw [groupPart, h]

theorem groupPart_hidden (h : g.type = .hidden) :
    groupPart resolver store users g = ⟨[], [], []⟩ := by
  rw [groupPart, h]

theorem kept_eq_some {p : Placement} {entry : StaticEntry} :
    p.kept = some entry ↔ p = .shown entry := by
  cases p <;> simp [Placement.kept]

theorem mem_placedEntries {entry : StaticEntry} {unknown : Bool} :
    (entry, unknown) ∈ placedEntries resolver store users g ↔
      ∃ source ∈ g.sources, ∃ member ∈ users.members source.supportsManaged,
        placement resolver store source member = .shown entry ∧
          (member.isPaused || store.hasError ⟨source.id, member.userId⟩) = unknown := by
  simp only [placedEntries, List.mem_flatMap, List.mem_filterMap, Option.map_eq_some_iff,
    kept_eq_some, Prod.mk.injEq, memberKey]
  constructor
  · rintro ⟨source, stands, member, counts, _, shown, rfl, flag⟩
    exact ⟨source, stands, member, counts, shown, flag⟩
  · rintro ⟨source, stands, member, counts, shown, flag⟩
    exact ⟨source, stands, member, counts, entry, shown, rfl, flag⟩

variable {ledger : DismissalLedger} {refresh : RefreshStatus} {s : OverallSeverity}

theorem mem_entries {item : EntryItem} :
    item ∈ (compute registry resolver store ledger refresh users).entries ↔
      ∃ g ∈ registry.groups, g.type = .collapsible ∧
        item ∈ entryItems store g (groupEntries resolver store users g) := by
  have items : item ∈ (compute registry resolver store ledger refresh users).entries ↔
      ∃ g ∈ registry.groups, item ∈ (groupPart resolver store users g).items := by
    simp only [compute, List.flatMap_map, List.mem_flatMap]
  rw [items]
  refine exists_congr fun g => and_congr_right fun _ => ?_
  cases type : g.type with
  | collapsible => simp [groupPart_collapsible type]
  | rigid => simp [groupPart_rigid type]
  | hidden => simp [groupPart_hidden type]

theorem mem_staticEntryGroups {group : StaticEntryGroup} :
    group ∈ (compute registry resolver store ledger refresh users).staticEntryGroups ↔
      ∃ g ∈ registry.groups, g.type = .rigid ∧
        group = ⟨g.title.getD "", (placedEntries resolver store users g).map Prod.fst⟩ := by
  have groups : group ∈ (compute registry resolver store ledger refresh users).staticEntryGroups ↔
      ∃ g ∈ registry.groups, group ∈ (groupPart resolver store users g).staticGroups := by
    simp only [compute, List.flatMap_map, List.mem_flatMap]
  rw [groups]
  refine exists_congr fun g => and_congr_right fun _ => ?_
  cases type : g.type with
  | collapsible => simp [groupPart_collapsible type]
  | rigid => simp [groupPart_rigid type]
  | hidden => simp [groupPart_hidden type]

theorem exists_group_of_listed {item : EntryItem} {entry : Entry}
    (shown : item ∈ (compute registry resolver store ledger refresh users).entries)
    (inside : entry ∈ item.entries) :
    ∃ g ∈ registry.groups, g.type = .collapsible ∧
      entry ∈ groupEntries resolver store users g := by
  obtain ⟨g, configured, type, made⟩ := mem_entries.mp shown
  refine ⟨g, configured, type, ?_⟩
  rw [← flatMap_entryItems store g (groupEntries resolver store users g)]
  exact List.mem_flatMap.mpr ⟨item, made, inside⟩

theorem contributes_of_group (configured : g ∈ registry.groups)
    (h : s ∈ (groupPart resolver store users g).severities) :
    Contributes registry resolver store users
      (compute registry resolver store ledger refresh users) s := by
  have part : groupPart resolver store users g ∈
      registry.groups.map (groupPart resolver store users) := List.mem_map_of_mem configured
  cases type : g.type with
  | collapsible =>
    rw [groupPart_collapsible type] at h part
    obtain ⟨entry, member, rfl⟩ := List.mem_map.mp h
    rw [← flatMap_entryItems store g (groupEntries resolver store users g)] at member
    obtain ⟨item, shown, inside⟩ := List.mem_flatMap.mp member
    exact .listed (List.mem_flatMap.mpr ⟨_, part, shown⟩) inside
  | rigid =>
    rw [groupPart_rigid type] at h part
    obtain ⟨⟨entry, unknown⟩, placed, rfl⟩ := List.mem_map.mp h
    obtain ⟨placed, rfl⟩ := List.mem_filter.mp placed
    obtain ⟨source, stands, member, counts, shown, flag⟩ := mem_placedEntries.mp placed
    have listed : ⟨g.title.getD "", (placedEntries resolver store users g).map Prod.fst⟩ ∈
        (compute registry resolver store ledger refresh users).staticEntryGroups :=
      List.mem_flatMap.mpr ⟨_, part, List.mem_singleton_self _⟩
    exact .kept configured type stands counts shown listed (List.mem_map_of_mem placed)
      (Bool.or_eq_true_iff.mp flag)
  | hidden =>
    rw [groupPart_hidden type] at h
    cases h

theorem mem_contributions_iff :
    s ∈ contributions registry resolver store users ↔
      Contributes registry resolver store users
        (compute registry resolver store ledger refresh users) s := by
  rw [contributions, List.flatMap_map, List.mem_flatMap]
  constructor
  · rintro ⟨g, configured, h⟩
    exact contributes_of_group configured h
  · rintro (⟨shown, inside⟩ | ⟨configured, type, stands, counts, shown, -, -, flag⟩)
    · obtain ⟨g, configured, type, made⟩ := exists_group_of_listed shown inside
      refine ⟨g, configured, ?_⟩
      rw [groupPart_collapsible type]
      exact List.mem_map_of_mem made
    · refine ⟨_, configured, ?_⟩
      rw [groupPart_rigid type]
      have placed := mem_placedEntries.mpr
        ⟨_, stands, _, counts, shown, Bool.or_eq_true_iff.mpr flag⟩
      exact List.mem_map.mpr ⟨_, List.mem_filter.mpr ⟨placed, rfl⟩, rfl⟩

end Entries

theorem overall_eq_unknown {issues entries : OverallSeverity} (known : issues ≠ .unknown) :
    overall issues entries = .unknown ↔ entries = .unknown ∧ issues.exceeds .ok = false := by
  rw [overall]
  split
  · next h => simpa using h
  · next h => exact iff_of_false known (by simpa using h)

theorem overall_of_known {issues entries : OverallSeverity}
    (known : overall issues entries ≠ .unknown) : overall issues entries = issues := by
  rw [overall] at known ⊢
  split
  · next h => exact absurd (if_pos h) known
  · rfl

theorem needsReview_iff {issues entries : OverallSeverity} :
    needsReview issues entries = true ↔ entries = .unknown ∨ entries.exceeds issues = true := by
  simp [needsReview]

theorem statusTitle_calm {severity : OverallSeverity} (calm : severity = .unknown ∨ severity = .ok)
    (issues : List ViewIssue) (review : Bool) :
    statusTitle severity issues .none review =
      if review then Strings.okReviewTitle else Strings.okTitle := by
  rcases calm with rfl | rfl <;> rfl

theorem statusTitle_first {first : ViewIssue} (above : first.severity ≠ .ok)
    (rest : List ViewIssue) (review : Bool) :
    statusTitle first.severity.toOverall (first :: rest) .none review =
      if first.severity = .recommendation then Strings.recommendationTitle first.category
      else Strings.criticalTitle first.category := by
  cases severity : first.severity with
  | ok => exact absurd severity above
  | recommendation => rfl
  | criticalWarning => rfl

section Summary

variable (registry : Registry) (resolver : ActionResolver) (store : ReportStore)
  (ledger : DismissalLedger) (refresh : RefreshStatus) (users : UserGroup)

theorem overallSeverity_eq :
    let v := compute registry resolver store ledger refresh users
    v.overallSeverity = overall (highest (v.issues.map (·.severity.toOverall)))
      (highest (contributions registry resolver store users)) := rfl

theorem hasSettingsToReview_eq :
    let v := compute registry resolver store ledger refresh users
    v.hasSettingsToReview = needsReview (highest (v.issues.map (·.severity.toOverall)))
      (highest (contributions registry resolver store users)) := rfl

theorem overallSeverity_eq_unknown :
    let v := compute registry resolver store ledger refresh users
    v.overallSeverity = .unknown ↔ Contributes registry resolver store users v .unknown ∧
      ∀ i ∈ v.issues, i.severity.toOverall.exceeds .ok = false := by
  intro v
  have known : highest (v.issues.map (·.severity.toOverall)) ≠ .unknown :=
    highest_eq_unknown.not.mpr (unknown_notMem_issues v.issues)
  rw [overallSeverity_eq, overall_eq_unknown known, highest_eq_unknown]
  refine and_congr mem_contributions_iff ?_
  rw [Bool.eq_false_iff, ne_eq, highest_exceeds (unknown_notMem_issues v.issues)]
  simp

theorem overallSeverity_of_known :
    let v := compute registry resolver store ledger refresh users
    v.overallSeverity ≠ .unknown →
      v.overallSeverity = (v.issues.head?.map (·.severity.toOverall)).getD .ok := by
  intro v known
  rw [overallSeverity_eq] at known
  rw [overallSeverity_eq, overall_of_known known]
  exact highest_issues (issueList_falling registry store ledger users)

theorem hasSettingsToReview_iff :
    let v := compute registry resolver store ledger refresh users
    let E := Contributes registry resolver store users v
    v.hasSettingsToReview = true ↔ E .unknown ∨ ∃ s, E s ∧ s.exceeds .ok = true ∧
      ∀ i ∈ v.issues, s.exceeds i.severity.toOverall = true := by
  intro v E
  have member (s : OverallSeverity) : s ∈ contributions registry resolver store users ↔ E s :=
    mem_contributions_iff
  rw [hasSettingsToReview_eq, needsReview_iff, highest_eq_unknown, member]
  by_cases unknown : E .unknown
  · exact iff_of_true (Or.inl unknown) (Or.inl unknown)
  · rw [or_iff_right unknown, or_iff_right unknown,
      highest_exceeds ((member .unknown).not.mpr unknown)]
    refine exists_congr fun s => and_congr (member s) ?_
    rw [exceeds_highest, List.forall_mem_map]

/-- Above ok there is a first issue, and it has just the severity of the view. -/
theorem first_of_above_ok :
    let v := compute registry resolver store ledger refresh users
    v.overallSeverity.exceeds .ok = true →
      ∃ first rest, v.issues = first :: rest ∧ first.severity.toOverall = v.overallSeverity := by
  intro v above
  have known : v.overallSeverity ≠ .unknown := by
    intro unknown
    rw [unknown] at above
    cases above
  have severity := overallSeverity_of_known registry resolver store ledger refresh users known
  cases listed : v.issues with
  | nil =>
    rw [listed] at severity
    rw [severity] at above
    cases above
  | cons first rest =>
    rw [listed] at severity
    exact ⟨first, rest, rfl, severity.symm⟩

end Summary

/-- The overall severity, the review flag and the title agree with what the view lists. The view is
unknown exactly if an entry contributes unknown and no issue is above ok, and else as severe as its
first issue; settings are to be reviewed exactly if an entry contributes unknown or stands above ok
and every issue; a title above ok is phrased by the first issue, which is always there. -/
theorem summary_agrees (registry : Registry) (resolver : ActionResolver) (store : ReportStore)
    (ledger : DismissalLedger) (refresh : RefreshStatus) (users : UserGroup) :
    let v := compute registry resolver store ledger refresh users
    let E := Contributes registry resolver store users v
    (v.overallSeverity = .unknown ↔
      E .unknown ∧ ∀ i ∈ v.issues, i.severity.toOverall.exceeds .ok = false) ∧
    (v.overallSeverity ≠ .unknown →
      v.overallSeverity = (v.issues.head?.map (·.severity.toOverall)).getD .ok) ∧
    (v.hasSettingsToReview = true ↔ E .unknown ∨ ∃ s, E s ∧ s.exceeds .ok = true ∧
      ∀ i ∈ v.issues, s.exceeds i.severity.toOverall = true) ∧
    (v.overallSeverity = .recommendation ∨ v.overallSeverity = .criticalWarning →
      ∃ first rest, v.issues = first :: rest ∧
        first.severity.toOverall = v.overallSeverity ∧
        (refresh = .none → v.title = if first.severity = .recommendation then
          Strings.recommendationTitle first.category else Strings.criticalTitle first.category)) ∧
    titleLines v = [] ∧
    (refresh = .none → v.overallSeverity = .unknown ∨ v.overallSeverity = .ok →
      v.title = if v.hasSettingsToReview then Strings.okReviewTitle else Strings.okTitle) := by
  intro v E
  have above_ok {severity : OverallSeverity}
      (h : severity = .recommendation ∨ severity = .criticalWarning) :
      severity.exceeds .ok = true := by
    rcases h with rfl | rfl <;> rfl
  refine ⟨overallSeverity_eq_unknown registry resolver store ledger refresh users,
    overallSeverity_of_known registry resolver store ledger refresh users,
    hasSettingsToReview_iff registry resolver store ledger refresh users, ?_, ?_, ?_⟩
  · intro severity
    obtain ⟨first, rest, listed, same⟩ :=
      first_of_above_ok registry resolver store ledger refresh users (above_ok severity)
    refine ⟨first, rest, listed, same, ?_⟩
    rintro rfl
    have title : v.title = statusTitle v.overallSeverity v.issues .none v.hasSettingsToReview := rfl
    rw [title, ← same, listed]
    apply statusTitle_first
    intro ok
    rw [← same, ok] at severity
    rcases severity with h | h <;> cases h
  · apply if_neg
    rintro ⟨-, above, none_listed⟩
    obtain ⟨first, rest, listed, -⟩ :=
      first_of_above_ok registry resolver store ledger refresh users above
    cases none_listed.symm.trans listed
  · rintro rfl calm
    exact statusTitle_calm calm v.issues v.hasSettingsToReview

end View

end SafetyBoard
