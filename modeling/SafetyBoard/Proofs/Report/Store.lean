import Mathlib.Data.List.Nodup
import SafetyBoard.Proofs.Keys
import SafetyBoard.Proofs.Table
import SafetyBoard.Report.Store

/-!
# What a report store answers

A store is looked at by keys: for the report of a source and user, for its error flag and for an
action in flight. Each change is described here by what these look-ups give after it. Between
changes everything stands under the key it belongs to, and whatever is in flight is an action of an
issue in the report that is stored.
-/

namespace SafetyBoard

def Report.Offers (r : Report) (action : ActionKey) : Prop :=
  ∃ issue a, r.issue? action.issue.issueId = some issue ∧ issue.action? action.actionId = some a

namespace ReportStore

structure Keyed (s : ReportStore) : Prop where
  reports : s.reports.NamedBy fun stored => stored.key.encode
  errors : s.errors.NamedBy SourceKey.encode
  actions : s.actionsInFlight.NamedBy ActionKey.encode

variable {s : ReportStore}

theorem keyed_empty : (∅ : ReportStore).Keyed :=
  ⟨Table.namedBy_empty _, Table.namedBy_empty _, Table.namedBy_empty _⟩

@[simp]
theorem get?_empty (key : SourceKey) : (∅ : ReportStore).get? key = none := rfl

@[simp]
theorem hasError_empty (key : SourceKey) : (∅ : ReportStore).hasError key = false := rfl

@[simp]
theorem isActionInFlight_empty (action : ActionKey) :
    (∅ : ReportStore).isActionInFlight action = false := rfl

private theorem source_injective : Function.Injective SourceKey.encode :=
  fun _ _ => SourceKey.encode_injective

private theorem action_injective : Function.Injective ActionKey.encode :=
  fun _ _ => ActionKey.encode_injective

private theorem encode_eq_iff {k l : SourceKey} : k.encode = l.encode ↔ k = l :=
  source_injective.eq_iff

section Set

variable (s) (key : SourceKey) (report : Report)

theorem get?_set (k : SourceKey) :
    (s.set key report).2.get? k = if key = k then some report else s.get? k := by
  rw [get?, get?, set, Table.get?_insert, if_congr encode_eq_iff rfl rfl]
  split <;> rfl

theorem hasError_set (k : SourceKey) :
    (s.set key report).2.hasError k = (decide (key ≠ k) && s.hasError k) := by
  rw [hasError, hasError, set, Table.contains_erase]
  simp only [ne_eq, encode_eq_iff]

@[simp]
theorem isActionInFlight_set (action : ActionKey) :
    (s.set key report).2.isActionInFlight action = s.isActionInFlight action := rfl

variable {s} in
theorem Keyed.set (h : s.Keyed) : (s.set key report).2.Keyed :=
  ⟨h.reports.insert ⟨key, report⟩, h.errors.erase _, h.actions⟩

/-- Only a report that was stored before, and not in error, is no change. -/
theorem set_unchanged : (s.set key report).1 = false ↔
    s.hasError key = false ∧ s.get? key = some report := by
  rw [set, Bool.or_eq_false_iff, bne_eq_false_iff_eq]

variable {s} in
theorem Keyed.set_of_unchanged (h : s.Keyed) (unchanged : (s.set key report).1 = false) :
    (s.set key report).2 = s := by
  obtain ⟨sound, stored⟩ := (s.set_unchanged key report).mp unchanged
  obtain ⟨⟨owner, _⟩, found, rfl⟩ := Option.map_eq_some_iff.mp stored
  have named := h.reports _ _ found
  dsimp only at named
  obtain rfl := SourceKey.encode_injective named
  have absent : s.errors.get? key.encode = none :=
    Option.isNone_iff_eq_none.mp (Option.isSome_eq_false_iff.mp sound)
  rw [ReportStore.set, Table.insert_of_get? found, Table.erase_of_absent absent]

end Set

section MarkError

variable (s) (key : SourceKey)

theorem get?_markError (k : SourceKey) :
    (s.markError key).2.get? k = if key = k then none else s.get? k := by
  rw [get?, get?, markError, Table.get?_erase, if_congr encode_eq_iff rfl rfl]
  split <;> rfl

theorem hasError_markError (k : SourceKey) :
    (s.markError key).2.hasError k = (decide (key = k) || s.hasError k) := by
  rw [hasError, hasError, markError, Table.contains_insert]
  simp only [encode_eq_iff]

@[simp]
theorem isActionInFlight_markError (action : ActionKey) :
    (s.markError key).2.isActionInFlight action = s.isActionInFlight action := rfl

variable {s} in
theorem Keyed.markError (h : s.Keyed) : (s.markError key).2.Keyed :=
  ⟨h.reports.erase _, h.errors.insert key, h.actions⟩

theorem markError_unchanged : (s.markError key).1 = false ↔
    s.get? key = none ∧ s.hasError key = true := by
  rw [markError, Bool.or_eq_false_iff, Bool.not_eq_false', Table.contains, get?]
  cases s.reports.get? key.encode <;> simp

end MarkError

section Actions

theorem isActionInFlight_mark (s : ReportStore) (action other : ActionKey) :
    (s.markActionInFlight action).isActionInFlight other =
      (decide (action = other) || s.isActionInFlight other) := by
  rw [isActionInFlight, isActionInFlight, markActionInFlight, Table.contains_insert]
  simp only [action_injective.eq_iff]

@[simp]
theorem get?_markActionInFlight (s : ReportStore) (action : ActionKey) (key : SourceKey) :
    (s.markActionInFlight action).get? key = s.get? key := rfl

@[simp]
theorem hasError_markActionInFlight (s : ReportStore) (action : ActionKey) (key : SourceKey) :
    (s.markActionInFlight action).hasError key = s.hasError key := rfl

theorem Keyed.markActionInFlight (h : s.Keyed) (action : ActionKey) :
    (s.markActionInFlight action).Keyed :=
  ⟨h.reports, h.errors, h.actions.insert action⟩

theorem isActionInFlight_clearActionsInFlight (h : s.Keyed) (key : SourceKey) (action : ActionKey) :
    (s.clearActionsInFlight key).2.isActionInFlight action =
      (!action.issue.source.same key && s.isActionInFlight action) :=
  h.actions.contains_filter action_injective (fun action => !action.issue.source.same key) action

@[simp]
theorem get?_clearActionsInFlight (s : ReportStore) (key k : SourceKey) :
    (s.clearActionsInFlight key).2.get? k = s.get? k := rfl

@[simp]
theorem hasError_clearActionsInFlight (s : ReportStore) (key k : SourceKey) :
    (s.clearActionsInFlight key).2.hasError k = s.hasError k := rfl

theorem Keyed.clearActionsInFlight (h : s.Keyed) (key : SourceKey) :
    (s.clearActionsInFlight key).2.Keyed :=
  ⟨h.reports, h.errors, h.actions.filter _⟩

theorem clearActionsInFlight_unchanged {key : SourceKey}
    (unchanged : (s.clearActionsInFlight key).1 = false) : (s.clearActionsInFlight key).2 = s := by
  have kept : ∀ e ∈ s.actionsInFlight.entries, (!e.2.issue.source.same key) = true := by
    intro e he
    have others := List.any_eq_false.mp unchanged e.2 (List.mem_map.mpr ⟨e, he, rfl⟩)
    simpa using others
  obtain ⟨reports, errors, ⟨entries, nodup⟩⟩ := s
  simp only [ReportStore.clearActionsInFlight, Table.filter, mk.injEq, Table.mk.injEq, true_and]
  exact List.filter_eq_self.mpr kept

theorem clearActionsInFlight_changed (h : s.Keyed) (key : SourceKey) :
    (s.clearActionsInFlight key).1 = true ↔
      ∃ action, action.issue.source.same key = true ∧ s.isActionInFlight action = true := by
  simp only [ReportStore.clearActionsInFlight, List.any_eq_true,
    h.actions.mem_values_iff action_injective]
  exact exists_congr fun action => And.comm

theorem Keyed.clearActionsInFlight_again (h : s.Keyed) (key : SourceKey) :
    ((s.clearActionsInFlight key).2.clearActionsInFlight key).1 = false := by
  rw [Bool.eq_false_iff, ne_eq, clearActionsInFlight_changed (h.clearActionsInFlight key)]
  rintro ⟨action, own, inFlight⟩
  rw [isActionInFlight_clearActionsInFlight h, own] at inFlight
  simp at inFlight

end Actions

section Take

/-- A report is stored, and the actions of the last one are forgotten unless an id is garbled. -/
def take (s : ReportStore) (key : SourceKey) (report : Report) : ReportStore :=
  let stored := (s.set key report).2
  if report.isSpelled then (stored.clearActionsInFlight key).2 else stored

variable (key : SourceKey) (report : Report)

theorem get?_take (k : SourceKey) :
    (s.take key report).get? k = if key = k then some report else s.get? k := by
  rw [take]
  split <;> exact s.get?_set key report k

theorem hasError_take (k : SourceKey) :
    (s.take key report).hasError k = (decide (key ≠ k) && s.hasError k) := by
  rw [take]
  split <;> exact s.hasError_set key report k

theorem isActionInFlight_take (h : s.Keyed) (action : ActionKey) :
    (s.take key report).isActionInFlight action =
      (!(report.isSpelled && action.issue.source.same key) && s.isActionInFlight action) := by
  rw [take]
  split
  · next spelled =>
    rw [isActionInFlight_clearActionsInFlight (h.set key report), spelled]
    rfl
  · next garbled =>
    rw [Bool.not_eq_true] at garbled
    rw [garbled]
    rfl

theorem Keyed.take (h : s.Keyed) : (s.take key report).Keyed := by
  rw [ReportStore.take]
  split
  · exact (h.set key report).clearActionsInFlight key
  · exact h.set key report

end Take

section Clear

variable (s) (key : SourceKey)

theorem get?_clear (k : SourceKey) :
    (s.clear key).2.get? k = if key = k then none else s.get? k := by
  rw [get?, get?, clear, Table.get?_erase, if_congr encode_eq_iff rfl rfl]
  split <;> rfl

theorem hasError_clear (k : SourceKey) :
    (s.clear key).2.hasError k = (decide (key ≠ k) && s.hasError k) := by
  rw [hasError, hasError, clear, Table.contains_erase]
  simp only [ne_eq, encode_eq_iff]

variable {s} in
theorem isActionInFlight_clear (h : s.Keyed) (action : ActionKey) :
    (s.clear key).2.isActionInFlight action =
      (!action.issue.source.same key && s.isActionInFlight action) :=
  isActionInFlight_clearActionsInFlight h key action

variable {s} in
theorem Keyed.clear (h : s.Keyed) : (s.clear key).2.Keyed :=
  ⟨h.reports.erase _, h.errors.erase _, (h.clearActionsInFlight key).actions⟩

theorem clear_unchanged : (s.clear key).1 = false ↔
    s.get? key = none ∧ s.hasError key = false := by
  rw [clear, Bool.or_eq_false_iff, Table.contains, get?]
  cases s.reports.get? key.encode <;> simp

end Clear

section ClearForUser

variable (h : s.Keyed) (user : UserId)
include h

theorem get?_clearForUser (key : SourceKey) :
    (s.clearForUser user).get? key = if key.userId.equals user then none else s.get? key := by
  have kept := h.reports.get?_filter source_injective (fun k => !k.userId.equals user) key
  have shown : (s.clearForUser user).get? key = Option.map StoredReport.report
      (if (!key.userId.equals user) = true then s.reports.get? key.encode else none) :=
    congrArg _ kept
  rw [shown]
  cases key.userId.equals user <;> simp [get?]

theorem hasError_clearForUser (key : SourceKey) :
    (s.clearForUser user).hasError key = (!key.userId.equals user && s.hasError key) :=
  h.errors.contains_filter source_injective (fun k => !k.userId.equals user) key

theorem isActionInFlight_clearForUser (action : ActionKey) :
    (s.clearForUser user).isActionInFlight action =
      (!action.issue.userId.equals user && s.isActionInFlight action) :=
  h.actions.contains_filter action_injective (fun a => !a.issue.userId.equals user) action

theorem Keyed.clearForUser : (s.clearForUser user).Keyed :=
  ⟨h.reports.filter _, h.errors.filter _, h.actions.filter _⟩

end ClearForUser

section Keys

theorem Keyed.encode_keys (h : s.Keyed) : s.keys.map SourceKey.encode = s.reports.keys := by
  rw [← h.reports.map_values, keys, List.map_map]
  rfl

theorem mem_keys (h : s.Keyed) {key : SourceKey} :
    key ∈ s.keys ↔ ∃ report, s.get? key = some report := by
  rw [← List.mem_map_of_injective source_injective, h.encode_keys, ← Table.contains_iff,
    Table.contains, ← Option.isSome_iff_exists, get?, Option.isSome_map]

theorem mem_reports (h : s.Keyed) {stored : StoredReport} :
    stored ∈ s.reports.values ↔ s.get? stored.key = some stored.report := by
  rw [Table.mem_values_iff, get?, Option.map_eq_some_iff]
  constructor
  · rintro ⟨text, found⟩
    obtain rfl : text = stored.key.encode := h.reports _ _ found
    exact ⟨stored, found, rfl⟩
  · rintro ⟨other, found, same⟩
    have own : other.key = stored.key := h.reports.key_eq source_injective found
    obtain rfl : other = stored := by
      cases other
      cases stored
      cases own
      cases same
      rfl
    exact ⟨_, found⟩

theorem nodup_keys (h : s.Keyed) : s.keys.Nodup := by
  have encoded : (s.keys.map SourceKey.encode).Nodup := h.encode_keys ▸ s.reports.nodup_keys
  exact encoded.of_map _

/-- A report that replaces another takes its place; a new one comes last. -/
theorem keys_set (h : s.Keyed) (key : SourceKey) (report : Report) :
    (s.set key report).2.keys = if key ∈ s.keys then s.keys else s.keys ++ [key] := by
  apply List.map_injective_iff.mpr source_injective
  have inserted : (s.set key report).2.reports.keys =
      if key.encode ∈ s.reports.keys then s.reports.keys else s.reports.keys ++ [key.encode] :=
    Table.keys_insert ..
  have same_place : key.encode ∈ s.keys.map SourceKey.encode ↔ key ∈ s.keys :=
    List.mem_map_of_injective source_injective
  rw [(h.set key report).encode_keys, inserted, ← h.encode_keys, if_congr same_place rfl rfl]
  split
  · rfl
  · rw [List.map_append]
    rfl

theorem keys_filter_sublist (p : String → StoredReport → Bool) :
    ((s.reports.filter p).values.map (·.key)).Sublist s.keys :=
  (List.filter_sublist.map Prod.snd).map _

end Keys

/-- Everything stands under its key, and what is in flight is offered by the stored report. The
actions of a user without an id, which equals no user, are never found again; and a report with a
garbled issue id leaves those of the report before it. -/
structure Sound (s : ReportStore) : Prop where
  keyed : s.Keyed
  live : ∀ action, s.isActionInFlight action = true → action.issue.userId ≠ .undefined →
    ∃ report, s.get? action.issue.source = some report ∧
      (report.isSpelled = true → report.Offers action)

theorem sound_empty : (∅ : ReportStore).Sound := by
  refine ⟨keyed_empty, fun action inFlight => ?_⟩
  rw [isActionInFlight_empty] at inFlight
  exact absurd inFlight Bool.false_ne_true

theorem source_ne_of_kept {action : ActionKey} {key : SourceKey}
    (defined : action.issue.userId ≠ .undefined)
    (kept : (!action.issue.source.same key) = true) : key ≠ action.issue.source := by
  rintro rfl
  rw [SourceKey.same_of_defined defined] at kept
  simp at kept

theorem Sound.take (h : s.Sound) (key : SourceKey) (report : Report) :
    (s.take key report).Sound where
  keyed := h.keyed.take key report
  live := by
    intro action inFlight defined
    rw [isActionInFlight_take key report h.keyed, Bool.and_eq_true] at inFlight
    obtain ⟨kept, inFlight⟩ := inFlight
    rw [get?_take]
    by_cases own : key = action.issue.source
    · refine ⟨report, if_pos own, fun spelled => ?_⟩
      rw [spelled, Bool.true_and] at kept
      exact absurd own (source_ne_of_kept defined kept)
    · rw [if_neg own]
      exact h.live action inFlight defined

theorem Sound.markError (h : s.Sound) (key : SourceKey) :
    ((s.markError key).2.clearActionsInFlight key).2.Sound where
  keyed := (h.keyed.markError key).clearActionsInFlight key
  live := by
    intro action inFlight defined
    rw [isActionInFlight_clearActionsInFlight (h.keyed.markError key), Bool.and_eq_true]
      at inFlight
    obtain ⟨other, inFlight⟩ := inFlight
    obtain ⟨stored, found, offers⟩ := h.live action inFlight defined
    refine ⟨stored, ?_, offers⟩
    change (s.markError key).2.get? action.issue.source = _
    rw [get?_markError, if_neg (source_ne_of_kept defined other), found]

theorem Sound.markActionInFlight (h : s.Sound) {action : ActionKey} {report : Report}
    (stored : s.get? action.issue.source = some report) (offers : report.Offers action) :
    (s.markActionInFlight action).Sound where
  keyed := h.keyed.markActionInFlight action
  live := by
    intro other inFlight defined
    rw [isActionInFlight_mark, Bool.or_eq_true, decide_eq_true_iff] at inFlight
    rcases inFlight with rfl | inFlight
    · exact ⟨report, stored, fun _ => offers⟩
    · exact h.live other inFlight defined

theorem Sound.clearForUser (h : s.Sound) (user : UserId) : (s.clearForUser user).Sound where
  keyed := h.keyed.clearForUser user
  live := by
    intro action inFlight defined
    rw [isActionInFlight_clearForUser h.keyed, Bool.and_eq_true, Bool.not_eq_true'] at inFlight
    obtain ⟨other, inFlight⟩ := inFlight
    obtain ⟨stored, found, offers⟩ := h.live action inFlight defined
    have own_user : action.issue.source.userId = action.issue.userId := rfl
    refine ⟨stored, ?_, offers⟩
    rw [get?_clearForUser h.keyed, own_user, other, found]
    rfl

end ReportStore

end SafetyBoard
