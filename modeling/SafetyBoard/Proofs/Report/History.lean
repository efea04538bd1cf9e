import SafetyBoard.Proofs.History
import SafetyBoard.Proofs.Report.Store

/-!
# A report store answers from its history

A store files everything under text. What it answers is told here without any text, from the
operations that were carried out on it since it was empty: the last operation that concerns a source
and user decides about its report and its error flag, an action is in flight from the moment it was
marked until its source and user are cleared, and the keys stand in the order in which their present
stay in the store began.
-/

namespace SafetyBoard

inductive StoreOperation where
  | set (key : SourceKey) (report : Report)
  | clear (key : SourceKey)
  | clearForUser (user : UserId)
  | clearAll
  | markError (key : SourceKey)
  | markActionInFlight (action : ActionKey)
  | clearActionsInFlight (key : SourceKey)
  deriving DecidableEq, Repr

namespace StoreOperation

def Drops (key : SourceKey) : StoreOperation → Prop
  | clear k | markError k => k = key
  | clearForUser user => key.userId.equals user
  | clearAll => True
  | _ => False

def Concerns (key : SourceKey) (operation : StoreOperation) : Prop :=
  (∃ report, operation = set key report) ∨ operation.Drops key

def ClearsActions (key : SourceKey) : StoreOperation → Prop
  | clear k | clearActionsInFlight k => key.same k
  | clearForUser user => key.userId.equals user
  | clearAll => True
  | _ => False

end StoreOperation

namespace ReportStore

open StoreOperation

def perform (s : ReportStore) : StoreOperation → ReportStore
  | .set key report => (s.set key report).2
  | .clear key => (s.clear key).2
  | .clearForUser user => s.clearForUser user
  | .clearAll => ∅
  | .markError key => (s.markError key).2
  | .markActionInFlight action => s.markActionInFlight action
  | .clearActionsInFlight key => (s.clearActionsInFlight key).2

def behind (history : List StoreOperation) : ReportStore := history.foldl perform ∅

theorem behind_append (history : List StoreOperation) (operation : StoreOperation) :
    behind (history ++ [operation]) = (behind history).perform operation := by
  simp [behind]

section Perform

variable {s : ReportStore} (h : s.Keyed) (operation : StoreOperation)
include h

theorem Keyed.perform : (s.perform operation).Keyed := by
  cases operation with
  | set key report => exact h.set key report
  | clear key => exact h.clear key
  | clearForUser user => exact h.clearForUser user
  | clearAll => exact keyed_empty
  | markError key => exact h.markError key
  | markActionInFlight action => exact h.markActionInFlight action
  | clearActionsInFlight key => exact h.clearActionsInFlight key

theorem get?_perform (key : SourceKey) (report : Report) :
    (s.perform operation).get? key = some report ↔
      operation = .set key report ∨ s.get? key = some report ∧ ¬operation.Concerns key := by
  cases operation with
  | set k r =>
    rw [perform, get?_set]
    by_cases same : k = key <;> simp [same, Concerns, Drops]
  | clear k =>
    rw [perform, get?_clear]
    by_cases same : k = key <;> simp [same, Concerns, Drops]
  | clearForUser user =>
    rw [perform, get?_clearForUser h]
    by_cases own : key.userId.equals user <;> simp [own, Concerns, Drops]
  | clearAll => simp [perform, Concerns, Drops]
  | markError k =>
    rw [perform, get?_markError]
    by_cases same : k = key <;> simp [same, Concerns, Drops]
  | markActionInFlight action => simp [perform, Concerns, Drops]
  | clearActionsInFlight k => simp [perform, Concerns, Drops]

theorem hasError_perform (key : SourceKey) :
    (s.perform operation).hasError key = true ↔
      operation = .markError key ∨ s.hasError key = true ∧ ¬operation.Concerns key := by
  cases operation with
  | set k r =>
    rw [perform, hasError_set]
    by_cases same : k = key <;> simp [same, Concerns, Drops]
  | clear k =>
    rw [perform, hasError_clear]
    by_cases same : k = key <;> simp [same, Concerns, Drops]
  | clearForUser user =>
    rw [perform, hasError_clearForUser h]
    by_cases own : key.userId.equals user <;> simp [own, Concerns, Drops]
  | clearAll => simp [perform, Concerns, Drops]
  | markError k =>
    rw [perform, hasError_markError]
    by_cases same : k = key <;> simp [same, Concerns, Drops]
  | markActionInFlight action => simp [perform, Concerns, Drops]
  | clearActionsInFlight k => simp [perform, Concerns, Drops]

theorem isActionInFlight_perform (action : ActionKey) :
    (s.perform operation).isActionInFlight action = true ↔
      operation = .markActionInFlight action ∨
        s.isActionInFlight action = true ∧ ¬operation.ClearsActions action.issue.source := by
  cases operation with
  | set k r => simp [perform, ClearsActions]
  | clear k =>
    rw [perform, isActionInFlight_clear k h]
    by_cases same : action.issue.source.same k <;> simp [same, ClearsActions]
  | clearForUser user =>
    rw [perform, isActionInFlight_clearForUser h]
    by_cases own : action.issue.userId.equals user <;>
      simp [own, ClearsActions, IssueKey.source]
  | clearAll => simp [perform, ClearsActions]
  | markError k => simp [perform, ClearsActions]
  | markActionInFlight other =>
    rw [perform, isActionInFlight_mark]
    by_cases same : other = action <;> simp [same, ClearsActions]
  | clearActionsInFlight k =>
    rw [perform, isActionInFlight_clearActionsInFlight h]
    by_cases same : action.issue.source.same k <;> simp [same, ClearsActions]

/-- Keys leave from any place, but a new one comes last. -/
theorem keys_perform : (s.perform operation).keys.Sublist s.keys ∨
    ∃ key report, operation = .set key report ∧ key ∉ s.keys ∧
      (s.perform operation).keys = s.keys ++ [key] := by
  cases operation with
  | set key report =>
    rw [perform, keys_set h]
    by_cases present : key ∈ s.keys
    · exact Or.inl (by rw [if_pos present])
    · exact Or.inr ⟨key, report, rfl, present, if_neg present⟩
  | clear | clearForUser | markError => exact Or.inl (keys_filter_sublist _)
  | clearAll => exact Or.inl (List.nil_sublist _)
  | markActionInFlight | clearActionsInFlight => exact Or.inl (List.Sublist.refl _)

end Perform

def Holds (history : List StoreOperation) (key : SourceKey) (report : Report) : Prop :=
  Lasts (fun _ operation => operation = .set key report) (·.Concerns key) history

def InError (history : List StoreOperation) (key : SourceKey) : Prop :=
  Lasts (fun _ operation => operation = .markError key) (·.Concerns key) history

def Marked (history : List StoreOperation) (action : ActionKey) : Prop :=
  Lasts (fun _ operation => operation = .markActionInFlight action)
    (·.ClearsActions action.issue.source) history

theorem not_holds_of_inError {history : List StoreOperation} {key : SourceKey} {report : Report}
    (failed : InError history key) : ¬Holds history key report := by
  induction history using List.reverseRecOn with
  | nil => exact not_lasts_nil
  | append_singleton history operation ih =>
    intro held
    rcases lasts_append.mp failed with rfl | ⟨before, silent⟩
    · rcases lasts_append.mp held with stored | ⟨-, silent⟩
      · cases stored
      · exact silent (Or.inr rfl)
    · rcases lasts_append.mp held with rfl | ⟨held_before, -⟩
      · exact silent (Or.inl ⟨report, rfl⟩)
      · exact ih before held_before

/-- The operation at the place stored a report where there was none, and since then the key has had
one. -/
def EnteredAt (history : List StoreOperation) (key : SourceKey) (place : Nat) : Prop :=
  Lasts (fun earlier operation => earlier.length = place ∧
    (∃ report, operation = .set key report) ∧ ∀ report, ¬Holds earlier key report)
    (·.Drops key) history

section Entered

variable {history : List StoreOperation} {key : SourceKey} {place : Nat}

theorem EnteredAt.lt_length (entered : EnteredAt history key place) : place < history.length := by
  obtain ⟨earlier, _, later, rfl, ⟨rfl, -⟩, -⟩ := entered
  simp

theorem holds_of_enteredAt (entered : EnteredAt history key place) :
    ∃ report, Holds history key report := by
  induction history using List.reverseRecOn with
  | nil => exact absurd entered not_lasts_nil
  | append_singleton history operation ih =>
    by_cases stores : ∃ report, operation = .set key report
    · obtain ⟨report, stores⟩ := stores
      exact ⟨report, lasts_append.mpr (Or.inl stores)⟩
    · rcases lasts_append.mp entered with ⟨-, now, -⟩ | ⟨before, kept⟩
      · exact absurd now stores
      · obtain ⟨report, held⟩ := ih before
        exact ⟨report, lasts_append.mpr (Or.inr ⟨held, not_or.mpr ⟨stores, kept⟩⟩)⟩

theorem exists_enteredAt {report : Report} (held : Holds history key report) :
    ∃ place, EnteredAt history key place := by
  induction history using List.reverseRecOn generalizing report with
  | nil => exact absurd held not_lasts_nil
  | append_singleton history operation ih =>
    rcases lasts_append.mp held with rfl | ⟨before, kept⟩
    · by_cases already : ∃ report, Holds history key report
      · obtain ⟨_, before⟩ := already
        obtain ⟨place, entered⟩ := ih before
        exact ⟨place, lasts_append.mpr (Or.inr ⟨entered, not_false⟩)⟩
      · exact ⟨history.length, lasts_append.mpr
          (Or.inl ⟨rfl, ⟨report, rfl⟩, not_exists.mp already⟩)⟩
    · obtain ⟨place, entered⟩ := ih before
      exact ⟨place, lasts_append.mpr (Or.inr ⟨entered, (not_or.mp kept).2⟩)⟩

theorem EnteredAt.unique {other : Nat} (entered : EnteredAt history key place)
    (again : EnteredAt history key other) : place = other := by
  induction history using List.reverseRecOn with
  | nil => exact absurd entered not_lasts_nil
  | append_singleton history operation ih =>
    rcases lasts_append.mp entered with ⟨here, -, absent⟩ | ⟨before, -⟩ <;>
      rcases lasts_append.mp again with ⟨here', -, absent'⟩ | ⟨before', -⟩
    · exact here.symm.trans here'
    · obtain ⟨report, held⟩ := holds_of_enteredAt before'
      exact absurd held (absent report)
    · obtain ⟨report, held⟩ := holds_of_enteredAt before
      exact absurd held (absent' report)
    · exact ih before before'

end Entered

section Behind

variable (history : List StoreOperation)

theorem keyed_behind : (behind history).Keyed := by
  induction history using List.reverseRecOn with
  | nil => exact keyed_empty
  | append_singleton history operation ih =>
    rw [behind_append]
    exact ih.perform operation

theorem get?_behind (key : SourceKey) (report : Report) :
    (behind history).get? key = some report ↔ Holds history key report := by
  induction history using List.reverseRecOn with
  | nil => exact iff_of_false nofun not_lasts_nil
  | append_singleton history operation ih =>
    rw [behind_append, get?_perform (keyed_behind history), Holds, lasts_append, ih, Holds]

theorem hasError_behind (key : SourceKey) :
    (behind history).hasError key = true ↔ InError history key := by
  induction history using List.reverseRecOn with
  | nil => exact iff_of_false nofun not_lasts_nil
  | append_singleton history operation ih =>
    rw [behind_append, hasError_perform (keyed_behind history), InError, lasts_append, ih, InError]

theorem isActionInFlight_behind (action : ActionKey) :
    (behind history).isActionInFlight action = true ↔ Marked history action := by
  induction history using List.reverseRecOn with
  | nil => exact iff_of_false nofun not_lasts_nil
  | append_singleton history operation ih =>
    rw [behind_append, isActionInFlight_perform (keyed_behind history), Marked, lasts_append, ih,
      Marked]

theorem mem_keys_behind {key : SourceKey} :
    key ∈ (behind history).keys ↔ ∃ report, Holds history key report := by
  simp only [mem_keys (keyed_behind history), get?_behind]

theorem keys_behind_in_order : (behind history).keys.Pairwise fun key next =>
    ∀ place later, EnteredAt history key place → EnteredAt history next later → place < later := by
  induction history using List.reverseRecOn with
  | nil => exact List.Pairwise.nil
  | append_singleton history operation ih =>
    have earlier {key : SourceKey} {place : Nat} (present : key ∈ (behind history).keys)
        (entered : EnteredAt (history ++ [operation]) key place) : EnteredAt history key place := by
      rcases lasts_append.mp entered with ⟨-, -, absent⟩ | ⟨before, -⟩
      · obtain ⟨report, held⟩ := (mem_keys_behind history).mp present
        exact absurd held (absent report)
      · exact before
    have old : (behind history).keys.Pairwise fun key next => ∀ place later,
        EnteredAt (history ++ [operation]) key place →
          EnteredAt (history ++ [operation]) next later → place < later :=
      ih.imp_of_mem fun present present' ordered place later entered entered' =>
        ordered place later (earlier present entered) (earlier present' entered')
    rw [behind_append]
    rcases keys_perform (keyed_behind history) operation with fewer | ⟨new, _, _, absent, more⟩
    · exact old.sublist fewer
    · rw [more, List.pairwise_append]
      refine ⟨old, List.pairwise_singleton _ _, ?_⟩
      intro key present next last place later entered entered'
      obtain rfl := List.mem_singleton.mp last
      rcases lasts_append.mp entered' with ⟨here, -⟩ | ⟨before, -⟩
      · exact here ▸ (earlier present entered).lt_length
      · exact absurd ((mem_keys_behind history).mpr (holds_of_enteredAt before)) absent

end Behind

def SameContents (s t : ReportStore) : Prop :=
  ∀ key, s.get? key = t.get? key ∧ s.hasError key = t.hasError key

section Answers

variable {s t : ReportStore} {key : SourceKey}

/-- Where one key is given new contents, nothing changes exactly when they are its old contents. -/
theorem sameContents_iff {report : Option Report} {failed : Bool}
    (reports : ∀ k, t.get? k = if key = k then report else s.get? k)
    (errors : ∀ k, t.hasError k = if key = k then failed else s.hasError k) :
    SameContents t s ↔ s.get? key = report ∧ s.hasError key = failed := by
  constructor
  · intro same
    obtain ⟨same_report, same_error⟩ := same key
    rw [reports, if_pos rfl] at same_report
    rw [errors, if_pos rfl] at same_error
    exact ⟨same_report.symm, same_error.symm⟩
  · rintro ⟨rfl, rfl⟩ k
    rw [reports, errors]
    by_cases same : key = k <;> simp [same]

variable (s key)

theorem sameContents_set_iff (report : Report) :
    SameContents (s.set key report).2 s ↔ s.get? key = some report ∧ s.hasError key = false :=
  sameContents_iff (get?_set s key report) fun k => by
    rw [hasError_set]
    by_cases same : key = k <;> simp [same]

theorem sameContents_markError_iff :
    SameContents (s.markError key).2 s ↔ s.get? key = none ∧ s.hasError key = true :=
  sameContents_iff (get?_markError s key) fun k => by
    rw [hasError_markError]
    by_cases same : key = k <;> simp [same]

theorem sameContents_clear_iff :
    SameContents (s.clear key).2 s ↔ s.get? key = none ∧ s.hasError key = false :=
  sameContents_iff (get?_clear s key) fun k => by
    rw [hasError_clear]
    by_cases same : key = k <;> simp [same]

end Answers

/-- An operation's answer tells whether there was something to do, and so whether a look-up at the
reports and error flags, or at the actions in flight, can tell that it was carried out. -/
structure Truthful (s : ReportStore) : Prop where
  set : ∀ key report, (s.set key report).1 = false ↔
    s.get? key = some report ∧ s.hasError key = false
  set_looks : ∀ key report, (s.set key report).1 = false ↔ SameContents (s.set key report).2 s
  clear : ∀ key, (s.clear key).1 = true ↔ (∃ report, s.get? key = some report) ∨
    s.hasError key = true
  clear_looks : ∀ key, (s.clear key).1 = false ↔ SameContents (s.clear key).2 s
  markError : ∀ key, (s.markError key).1 = true ↔ (∃ report, s.get? key = some report) ∨
    s.hasError key = false
  markError_looks : ∀ key, (s.markError key).1 = false ↔ SameContents (s.markError key).2 s
  clearActionsInFlight : ∀ key, (s.clearActionsInFlight key).1 = true ↔
    ∃ action, action.issue.source.same key ∧ s.isActionInFlight action = true
  clearActionsInFlight_looks : ∀ key, (s.clearActionsInFlight key).1 = true ↔
    ∃ action, (s.clearActionsInFlight key).2.isActionInFlight action ≠ s.isActionInFlight action

theorem Keyed.truthful {s : ReportStore} (h : s.Keyed) : s.Truthful where
  set key report := (s.set_unchanged key report).trans And.comm
  set_looks key report :=
    ((s.set_unchanged key report).trans And.comm).trans (sameContents_set_iff s key report).symm
  clear key := by
    rw [← Bool.not_eq_false, s.clear_unchanged key, not_and_or, ← ne_eq,
      Option.ne_none_iff_exists', Bool.not_eq_false]
  clear_looks key := (s.clear_unchanged key).trans (sameContents_clear_iff s key).symm
  markError key := by
    rw [← Bool.not_eq_false, s.markError_unchanged key, not_and_or, ← ne_eq,
      Option.ne_none_iff_exists', Bool.not_eq_true]
  markError_looks key := (s.markError_unchanged key).trans (sameContents_markError_iff s key).symm
  clearActionsInFlight key := clearActionsInFlight_changed h key
  clearActionsInFlight_looks key := by
    rw [clearActionsInFlight_changed h]
    refine exists_congr fun action => ?_
    rw [isActionInFlight_clearActionsInFlight h]
    by_cases own : action.issue.source.same key <;> simp [own]

/-- A store that answers as plain maps of keys would, given what was done to it. -/
structure Answers (history : List StoreOperation) (s : ReportStore) : Prop where
  report : ∀ key report, s.get? key = some report ↔ Holds history key report
  error : ∀ key, s.hasError key = true ↔ InError history key
  exclusive : ∀ key, s.hasError key = true → s.get? key = none
  inFlight : ∀ action, s.isActionInFlight action = true ↔ Marked history action
  listed : ∀ key, key ∈ s.keys ↔ ∃ report, s.get? key = some report
  listed_once : s.keys.Nodup
  entered : ∀ key ∈ s.keys, ∃! place, EnteredAt history key place
  in_order : s.keys.Pairwise fun key next =>
    ∀ place later, EnteredAt history key place → EnteredAt history next later → place < later
  truthful : s.Truthful

/-- Filing under text loses nothing: at every time a store answers from its history. -/
theorem refines_history (history : List StoreOperation) : (behind history).Answers history where
  report := get?_behind history
  error := hasError_behind history
  exclusive key failed := by
    apply Option.eq_none_iff_forall_ne_some.mpr
    intro report found
    exact not_holds_of_inError ((hasError_behind history key).mp failed)
      ((get?_behind history key report).mp found)
  inFlight := isActionInFlight_behind history
  listed _ := mem_keys (keyed_behind history)
  listed_once := nodup_keys (keyed_behind history)
  entered key present := by
    obtain ⟨report, held⟩ := (mem_keys_behind history).mp present
    obtain ⟨place, entered⟩ := exists_enteredAt held
    exact ⟨place, entered, fun _ again => again.unique entered⟩
  in_order := keys_behind_in_order history
  truthful := (keyed_behind history).truthful

end ReportStore

end SafetyBoard
