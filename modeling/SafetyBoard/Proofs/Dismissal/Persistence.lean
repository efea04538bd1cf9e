import Mathlib.Data.List.Basic
import SafetyBoard.Proofs.Dismissal.Ledger

/-!
# Taking back what was handed out

A ledger loads the records that it handed out: the key of an issue reads back from its text, and
loading asks nothing of a record that does not hold of all of them, new, dismissed or loaded before.
So a ledger that is replaced by its own records is what it was when it handed them out.
-/

namespace SafetyBoard

namespace DismissalRecord

/-- What loading asks of the record of a key, and that a dismissal has a severity. -/
structure Regular (r : DismissalRecord) : Prop where
  whole : r.dismissCount.isWhole = true
  natural : r.dismissCount.less 0 = false
  dated : Number.less 0 r.dismissCount = r.dismissedAt.isSome
  rated : r.dismissedAt.isSome = true → r.dismissedSeverity.isSome = true

theorem regular_seen (issue : IssueKey) (now : Instant) : (seen issue now).Regular where
  whole := Number.isWhole_zero
  natural := Number.not_less_zero_zero
  dated := Number.not_less_zero_zero
  rated := nofun

variable {r : DismissalRecord}

theorem isSome_dismissedSeverity_dismiss (severity : SourceSeverity) (now : Instant) :
    (r.dismiss severity now).dismissedSeverity.isSome = true := by
  rw [dismiss]
  split
  · next hidden =>
    obtain ⟨-, dismissed, recorded, -⟩ := (hides_iff severity).mp hidden
    exact Option.isSome_iff_exists.mpr ⟨dismissed, recorded⟩
  · rfl

theorem Regular.dismiss (h : r.Regular) (severity : SourceSeverity) (now : Instant) :
    (r.dismiss severity now).Regular := by
  have counted : Number.less 0 (r.dismissCount + 1) = true :=
    Number.less_zero_succ h.whole h.natural
  exact {
    whole := Number.isWhole_succ h.whole h.natural
    natural := Number.not_less_of_less counted
    dated := counted
    rated := fun _ => isSome_dismissedSeverity_dismiss severity now }

end DismissalRecord

namespace PersistedRecord

/-- The issue whose key, or another spelling of it, is the key of the record. -/
def issue? (p : PersistedRecord) : Option IssueKey := p.key.spelled?.bind IssueKey.decode?

variable {p : PersistedRecord} {issue : IssueKey}

theorem issue?_of_spelled {key : String} (spelled : p.key = key) :
    p.issue? = IssueKey.decode? key := by
  rw [issue?, spelled]
  rfl

theorem check_eq_ok {read : Option IssueKey} : p.check = .ok read ↔
    (∃ issue, IssueKey.decode? p.key.repaired = some issue ∧
      read = if p.key.isSpelled then some issue else none) ∧
    p.dismissCount.isWhole = true ∧ p.dismissCount.less 0 = false ∧
    p.isDismissed = p.dismissedAt.isSome := by
  rw [check]
  cases IssueKey.decode? p.key.repaired with
  | none => simp
  | some key => grind

theorem check_eq_some : p.check = .ok (some issue) ↔ p.issue? = some issue ∧
    p.dismissCount.isWhole = true ∧ p.dismissCount.less 0 = false ∧
    p.isDismissed = p.dismissedAt.isSome := by
  rw [check_eq_ok, issue?]
  refine and_congr_left' ?_
  cases p.key with
  | plain key => simp [Text.repaired, Text.spelled?, eq_comm]
  | garbled => simp [Text.isSpelled, Text.spelled?]

theorem lacksSeverity_eq_false : p.lacksSeverity = false ↔
    (p.isDismissed = true → p.dismissedSeverity.isSome = true) := by
  rw [lacksSeverity]
  cases p.dismissedSeverity <;> simp

theorem regular_restore {read : Option IssueKey} (valid : p.check = .ok read) (issue : IssueKey) :
    (p.restore issue).Regular := by
  obtain ⟨-, whole, natural, dated⟩ := check_eq_ok.mp valid
  refine ⟨whole, natural, dated, fun dismissed => ?_⟩
  rw [restore]
  split
  · rfl
  · next rated =>
    rw [Bool.not_eq_true, lacksSeverity_eq_false] at rated
    exact rated (dated.trans dismissed)

end PersistedRecord

namespace DismissalRecord

variable {r : DismissalRecord}

theorem Regular.check_persist (h : r.Regular) (numbered : r.issue.userId.Numbered) :
    (r.persist r.issue.encode).check = .ok (some r.issue) :=
  PersistedRecord.check_eq_some.mpr
    ⟨(PersistedRecord.issue?_of_spelled rfl).trans (IssueKey.decode?_encode numbered), h.whole,
      h.natural, h.dated⟩

theorem Regular.restore_persist (h : r.Regular) (text : String) :
    (r.persist text).restore r.issue = r := by
  have rated : (r.persist text).lacksSeverity = false :=
    PersistedRecord.lacksSeverity_eq_false.mpr fun dismissed =>
      h.rated (h.dated.symm.trans dismissed)
  rw [PersistedRecord.restore, rated]
  rfl

/-- What holds of a new record, stays when the record is dismissed and holds of a record that is
loaded. -/
structure Lasting (P : DismissalRecord → Prop) : Prop where
  seen : ∀ issue now, P (.seen issue now)
  dismiss : ∀ {r} (severity now), P r → P (r.dismiss severity now)
  restore : ∀ {p : PersistedRecord} {read}, p.check = .ok read → ∀ issue, P (p.restore issue)

theorem regular_lasting : Lasting Regular where
  seen := regular_seen
  dismiss := fun severity now h => h.dismiss severity now
  restore := PersistedRecord.regular_restore

end DismissalRecord

namespace DismissalLedger

def Every (P : DismissalRecord → Prop) (l : DismissalLedger) : Prop := l.records.Every fun _ => P

section Every

variable {P : DismissalRecord → Prop} {l : DismissalLedger}

theorem Every.dismiss (h : l.Every P) (lasting : DismissalRecord.Lasting P) (issue : IssueKey)
    (severity : SourceSeverity) (now : Instant) : (l.dismiss issue severity now).Every P := by
  have before : P ((l.record? issue).getD (.seen issue now)) := by
    cases recorded : l.record? issue with
    | none => exact lasting.seen issue now
    | some r => exact h _ _ recorded
  exact Table.Every.insert h (lasting.dismiss severity now before)

theorem Every.keep (h : l.Every P) (p : DismissalRecord → Bool) : (l.keep p).Every P :=
  Table.Every.filter h _

theorem Every.track (h : l.Every P) (lasting : DismissalRecord.Lasting P) (now : Instant)
    (issue : IssueKey) : (l.track now issue).Every P := by
  rw [DismissalLedger.track]
  split
  · exact h
  · exact Table.Every.insert h (lasting.seen issue now)

theorem Every.sync (h : l.Every P) (lasting : DismissalRecord.Lasting P) (key : SourceKey)
    (issueIds : List Text) (now : Instant) : (l.sync key issueIds now).Every P := by
  have tracked (issues : List IssueKey) (l : DismissalLedger) (h : l.Every P) :
      (issues.foldl (DismissalLedger.track now) l).Every P := by
    induction issues generalizing l with
    | nil => exact h
    | cons issue rest ih => exact ih _ (h.track lasting now issue)
  exact tracked _ _ (h.keep _)

theorem every_load (lasting : DismissalRecord.Lasting P) {records : List PersistedRecord}
    (loaded : load records = .ok l) : l.Every P :=
  (load_eq_ok loaded).2.2 ▸ every_loadTable fun _ _ issue valid => lasting.restore valid issue

end Every

variable {l : DismissalLedger}

theorem load_persisted (sound : l.Sound) (regular : l.Every DismissalRecord.Regular)
    (numbered : l.Every fun r => r.issue.userId.Numbered) :
    load l.persisted = .ok ⟨l.records, false⟩ := by
  have taken {e : String × DismissalRecord} (member : e ∈ l.records.entries) :
      (e.2.persist e.1).check = .ok (some e.2.issue) ∧ e.2.issue.encode = e.1 ∧
        (e.2.persist e.1).restore e.2.issue = e.2 := by
    have found := Table.get?_eq_some_iff.mpr member
    have keyed := sound.keyed _ _ found
    have fits := regular _ _ found
    exact ⟨keyed ▸ fits.check_persist (numbered _ _ found), keyed.symm, fits.restore_persist e.1⟩
  have spelled : hasGarbled l.persisted = false := by
    rw [hasGarbled, List.any_eq_false]
    intro p member
    obtain ⟨e, handed, rfl⟩ := List.mem_map.mp member
    rw [(taken handed).1]
    exact Bool.false_ne_true
  have faults : loadFaults l.persisted = [] := by
    rw [loadFaults, persisted, List.filterMap_eq_nil_iff]
    intro p member
    obtain ⟨e, handed, rfl⟩ := List.mem_map.mp member
    rw [(taken handed).1]
  have restored : loadTable l.persisted = l.records := by
    rw [loadTable, persisted, List.filterMap_map]
    refine Eq.trans (congrArg Table.ofList ?_) (Table.ofList_entries l.records)
    refine (List.filterMap_congr fun e member => ?_).trans List.filterMap_some
    obtain ⟨valid, keyed, same⟩ := taken member
    rw [Function.comp_apply, valid]
    dsimp only
    rw [keyed, same]
  rw [load, spelled, faults, restored]
  rfl

end DismissalLedger

end SafetyBoard
