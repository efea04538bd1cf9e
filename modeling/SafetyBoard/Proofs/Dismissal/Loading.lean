import SafetyBoard.Proofs.Dismissal.History
import SafetyBoard.Proofs.Number.Counting

/-!
# Loading is all or nothing

A record from outside may have several faults. Loading stops at the first of each record but goes on
to the others, so what is told of a list is one complaint for each record that has a fault, in list
order. If none has, the list replaces all records: one for each issue, where the issue first occurs
and with what is said of it last.
-/

namespace SafetyBoard

/-- What is different stays different, so each still first occurs where it did. -/
theorem eraseDups_map {α β : Type} [DecidableEq α] [DecidableEq β] {f : α → β}
    (injective : f.Injective) (as : List α) : (as.map f).eraseDups = as.eraseDups.map f := by
  induction as using List.reverseRecOn with
  | nil => rfl
  | append_singleton as a ih =>
    rw [List.map_append, List.eraseDups_append, List.eraseDups_append, List.map_append, ih]
    congr 1
    by_cases known : a ∈ as
    · simp [List.removeAll, known, injective.eq_iff]
    · simp [List.removeAll, known, injective.eq_iff, List.eraseDups_cons]

theorem Number.counts_iff {n : Number} :
    (∃ count, n.Counts count) ↔ n.isWhole = true ∧ n.less 0 = false := by
  constructor
  · rintro ⟨count, counts⟩
    refine ⟨Option.isSome_iff_exists.mpr ⟨_, counts⟩, ?_⟩
    rcases Nat.eq_zero_or_pos count with zero | positive
    · rw [counts.eq_zero_iff.mpr zero]
      exact Number.not_less_zero_zero
    · exact Number.not_less_of_less (counts.less_iff.mpr positive)
  · rintro ⟨whole, natural⟩
    exact Number.exists_counts whole natural

namespace PersistedRecord

def Has (p : PersistedRecord) : RecordFault → Prop
  | .key => IssueKey.decode? p.key.repaired = none
  | .count => ¬∃ count, p.dismissCount.Counts count
  | .date => ¬(p.dismissedAt.isSome = true ↔ Number.less 0 p.dismissCount = true)

instance (p : PersistedRecord) : DecidablePred p.Has
  | .key => inferInstanceAs (Decidable (_ = none))
  | .count => decidable_of_iff (¬(p.dismissCount.isWhole = true ∧ p.dismissCount.less 0 = false))
      (not_congr Number.counts_iff.symm)
  | .date => inferInstanceAs (Decidable (¬(_ ↔ _)))

def firstFault? (p : PersistedRecord) : Option RecordFault :=
  [.key, .count, .date].find? fun fault => decide (p.Has fault)

def complaint? (p : PersistedRecord) : Option Text := p.firstFault?.map p.faultText

variable {p : PersistedRecord} {fault : RecordFault} {issue : IssueKey}

theorem firstFault?_eq_none : p.firstFault? = none ↔ ∀ fault, ¬p.Has fault := by
  rw [firstFault?, List.find?_eq_none]
  constructor
  · intro clean fault has
    refine clean fault ?_ (decide_eq_true has)
    cases fault <;> decide
  · exact fun clean fault _ found => clean fault (of_decide_eq_true found)

theorem check_eq_error : p.check = .error fault ↔ p.firstFault? = some fault := by
  have unreadable : p.Has .key ↔ IssueKey.decode? p.key.repaired = none := Iff.rfl
  have counts : p.Has .count ↔ (!p.dismissCount.isWhole || p.dismissCount.less 0) = true := by
    rw [Has, Number.counts_iff]
    simp [imp_iff_not_or]
  have dated : p.Has .date ↔ (p.isDismissed != p.dismissedAt.isSome) = true := by
    rw [Has, ← Bool.eq_iff_iff, bne_iff_ne, isDismissed, ne_comm]
  rw [check, firstFault?]
  cases decoded : IssueKey.decode? p.key.repaired with
  | none => simp [unreadable, decoded]
  | some issue =>
    by_cases uncounted : p.Has .count
    · simp [unreadable, decoded, uncounted, counts.mp uncounted]
    · have counted := mt counts.mpr uncounted
      by_cases undated : p.Has .date
      · simp [unreadable, decoded, uncounted, counted, undated, dated.mp undated]
      · have kept := mt dated.mpr undated
        simp [unreadable, decoded, uncounted, counted, undated, kept]

theorem exists_check_eq_ok : (∃ read, p.check = .ok read) ↔ ∀ fault, ¬p.Has fault := by
  rw [← firstFault?_eq_none]
  cases checked : p.check with
  | ok read =>
    refine iff_of_true ⟨read, rfl⟩ (Option.eq_none_iff_forall_ne_some.mpr fun fault first => ?_)
    cases checked.symm.trans (check_eq_error.mpr first)
  | error fault => simp [check_eq_error.mp checked]

theorem check_eq_ok_none :
    p.check = .ok none ↔ (∀ fault, ¬p.Has fault) ∧ p.key.isSpelled = false := by
  constructor
  · intro valid
    obtain ⟨⟨issue, -, read⟩, -⟩ := check_eq_ok.mp valid
    refine ⟨exists_check_eq_ok.mp ⟨none, valid⟩, Bool.eq_false_iff.mpr fun spelled => ?_⟩
    rw [if_pos spelled] at read
    cases read
  · rintro ⟨clean, garbled⟩
    obtain ⟨read, valid⟩ := exists_check_eq_ok.mpr clean
    obtain ⟨⟨issue, -, rfl⟩, -⟩ := check_eq_ok.mp valid
    rw [garbled] at valid
    exact valid

theorem check_eq_ok_of_clean (clean : ∀ fault, ¬p.Has fault) (spelled : p.key.isSpelled = true) :
    ∃ issue, p.check = .ok (some issue) := by
  obtain ⟨read, valid⟩ := exists_check_eq_ok.mpr clean
  obtain ⟨⟨issue, -, rfl⟩, -⟩ := check_eq_ok.mp valid
  rw [if_pos spelled] at valid
  exact ⟨issue, valid⟩

end PersistedRecord

namespace DismissalLedger

variable {l : DismissalLedger} {records : List PersistedRecord}

theorem loadFaults_eq (records : List PersistedRecord) :
    loadFaults records = records.filterMap PersistedRecord.complaint? := by
  refine List.filterMap_congr fun p _ => ?_
  rw [PersistedRecord.complaint?]
  cases checked : p.check with
  | ok read =>
    have clean := PersistedRecord.exists_check_eq_ok.mp ⟨read, checked⟩
    rw [PersistedRecord.firstFault?_eq_none.mpr clean]
    rfl
  | error fault =>
    rw [PersistedRecord.check_eq_error.mp checked]
    rfl

theorem loadFaults_eq_nil : loadFaults records = [] ↔ ∀ p ∈ records, ∀ fault, ¬p.Has fault := by
  rw [loadFaults_eq, List.filterMap_eq_nil_iff]
  refine forall₂_congr fun p _ => ?_
  rw [PersistedRecord.complaint?, Option.map_eq_none_iff, PersistedRecord.firstFault?_eq_none]

theorem hasGarbled_iff : hasGarbled records = true ↔
    ∃ p ∈ records, (∀ fault, ¬p.Has fault) ∧ p.key.isSpelled = false := by
  rw [hasGarbled, List.any_eq_true]
  refine exists_congr fun p => and_congr_right fun _ => ?_
  rw [← PersistedRecord.check_eq_ok_none]
  rcases p.check with _ | _ | _ <;> simp

theorem load_of_garbled (garbled : hasGarbled records = true) :
    load records = .error .malformedUri := by
  rw [load, if_pos garbled]

theorem load_of_fault (spelled : hasGarbled records = false)
    (faulty : ∃ p ∈ records, ∃ fault, p.Has fault) : load records =
      .error (.hub (.invalidRecords (records.filterMap PersistedRecord.complaint?))) := by
  obtain ⟨p, member, fault, has⟩ := faulty
  rw [load, spelled, if_neg Bool.false_ne_true, ← loadFaults_eq]
  split
  · next none => exact absurd has (loadFaults_eq_nil.mp none p member fault)
  · rfl

section Clean

variable (spelled : hasGarbled records = false) (clean : ∀ p ∈ records, ∀ fault, ¬p.Has fault)
include spelled clean

theorem isSpelled_of_clean {p : PersistedRecord} (member : p ∈ records) :
    p.key.isSpelled = true := by
  by_contra garbled
  have has := hasGarbled_iff.mpr ⟨p, member, clean p member, Bool.eq_false_iff.mpr garbled⟩
  rw [spelled] at has
  cases has

theorem load_of_clean : load records = .ok ⟨loadTable records, false⟩ := by
  rw [load, spelled, if_neg Bool.false_ne_true, loadFaults_eq_nil.mpr clean]

theorem loadTable_of_clean : loadTable records = Table.ofList (records.filterMap fun p =>
    p.issue?.map fun issue => (issue.encode, p.restore issue)) := by
  refine congrArg Table.ofList (List.filterMap_congr fun p member => ?_)
  obtain ⟨issue, valid⟩ := PersistedRecord.check_eq_ok_of_clean (clean p member)
    (isSpelled_of_clean spelled clean member)
  rw [valid, (PersistedRecord.check_eq_some.mp valid).1]
  rfl

end Clean

/-- The ledger holds what a list says: one record for each issue of the list, where the issue first
occurs and with what is said of it last. -/
structure Holds (records : List PersistedRecord) (l : DismissalLedger) : Prop where
  readable : ∀ p ∈ records, p.issue?.isSome = true
  issues : l.records.values.map (·.issue) =
    (records.filterMap PersistedRecord.issue?).eraseDups
  keyed : l.records.keys = l.records.values.map (·.issue.encode)
  content : ∀ earlier p later issue, records = earlier ++ p :: later →
    p.issue? = some issue → (∀ q ∈ later, q.issue? ≠ some issue) →
      l.record? issue = some {
        issue
        firstSeenAt := p.firstSeenAt
        dismissedSeverity :=
          if Number.less 0 p.dismissCount = true ∧ p.dismissedSeverity = none then
            some .criticalWarning
          else p.dismissedSeverity
        dismissedAt := p.dismissedAt
        dismissCount := p.dismissCount }
  saved : l.dirty = false

theorem holds_load (spelled : hasGarbled records = false)
    (clean : ∀ p ∈ records, ∀ fault, ¬p.Has fault) : Holds records ⟨loadTable records, false⟩ := by
  have injective : IssueKey.encode.Injective := fun _ _ => IssueKey.encode_injective
  have keyed := Table.NamedBy.map_values (sound_loadTable records false).keyed
  have keys : (loadTable records).keys =
      ((records.filterMap PersistedRecord.issue?).map IssueKey.encode).eraseDups := by
    rw [loadTable_of_clean spelled clean, Table.keys_ofList, List.map_filterMap,
      List.map_filterMap]
    simp only [Option.map_map, Function.comp_def]
  refine ⟨fun p member => ?_, ?_, keyed.symm,
    fun earlier p later issue split decoded last => ?_, rfl⟩
  · obtain ⟨issue, valid⟩ := PersistedRecord.check_eq_ok_of_clean (clean p member)
      (isSpelled_of_clean spelled clean member)
    rw [(PersistedRecord.check_eq_some.mp valid).1]
    rfl
  · rw [eraseDups_map injective, ← keyed] at keys
    refine List.map_injective_iff.mpr injective ?_
    rw [List.map_map]
    exact keys
  · have absent : issue.encode ∉ ((later.filterMap fun p => p.issue?.map
        fun issue => (issue.encode, p.restore issue)).map Prod.fst) := by
      intro member
      obtain ⟨e, written, same⟩ := List.mem_map.mp member
      obtain ⟨q, behind, made⟩ := List.mem_filterMap.mp written
      obtain ⟨other, read, rfl⟩ := Option.map_eq_some_iff.mp made
      exact last q behind (IssueKey.encode_injective same ▸ read)
    have found := Table.get?_ofList_of_last absent (earlier.filterMap fun p =>
      p.issue?.map fun issue => (issue.encode, p.restore issue)) (p.restore issue)
    rw [record?, loadTable_of_clean spelled clean, split, List.filterMap_append,
      List.filterMap_cons, decoded]
    refine found.trans (congrArg some ?_)
    rw [PersistedRecord.restore, PersistedRecord.lacksSeverity, PersistedRecord.isDismissed]
    simp only [Bool.and_eq_true, Option.isNone_iff_eq_none]

/-- What loading a list into a ledger is refused for, and what it leads to. A record without a fault
but with a garbled key ends it before the faults of the others are told. -/
structure AllOrNothing (l : DismissalLedger) (records : List PersistedRecord) : Prop where
  stopped : load records = .error .malformedUri ↔
    ∃ p ∈ records, (∀ fault, ¬p.Has fault) ∧ p.key.isSpelled = false
  refused : (∀ p ∈ records, (∀ fault, ¬p.Has fault) → p.key.isSpelled = true) →
    ((∃ error, load records = .error error) ↔ ∃ p ∈ records, ∃ fault, p.Has fault)
  complaints : (∀ p ∈ records, (∀ fault, ¬p.Has fault) → p.key.isSpelled = true) →
    ∀ error, load records = .error error →
      error = .hub (.invalidConfig "Invalid persisted issue records"
        (records.filterMap PersistedRecord.complaint?))
  nothing : ∀ error, load records = .error error → l.perform (.load records) = l
  all : ∀ loaded, load records = .ok loaded →
    l.perform (.load records) = loaded ∧ loaded.Holds records

theorem allOrNothing (l : DismissalLedger) (records : List PersistedRecord) :
    l.AllOrNothing records := by
  have nothing error (refused : load records = .error error) : l.perform (.load records) = l := by
    rw [perform, refused]
  have allSpelled : (∀ p ∈ records, (∀ fault, ¬p.Has fault) → p.key.isSpelled = true) →
      hasGarbled records = false := by
    intro every
    refine Bool.eq_false_iff.mpr fun garbled => ?_
    obtain ⟨p, member, clean, unspelled⟩ := hasGarbled_iff.mp garbled
    exact Bool.false_ne_true (unspelled.symm.trans (every p member clean))
  cases garbled : hasGarbled records with
  | true =>
    have stopped := load_of_garbled garbled
    refine ⟨iff_of_true stopped (hasGarbled_iff.mp garbled), fun every => ?_, fun every => ?_,
      nothing, fun loaded taken => ?_⟩
    · cases garbled.symm.trans (allSpelled every)
    · cases garbled.symm.trans (allSpelled every)
    · cases stopped.symm.trans taken
  | false =>
    have unstopped : ¬∃ p ∈ records, (∀ fault, ¬p.Has fault) ∧ p.key.isSpelled = false := by
      rw [← hasGarbled_iff, garbled]
      exact Bool.false_ne_true
    by_cases faulty : ∃ p ∈ records, ∃ fault, p.Has fault
    · have refused := load_of_fault garbled faulty
      refine ⟨iff_of_false (fun stopped => ?_) unstopped, fun _ => iff_of_true ⟨_, refused⟩ faulty,
        fun _ error same => ?_, nothing, fun loaded taken => ?_⟩
      · cases refused.symm.trans stopped
      · cases refused.symm.trans same
        rfl
      · cases refused.symm.trans taken
    · have clean : ∀ p ∈ records, ∀ fault, ¬p.Has fault := by
        intro p member fault has
        exact faulty ⟨p, member, fault, has⟩
      have taken := load_of_clean garbled clean
      refine ⟨iff_of_false (fun stopped => ?_) unstopped, fun _ => iff_of_false ?_ faulty,
        fun _ error refused => ?_, nothing, fun loaded same => ?_⟩
      · cases taken.symm.trans stopped
      · rintro ⟨error, refused⟩
        cases taken.symm.trans refused
      · cases taken.symm.trans refused
      · rw [taken] at same
        cases same
        exact ⟨by rw [perform, taken], holds_load garbled clean⟩

end DismissalLedger

end SafetyBoard
