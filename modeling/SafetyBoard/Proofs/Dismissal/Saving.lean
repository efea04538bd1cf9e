import SafetyBoard.Proofs.Dismissal.Mirror

/-!
# Nothing left to save

A ledger is marked as changed by every operation that changes it, and the mark goes only when the
records are saved or replaced. So a ledger without the mark has the very records that were saved, or
loaded, or there in the beginning, whichever was last.
-/

namespace SafetyBoard

/-- The records behind the operation are saved elsewhere: they were just handed over as saved, or
just loaded from there. -/
def LedgerOperation.Saves : LedgerOperation → Prop
  | markSaved => True
  | load records => ∃ loaded, DismissalLedger.load records = .ok loaded
  | _ => False

namespace DismissalLedger

variable {l : DismissalLedger} {operation : LedgerOperation}

theorem eq_of_clean {l' : DismissalLedger} (records : l'.records = l.records)
    (clean : l.dirty = false) (clean' : l'.dirty = false) : l' = l :=
  congrArg₂ mk records (clean'.trans clean.symm)

theorem keep_of_clean {p : DismissalRecord → Bool} (clean : (l.keep p).dirty = false) :
    l.keep p = l := by
  have unmarked : (l.dirty || l.records.values.any fun r => !p r) = false := clean
  obtain ⟨before, all⟩ := Bool.or_eq_false_iff.mp unmarked
  refine eq_of_clean (Table.eq_of_entries (List.filter_eq_self.mpr ?_)) before clean
  intro e member
  have passes := List.any_eq_false.mp all e.2 (List.mem_map_of_mem member)
  rwa [Bool.not_eq_true, Bool.not_eq_false'] at passes

theorem clear_of_clean (clean : l.clear.dirty = false) : l.clear = l := by
  have unmarked : (l.dirty || !l.records.isEmpty) = false := clean
  obtain ⟨before, none⟩ := Bool.or_eq_false_iff.mp unmarked
  rw [Bool.not_eq_false', Table.isEmpty, List.isEmpty_iff] at none
  exact eq_of_clean (Table.eq_of_entries none.symm) before clean

theorem track_of_clean {source : SourceKey} {now : Instant} {issueIds : List String}
    (clean : ((issueIds.map source.issue).foldl (track now) l).dirty = false) :
    (issueIds.map source.issue).foldl (track now) l = l := by
  obtain ⟨entries, dirty⟩ := track_issues source now issueIds l
  obtain ⟨before, none⟩ := Bool.or_eq_false_iff.mp (dirty.symm.trans clean)
  rw [Bool.not_eq_false', List.isEmpty_iff] at none
  rw [none, List.map_nil, List.append_nil] at entries
  exact eq_of_clean (Table.eq_of_entries entries) before clean

theorem sync_of_clean {source : SourceKey} {issueIds : List Text} {now : Instant}
    (clean : (l.sync source issueIds now).dirty = false) : l.sync source issueIds now = l := by
  rw [sync] at clean ⊢
  have tracked := track_of_clean clean
  rw [tracked] at clean ⊢
  exact keep_of_clean clean

theorem perform_of_clean (unsaved : ¬operation.Saves)
    (clean : (l.perform operation).dirty = false) : l.perform operation = l := by
  cases operation with
  | dismiss issue severity now => cases clean
  | sync source issueIds now => exact sync_of_clean clean
  | clearForUser user => exact keep_of_clean clean
  | clear => exact clear_of_clean clean
  | load records =>
    cases outcome : load records with
    | ok loaded => exact absurd ⟨loaded, outcome⟩ unsaved
    | error _ => rw [DismissalLedger.perform, outcome]
  | markSaved => exact absurd trivial unsaved
  | handOut => rfl

theorem perform_of_saves (saves : operation.Saves) : (l.perform operation).dirty = false := by
  cases operation with
  | load records =>
    obtain ⟨loaded, taken⟩ := saves
    rw [perform, taken, (load_eq_ok taken).2.2]
  | markSaved => rfl
  | _ => cases saves

/-- The part of a history up to the operation behind which its records were last saved, or nothing
of it if they never were. -/
structure LastSaved (history saved : List LedgerOperation) : Prop where
  ends : saved = [] ∨ ∃ before operation, saved = before ++ [operation] ∧ operation.Saves
  since : ∃ later, history = saved ++ later ∧ ∀ operation ∈ later, ¬operation.Saves

theorem exists_lastSaved (history : List LedgerOperation) : ∃ saved, LastSaved history saved := by
  induction history using List.reverseRecOn with
  | nil => exact ⟨[], .inl rfl, [], rfl, fun _ member => absurd member List.not_mem_nil⟩
  | append_singleton history operation ih =>
    by_cases saves : operation.Saves
    · exact ⟨_, .inr ⟨history, operation, rfl, saves⟩, [], (List.append_nil _).symm,
        fun _ member => absurd member List.not_mem_nil⟩
    · obtain ⟨saved, ends, later, rfl, since⟩ := ih
      refine ⟨saved, ends, later ++ [operation], List.append_assoc .., fun next member => ?_⟩
      rcases List.mem_append.mp member with before | last
      · exact since next before
      · obtain rfl := List.mem_singleton.mp last
        exact saves

theorem LastSaved.clean {history saved : List LedgerOperation} (h : LastSaved history saved) :
    (behind saved).dirty = false := by
  rcases h.ends with rfl | ⟨before, operation, rfl, saves⟩
  · rfl
  · rw [behind_append]
    exact perform_of_saves saves

theorem behind_of_clean {saved later : List LedgerOperation}
    (unsaved : ∀ operation ∈ later, ¬operation.Saves)
    (clean : (behind (saved ++ later)).dirty = false) : behind (saved ++ later) = behind saved := by
  induction later using List.reverseRecOn with
  | nil => rw [List.append_nil]
  | append_singleton later operation ih =>
    rw [← List.append_assoc, behind_append] at clean ⊢
    have same := perform_of_clean (unsaved operation (by simp)) clean
    rw [same] at clean ⊢
    exact ih (fun next member => unsaved next (List.mem_append_left _ member)) clean

end DismissalLedger

end SafetyBoard
