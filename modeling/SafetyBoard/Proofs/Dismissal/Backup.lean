import SafetyBoard.Proofs.Dismissal.History

/-!
# Records go out and come back

A ledger hands its records out under keys that are all different, and any ledger that loads them is
what the first one was. Records from elsewhere may spell their keys in other ways, repeat them or leave
the severity of a dismissal out; what was made of them on loading is handed out, and loading that
changes nothing any more.
-/

namespace SafetyBoard

namespace DismissalLedger

variable {l : DismissalLedger} {records : List PersistedRecord}

theorem nodup_persisted (l : DismissalLedger) : (l.persisted.map (·.key)).Nodup := by
  have keys : l.persisted.map (·.key) = l.records.keys.map .plain := by
    rw [persisted, Table.keys, List.map_map, List.map_map]
    rfl
  rw [keys]
  exact l.records.nodup_keys.map Text.plain_injective

theorem numbered_of_load (loaded : load records = .ok l)
    (numbered : ∀ p ∈ records, ∀ issue, p.issue? = some issue →
      issue.userId.Numbered) : l.Every fun r => r.issue.userId.Numbered := by
  rw [(load_eq_ok loaded).2.2]
  exact every_loadTable fun p member issue valid =>
    numbered p member issue (PersistedRecord.check_eq_some.mp valid).1

structure ComesBack (l other : DismissalLedger) : Prop where
  accepted : ∃ loaded, load l.persisted = .ok loaded
  records : (other.perform (.load l.persisted)).records = l.records
  dismissed : ∀ issue severity,
    (other.perform (.load l.persisted)).isDismissed issue severity = l.isDismissed issue severity
  saved : (other.perform (.load l.persisted)).dirty = false

theorem comesBack_of_load (loaded : load l.persisted = .ok ⟨l.records, false⟩)
    (other : DismissalLedger) : l.ComesBack other := by
  have behind : other.perform (.load l.persisted) = ⟨l.records, false⟩ := by
    rw [perform, loaded]
  exact ⟨⟨_, loaded⟩, by rw [behind], by rw [behind]; exact fun _ _ => rfl, by rw [behind]⟩

/-- Whatever was done to a ledger, its records are handed out under different keys, and any ledger
loads them back as they are. And whatever records were loaded, what is handed out behind that is
loaded as the same records, and handed out again as it is. -/
theorem records_come_back :
    (∀ history : List LedgerOperation,
      (behind history).Every (fun r => r.issue.userId.Numbered) →
        ((behind history).persisted.map (·.key)).Nodup ∧
        ∀ other, (behind history).ComesBack other) ∧
    ∀ records l, load records = .ok l →
      (∀ p ∈ records, ∀ issue, p.issue? = some issue → issue.userId.Numbered) →
        load l.persisted = .ok l := by
  refine ⟨fun history numbered => ⟨nodup_persisted _, comesBack_of_load ?_⟩,
    fun records l loaded numbered => ?_⟩
  · exact load_persisted (sound_behind history)
      (every_behind DismissalRecord.regular_lasting history) numbered
  · have again := load_persisted (sound_load loaded)
      (every_load DismissalRecord.regular_lasting loaded) (numbered_of_load loaded numbered)
    rw [again, (load_eq_ok loaded).2.2]

def respelled : List PersistedRecord :=
  [⟨"lock/%70in@007", ⟨some 1⟩, some ⟨some 2⟩, 3, none⟩,
    ⟨"updates/old@0", ⟨some 3⟩, some ⟨some 4⟩, 1, none⟩,
    ⟨"lock/pin@7", ⟨some 5⟩, some ⟨some 6⟩, 2, none⟩]

theorem numbered_respelled : ∀ p ∈ respelled, ∀ issue, p.issue? = some issue →
    issue.userId.Numbered := by
  have users : ∀ p ∈ respelled, p.issue?.all
      (fun issue => issue.userId = .ofNat 7 ∨ issue.userId = .ofNat 0) = true := by
    decide +kernel
  intro p member issue decoded
  have user := users p member
  rw [decoded, Option.all_some, decide_eq_true_iff] at user
  rcases user with user | user
  · exact ⟨7, by decide, user⟩
  · exact ⟨0, by decide, user⟩

theorem records_come_back_respelled : ∃ l, load respelled = .ok l ∧ load l.persisted = .ok l ∧
    ((behind [.load respelled]).persisted.map (·.key)).Nodup ∧
      (behind [.load respelled]).ComesBack ∅ := by
  have spelled : hasGarbled respelled = false := by decide +kernel
  have none : loadFaults respelled = [] := by decide +kernel
  have loaded : load respelled = .ok ⟨loadTable respelled, false⟩ := by
    rw [load, spelled, none]
    rfl
  have same : behind [.load respelled] = ⟨loadTable respelled, false⟩ := by
    rw [behind, List.foldl_cons, List.foldl_nil, perform, loaded]
  obtain ⟨handed_out, back⟩ := records_come_back
  obtain ⟨distinct, returned⟩ := handed_out [.load respelled]
    (same ▸ numbered_of_load loaded numbered_respelled)
  exact ⟨_, loaded, back _ _ loaded numbered_respelled, distinct, returned ∅⟩

end DismissalLedger

end SafetyBoard
