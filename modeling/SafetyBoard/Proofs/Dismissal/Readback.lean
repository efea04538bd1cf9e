import SafetyBoard.Proofs.Dismissal.History

/-!
# Which records read back

A record is handed out under the encoded key of its issue, and its user is written as any number
is. The decoder knows digits only. So a key reads back unless its user is negative, and a ledger of
whole users takes back what it handed out unless one of them is.
-/

namespace SafetyBoard

/-- A user whose id is a whole number, negative or not, that is written without an exponent. -/
def UserId.Whole (user : UserId) : Prop := ∃ i : Int, i.natAbs < 2 ^ 53 ∧ user = .ofInt i

theorem UserId.Whole.numbered {k issue : IssueKey} (whole : k.userId.Whole)
    (decoded : IssueKey.decode? k.encode = some issue) : k.userId.Numbered := by
  obtain ⟨i, small, user⟩ := whole
  rw [IssueKey.decode?_encode_whole small user] at decoded
  by_cases negative : i < 0
  · rw [if_pos negative] at decoded
    cases decoded
  · obtain ⟨n, rfl⟩ := Int.eq_ofNat_of_zero_le (Int.not_lt.mp negative)
    exact ⟨n, small, user⟩

namespace DismissalLedger

variable {l : DismissalLedger}

theorem Sound.of_mem_persisted (sound : l.Sound) {p : PersistedRecord} (handed : p ∈ l.persisted) :
    ∃ r, l.record? r.issue = some r ∧ p = r.persist r.issue.encode := by
  obtain ⟨⟨text, r⟩, member, rfl⟩ := List.mem_map.mp handed
  have found := Table.get?_eq_some_iff.mpr member
  have keyed := sound.keyed text r found
  subst keyed
  exact ⟨r, found, rfl⟩

theorem decoded_of_load {records : List PersistedRecord} (loaded : load records = .ok l)
    {p : PersistedRecord} (member : p ∈ records) :
    ∃ issue, p.issue? = some issue := by
  obtain ⟨spelled, faults, -⟩ := load_eq_ok loaded
  have spelled := List.any_eq_false.mp spelled p member
  have none := List.filterMap_eq_nil_iff.mp faults p member
  rcases valid : p.check with fault | _ | issue
  · rw [valid] at none
    cases none
  · rw [valid] at spelled
    exact absurd rfl spelled
  · exact ⟨issue, (PersistedRecord.check_eq_some.mp valid).1⟩

theorem Sound.loads_persisted_iff (sound : l.Sound) (regular : l.Every DismissalRecord.Regular)
    (whole : l.Every fun r => r.issue.userId.Whole) :
    (∃ loaded, load l.persisted = .ok loaded) ↔ l.Every fun r => r.issue.userId.Numbered := by
  constructor
  · rintro ⟨loaded, accepted⟩ text r found
    have member : r.persist text ∈ l.persisted :=
      List.mem_map_of_mem (Table.get?_eq_some_iff.mp found)
    obtain ⟨issue, decoded⟩ := decoded_of_load accepted member
    rw [PersistedRecord.issue?_of_spelled rfl, sound.keyed text r found] at decoded
    exact (whole text r found).numbered decoded
  · intro numbered
    exact ⟨_, load_persisted sound regular numbered⟩

/-- The key of an issue reads back from its encoded form exactly if its user is not negative. So it
is with every record that a ledger hands out, whatever was done to it, and the ledger takes all of
them back exactly if no user among them is negative. -/
theorem natural_users_read_back (key : IssueKey) {i : Int} (small : i.natAbs < 2 ^ 53)
    (user : key.userId = .ofInt i) (history : List LedgerOperation) :
    IssueKey.decode? key.encode = (if i < 0 then none else some key) ∧
      (∀ p ∈ (behind history).persisted, ∃ r, (behind history).record? r.issue = some r ∧
        p = r.persist r.issue.encode ∧
        ∀ j : Int, j.natAbs < 2 ^ 53 → r.issue.userId = .ofInt j →
          p.issue? = if j < 0 then none else some r.issue) ∧
      ((behind history).Every (fun r => r.issue.userId.Whole) →
        ((∃ loaded, load (behind history).persisted = .ok loaded) ↔
          (behind history).Every fun r => r.issue.userId.Numbered)) := by
  refine ⟨IssueKey.decode?_encode_whole small user, fun p handed => ?_, fun whole => ?_⟩
  · obtain ⟨r, recorded, rfl⟩ := (sound_behind history).of_mem_persisted handed
    refine ⟨r, recorded, rfl, fun _ small user => ?_⟩
    rw [PersistedRecord.issue?_of_spelled rfl]
    exact IssueKey.decode?_encode_whole small user
  · exact (sound_behind history).loads_persisted_iff
      (every_behind DismissalRecord.regular_lasting history) whole

def negativeUser : IssueKey := ⟨"wifi", "open", .ofInt (-1)⟩

def dismissedForNegativeUser : List LedgerOperation :=
  [.dismiss missingPin .recommendation ⟨some 0⟩, .dismiss negativeUser .recommendation ⟨some 0⟩]

/-- The decoder refuses a key that the encoder printed, and the ledger the records that it handed
out. -/
theorem negative_user_unread :
    IssueKey.decode? negativeUser.encode = none ∧
    (behind dismissedForNegativeUser).persisted.map (·.key) =
      [.plain "lock/pin@0", .plain "wifi/open@-1"] ∧
    load (behind dismissedForNegativeUser).persisted =
      .error (.hub (.invalidRecords [.plain "wifi/open@-1: malformed issue key"])) := by
  have spelled : hasGarbled (behind dismissedForNegativeUser).persisted = false := by
    decide +kernel
  have faults : loadFaults (behind dismissedForNegativeUser).persisted =
      [.plain "wifi/open@-1: malformed issue key"] := by decide +kernel
  refine ⟨by decide +kernel, by decide +kernel, ?_⟩
  rw [load, spelled, faults]
  rfl

theorem whole_users : (behind dismissedForNegativeUser).Every fun r => r.issue.userId.Whole := by
  have users : ∀ e ∈ (behind dismissedForNegativeUser).records.entries,
      e.2.issue.userId = .ofInt 0 ∨ e.2.issue.userId = .ofInt (-1) := by decide +kernel
  intro text r found
  rcases users (text, r) (Table.get?_eq_some_iff.mp found) with user | user
  · exact ⟨0, by decide, user⟩
  · exact ⟨-1, by decide, user⟩

theorem natural_users_read_back_mixed :
    IssueKey.decode? missingPin.encode = some missingPin ∧
    IssueKey.decode? negativeUser.encode = none ∧
    ¬∃ loaded, load (behind dismissedForNegativeUser).persisted = .ok loaded := by
  obtain ⟨unread, -, out_and_back⟩ := natural_users_read_back negativeUser (i := -1) (by decide)
    (by decide +kernel) dismissedForNegativeUser
  obtain ⟨reads, -⟩ := natural_users_read_back missingPin (i := 0) (by decide) (by decide +kernel)
    dismissedForNegativeUser
  refine ⟨reads, unread, fun accepted => ?_⟩
  have recorded : (behind dismissedForNegativeUser).record? negativeUser =
      some ⟨negativeUser, ⟨some 0⟩, some .recommendation, some ⟨some 0⟩, 1⟩ := by decide +kernel
  have numbered := (out_and_back whole_users).mp accepted _ _ recorded
  rw [IssueKey.decode?_encode numbered] at unread
  cases unread

end DismissalLedger

end SafetyBoard
