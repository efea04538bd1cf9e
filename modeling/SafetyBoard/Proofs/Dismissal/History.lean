import SafetyBoard.Proofs.Dismissal.Persistence
import SafetyBoard.Proofs.History
import SafetyBoard.Proofs.Severity

/-!
# A record tells its history

A record keeps a count and one severity, which it replaces or not. What it says is told here from the
operations that were carried out on its ledger: it goes back to the record that was last started or
loaded for its issue, it counts the dismissals since, and its severity is the highest of theirs.
-/

namespace SafetyBoard

inductive LedgerOperation where
  | dismiss (issue : IssueKey) (severity : SourceSeverity) (now : Instant)
  | sync (source : SourceKey) (issueIds : List Text) (now : Instant)
  | clearForUser (user : UserId)
  | clear
  | load (records : List PersistedRecord)
  | markSaved
  | handOut
  deriving DecidableEq, Repr

namespace DismissalLedger

def perform (l : DismissalLedger) : LedgerOperation → DismissalLedger
  | .dismiss issue severity now => l.dismiss issue severity now
  | .sync source issueIds now => l.sync source issueIds now
  | .clearForUser user => l.clearForUser user
  | .clear => l.clear
  | .load records =>
    match load records with
    | .ok loaded => loaded
    | .error _ => l
  | .markSaved => l.markSaved
  | .handOut => l

def behind (history : List LedgerOperation) : DismissalLedger := history.foldl perform ∅

theorem behind_append (history : List LedgerOperation) (operation : LedgerOperation) :
    behind (history ++ [operation]) = (behind history).perform operation := by
  simp [behind]

variable {l : DismissalLedger}

theorem Sound.perform (h : l.Sound) (operation : LedgerOperation) : (l.perform operation).Sound := by
  cases operation with
  | dismiss issue severity now => exact h.dismiss issue severity now
  | sync source issueIds now => exact h.sync source issueIds now
  | clearForUser user => exact h.clearForUser user
  | clear => exact sound_clear l
  | load records =>
    rw [DismissalLedger.perform]
    split
    · next loaded => exact sound_load loaded
    · exact h
  | markSaved => exact h.markSaved
  | handOut => exact h

theorem sound_behind (history : List LedgerOperation) : (behind history).Sound := by
  induction history using List.reverseRecOn with
  | nil => exact sound_empty
  | append_singleton history operation ih =>
    rw [behind_append]
    exact ih.perform operation

theorem Every.perform {P : DismissalRecord → Prop} (h : l.Every P)
    (lasting : DismissalRecord.Lasting P) (operation : LedgerOperation) :
    (l.perform operation).Every P := by
  cases operation with
  | dismiss issue severity now => exact h.dismiss lasting issue severity now
  | sync source issueIds now => exact h.sync lasting source issueIds now
  | clearForUser user => exact h.keep _
  | clear => exact Table.every_empty _
  | load records =>
    rw [DismissalLedger.perform]
    split
    · next loaded => exact every_load lasting loaded
    · exact h
  | markSaved => exact h
  | handOut => exact h

theorem every_behind {P : DismissalRecord → Prop} (lasting : DismissalRecord.Lasting P)
    (history : List LedgerOperation) : (behind history).Every P := by
  induction history using List.reverseRecOn with
  | nil => exact Table.every_empty _
  | append_singleton history operation ih =>
    rw [behind_append]
    exact ih.perform lasting operation

end DismissalLedger

namespace LedgerOperation

def dismissal? (issue : IssueKey) : LedgerOperation → Option (SourceSeverity × Instant)
  | dismiss other severity now => if other = issue then some (severity, now) else none
  | _ => none

def Begins (issue : IssueKey) (l : DismissalLedger) (baseline : DismissalRecord) :
    LedgerOperation → Prop
  | dismiss other _ now =>
    other = issue ∧ l.record? issue = none ∧ baseline = .seen issue now
  | sync source issueIds now =>
    (issue.source = source ∧ issue.issueId ∈ Text.spelledPrefix issueIds) ∧
      l.record? issue = none ∧ baseline = .seen issue now
  | load records =>
    ∃ loaded, DismissalLedger.load records = .ok loaded ∧ loaded.record? issue = some baseline
  | _ => False

def Ends (issue : IssueKey) : LedgerOperation → Prop
  | sync source issueIds _ => issue.source.same source ∧ (issue.issueId : Text) ∉ issueIds
  | clearForUser user => issue.userId.equals user
  | clear => True
  | load records => ∃ loaded, DismissalLedger.load records = .ok loaded
  | _ => False

end LedgerOperation

namespace DismissalRecord

def dismissAll (r : DismissalRecord) (dismissals : List (SourceSeverity × Instant)) :
    DismissalRecord :=
  dismissals.foldl (fun r d => r.dismiss d.1 d.2) r

theorem dismissAll_append (r : DismissalRecord) (early late : List (SourceSeverity × Instant)) :
    r.dismissAll (early ++ late) = (r.dismissAll early).dismissAll late :=
  List.foldl_append

/-- The severity that a record hides its issue at, or nothing if the issue was never dismissed. -/
def severities (r : DismissalRecord) : List SourceSeverity :=
  if r.dismissCount = 0 then [] else r.dismissedSeverity.toList

variable {r : DismissalRecord}

theorem counts_seen (issue : IssueKey) (now : Instant) :
    (seen issue now).dismissCount.Counts 0 := Number.counts_zero

theorem Regular.exists_counts (h : r.Regular) : ∃ count, r.dismissCount.Counts count :=
  Number.exists_counts h.whole h.natural

theorem firstSeenAt_dismissAll (r : DismissalRecord)
    (dismissals : List (SourceSeverity × Instant)) :
    (r.dismissAll dismissals).firstSeenAt = r.firstSeenAt := by
  induction dismissals generalizing r with
  | nil => rfl
  | cons first rest ih => exact ih (r.dismiss first.1 first.2)

/-- The count goes up by one with each dismissal, exactly as long as it is below `2 ^ 53`. -/
theorem counts_dismissAll {before : Nat} (counts : r.dismissCount.Counts before)
    (dismissals : List (SourceSeverity × Instant)) :
    ∃ now, (r.dismissAll dismissals).dismissCount.Counts now ∧
      min now (2 ^ 53) = min (before + dismissals.length) (2 ^ 53) := by
  induction dismissals generalizing r before with
  | nil => exact ⟨before, counts, rfl⟩
  | cons first rest ih =>
    obtain ⟨next, counted, one_more⟩ := counts.succ
    obtain ⟨now, counts_now, more⟩ := ih (r := r.dismiss first.1 first.2) counted
    refine ⟨now, counts_now, ?_⟩
    rw [List.length_cons]
    omega

theorem Regular.severities_eq (h : r.Regular) (counts : r.dismissCount ≠ 0) :
    ∃ dismissed, r.dismissedSeverity = some dismissed ∧ r.severities = [dismissed] := by
  have positive : Number.less 0 r.dismissCount = true :=
    (Number.zero_or_less h.whole h.natural).resolve_left counts
  obtain ⟨dismissed, recorded⟩ :=
    Option.isSome_iff_exists.mp (h.rated (h.dated.symm.trans positive))
  refine ⟨dismissed, recorded, ?_⟩
  rw [severities, if_neg counts, recorded, Option.toList_some]

/-- A dismissal leaves the higher one of its severity and the one that the issue was hidden at. -/
theorem Regular.isHighest_dismiss (h : r.Regular) (severity : SourceSeverity) (now : Instant) :
    ∃ top, (r.dismiss severity now).severities = [top] ∧
      top.IsHighest (r.severities ++ [severity]) := by
  have counts : (r.dismiss severity now).dismissCount ≠ 0 :=
    Number.ne_zero_of_less (Number.less_zero_succ h.whole h.natural)
  have recorded_after : (r.dismiss severity now).dismissedSeverity =
      if r.hides severity = true then r.dismissedSeverity else some severity := rfl
  obtain ⟨top, recorded, same⟩ := (h.dismiss severity now).severities_eq counts
  refine ⟨top, same, ?_⟩
  rw [recorded_after] at recorded
  split at recorded
  · next hidden =>
    obtain ⟨counted, dismissed, found, below⟩ := (hides_iff severity).mp hidden
    rw [severities, if_neg counted, recorded]
    rw [recorded, Option.some_inj] at found
    subst found
    simp [SourceSeverity.IsHighest, below]
  · next shown =>
    cases recorded
    refine ⟨List.mem_append_right _ List.mem_cons_self, fun other member => ?_⟩
    rcases List.mem_append.mp member with earlier | last
    · rw [severities] at earlier
      split at earlier
      · cases earlier
      · next counted =>
        have above : ¬severity.rank ≤ other.rank := fun below =>
          shown ((hides_iff severity).mpr ⟨counted, other, Option.mem_toList.mp earlier, below⟩)
        omega
    · rw [List.mem_singleton.mp last]

/-- The severity of a record is the highest of those of its dismissals, and of the one that it had
if it was dismissed before. -/
theorem Regular.isHighest_dismissAll (h : r.Regular)
    (dismissals : List (SourceSeverity × Instant))
    (counts : (r.dismissAll dismissals).dismissCount ≠ 0) :
    ∃ highest, (r.dismissAll dismissals).dismissedSeverity = some highest ∧
      highest.IsHighest (r.severities ++ dismissals.map Prod.fst) := by
  induction dismissals generalizing r with
  | nil =>
    obtain ⟨dismissed, recorded, same⟩ := h.severities_eq counts
    exact ⟨dismissed, recorded, by simp [same, SourceSeverity.IsHighest]⟩
  | cons first rest ih =>
    obtain ⟨highest, recorded, above⟩ := ih (h.dismiss first.1 first.2) counts
    obtain ⟨top, same, top_above⟩ := h.isHighest_dismiss first.1 first.2
    refine ⟨highest, recorded, ?_⟩
    rw [same] at above
    rw [List.map_cons, List.append_cons]
    exact top_above.append above

end DismissalRecord

namespace DismissalLedger

variable {l : DismissalLedger}

theorem record?_perform (h : l.Sound) (operation : LedgerOperation) (issue : IssueKey)
    (r : DismissalRecord) : (l.perform operation).record? issue = some r ↔ ∃ before,
      (operation.Begins issue l before ∨ l.record? issue = some before ∧ ¬operation.Ends issue) ∧
        r = before.dismissAll (operation.dismissal? issue).toList := by
  cases operation with
  | dismiss other severity now =>
    rw [perform, record?_dismiss h]
    simp only [LedgerOperation.Begins, LedgerOperation.Ends, LedgerOperation.dismissal?]
    by_cases same : other = issue
    · subst same
      cases recorded : l.record? other <;> simp [DismissalRecord.dismissAll, eq_comm]
    · simp [same, DismissalRecord.dismissAll]
  | sync source issueIds now =>
    rw [perform, record?_sync_upTo h]
    simp only [LedgerOperation.Begins, LedgerOperation.Ends, LedgerOperation.dismissal?]
    by_cases tracked : issue.source = source ∧ issue.issueId ∈ Text.spelledPrefix issueIds
    · have listed := Text.mem_spelledPrefix tracked.2
      simp only [tracked, listed, true_and, and_true, not_true_eq_false, and_false,
        not_false_eq_true, if_true]
      cases recorded : l.record? issue <;> simp [DismissalRecord.dismissAll, eq_comm]
    · rw [if_neg tracked]
      by_cases gone : issue.source.same source = true ∧ (issue.issueId : Text) ∉ issueIds
      · simp [tracked, gone]
      · simp [tracked, gone, DismissalRecord.dismissAll]
  | clearForUser user =>
    rw [perform, record?_clearForUser h]
    simp only [LedgerOperation.Begins, LedgerOperation.Ends, LedgerOperation.dismissal?]
    by_cases own : issue.userId.equals user <;> simp [own, DismissalRecord.dismissAll]
  | clear =>
    have cleared : l.clear.record? issue = none := rfl
    simp [perform, cleared, LedgerOperation.Begins, LedgerOperation.Ends]
  | load records =>
    rw [perform]
    cases outcome : load records <;>
      simp [outcome, LedgerOperation.Begins, LedgerOperation.Ends, LedgerOperation.dismissal?,
        DismissalRecord.dismissAll]
  | markSaved | handOut =>
    simp [perform, LedgerOperation.Begins, LedgerOperation.Ends, LedgerOperation.dismissal?,
      DismissalRecord.dismissAll, markSaved, record?]

/-- The record of an issue goes back to the baseline, and these are the dismissals since. -/
def Since (history : List LedgerOperation) (issue : IssueKey) (baseline : DismissalRecord)
    (dismissals : List (SourceSeverity × Instant)) : Prop :=
  ∃ span, Spans (fun earlier operation => operation.Begins issue (behind earlier) baseline)
    (·.Ends issue) history span ∧ dismissals = span.filterMap (·.dismissal? issue)

theorem since_append {history : List LedgerOperation} {operation : LedgerOperation}
    {issue : IssueKey} {baseline : DismissalRecord}
    {dismissals : List (SourceSeverity × Instant)} :
    Since (history ++ [operation]) issue baseline dismissals ↔
      (operation.Begins issue (behind history) baseline ∧
        dismissals = (operation.dismissal? issue).toList) ∨
      ∃ before, (Since history issue baseline before ∧ ¬operation.Ends issue) ∧
        dismissals = before ++ (operation.dismissal? issue).toList := by
  have last : [operation].filterMap (·.dismissal? issue) = (operation.dismissal? issue).toList := by
    cases dismissed : operation.dismissal? issue <;> simp [dismissed]
  constructor
  · rintro ⟨_, whole, rfl⟩
    rcases spans_append.mp whole with ⟨began, rfl⟩ | ⟨before, spans, goes_on, rfl⟩
    · exact Or.inl ⟨began, last⟩
    · refine Or.inr ⟨_, ⟨⟨before, spans, rfl⟩, goes_on⟩, ?_⟩
      rw [List.filterMap_append, last]
  · rintro (⟨began, rfl⟩ | ⟨_, ⟨⟨before, spans, rfl⟩, goes_on⟩, rfl⟩)
    · exact ⟨[operation], spans_append.mpr (Or.inl ⟨began, rfl⟩), last.symm⟩
    · refine ⟨before ++ [operation], spans_append.mpr (Or.inr ⟨before, spans, goes_on, rfl⟩), ?_⟩
      rw [List.filterMap_append, last]

theorem record?_behind {history : List LedgerOperation} {issue : IssueKey} {r : DismissalRecord} :
    (behind history).record? issue = some r ↔ ∃ baseline dismissals,
      Since history issue baseline dismissals ∧ r = baseline.dismissAll dismissals := by
  induction history using List.reverseRecOn generalizing r with
  | nil =>
    refine iff_of_false nofun ?_
    rintro ⟨baseline, dismissals, ⟨span, spans, -⟩, -⟩
    exact not_spans_nil spans
  | append_singleton history operation ih =>
    rw [behind_append, record?_perform (sound_behind history)]
    constructor
    · rintro ⟨before, began | ⟨recorded, goes_on⟩, rfl⟩
      · exact ⟨before, _, since_append.mpr (Or.inl ⟨began, rfl⟩), rfl⟩
      · obtain ⟨baseline, dismissals, since, rfl⟩ := ih.mp recorded
        exact ⟨baseline, _, since_append.mpr (Or.inr ⟨dismissals, ⟨since, goes_on⟩, rfl⟩),
          (DismissalRecord.dismissAll_append ..).symm⟩
    · rintro ⟨baseline, dismissals, whole, rfl⟩
      rcases since_append.mp whole with ⟨began, rfl⟩ | ⟨before, ⟨since, goes_on⟩, rfl⟩
      · exact ⟨baseline, Or.inl began, rfl⟩
      · exact ⟨_, Or.inr ⟨ih.mpr ⟨baseline, before, since, rfl⟩, goes_on⟩,
          DismissalRecord.dismissAll_append ..⟩

/-- What the record of an issue says of the baseline it goes back to and the dismissals since, with
the counts that the baseline had and that it has now. -/
structure Tells (l : DismissalLedger) (issue : IssueKey) (baseline : DismissalRecord)
    (dismissals : List (SourceSeverity × Instant)) (r : DismissalRecord) (before now : Nat) :
    Prop where
  recorded : l.record? issue = some r
  countedBefore : baseline.dismissCount.Counts before
  countedNow : r.dismissCount.Counts now
  count : now < 2 ^ 53 ∨ before + dismissals.length < 2 ^ 53 → now = before + dismissals.length
  firstSeenAt : r.firstSeenAt = baseline.firstSeenAt
  severity : 0 < now → ∃ highest, r.dismissedSeverity = some highest ∧
    highest.IsHighest (baseline.severities ++ dismissals.map Prod.fst)
  hidden : ∀ severity, l.isDismissed issue severity = true ↔ 0 < now ∧
    ∃ highest : SourceSeverity, severity.rank ≤ highest.rank ∧
      highest.IsHighest (baseline.severities ++ dismissals.map Prod.fst)

theorem regular_begins {operation : LedgerOperation} {issue : IssueKey} {baseline : DismissalRecord}
    (began : operation.Begins issue l baseline) : baseline.Regular := by
  cases operation with
  | dismiss | sync =>
    obtain ⟨-, -, rfl⟩ := began
    exact DismissalRecord.regular_seen issue _
  | load records =>
    obtain ⟨loaded, accepted, recorded⟩ := began
    exact every_load DismissalRecord.regular_lasting accepted _ _ recorded
  | clearForUser | clear | markSaved | handOut => exact began.elim

theorem tells_since {history : List LedgerOperation} {issue : IssueKey}
    {baseline : DismissalRecord} {dismissals : List (SourceSeverity × Instant)}
    (since : Since history issue baseline dismissals) :
    ∃ r before now, (behind history).Tells issue baseline dismissals r before now := by
  have regular : baseline.Regular := by
    obtain ⟨_, ⟨earlier, first, later, -, -, began, -⟩, -⟩ := since
    exact regular_begins began
  have recorded := record?_behind.mpr ⟨baseline, dismissals, since, rfl⟩
  obtain ⟨before, counted⟩ := regular.exists_counts
  obtain ⟨now, counts, capped⟩ := DismissalRecord.counts_dismissAll counted dismissals
  have dismissed : (baseline.dismissAll dismissals).dismissCount ≠ 0 ↔ 0 < now :=
    (not_congr counts.eq_zero_iff).trans Nat.pos_iff_ne_zero.symm
  refine ⟨_, before, now, recorded, counted, counts, by omega,
    DismissalRecord.firstSeenAt_dismissAll .., ?_, fun severity => ?_⟩
  · exact fun positive => regular.isHighest_dismissAll dismissals (dismissed.mpr positive)
  · rw [isDismissed, recorded, Option.any_some, DismissalRecord.hides_iff, dismissed]
    refine and_congr_right fun positive => ?_
    obtain ⟨highest, severe, above⟩ :=
      regular.isHighest_dismissAll dismissals (dismissed.mpr positive)
    rw [severe]
    constructor
    · rintro ⟨_, same, below⟩
      cases same
      exact ⟨highest, below, above⟩
    · rintro ⟨other, below, above'⟩
      exact ⟨highest, rfl, below.trans (above.2 other above'.1)⟩

theorem Sound.consistent (sound : l.Sound) (regular : l.Every DismissalRecord.Regular)
    {text : String} {r : DismissalRecord} (found : l.records.get? text = some r) :
    text = r.issue.encode ∧ ∃ count, r.dismissCount.Counts count ∧
      (count = 0 ↔ r.dismissedAt = none) ∧
      (0 < count → ∃ severity, r.dismissedSeverity = some severity) := by
  have fits := regular text r found
  obtain ⟨count, counts⟩ := fits.exists_counts
  have dated : 0 < count ↔ r.dismissedAt.isSome = true := by rw [← fits.dated, counts.less_iff]
  refine ⟨sound.keyed text r found, count, counts, ?_, fun positive => ?_⟩
  · rw [← Option.not_isSome_iff_eq_none, ← dated]
    omega
  · exact Option.isSome_iff_exists.mp (fits.rated (dated.mp positive))

/-- Whatever was done to a ledger, its records stand under the keys of their issues and their counts
go with their dates and severities. An issue has a record if one was started or loaded and not ended
since; the record tells what that baseline was and which dismissals followed. -/
theorem records_tell_history (history : List LedgerOperation) :
    (∀ text r, (behind history).records.get? text = some r →
      text = r.issue.encode ∧ ∃ count, r.dismissCount.Counts count ∧
        (count = 0 ↔ r.dismissedAt = none) ∧
        (0 < count → ∃ severity, r.dismissedSeverity = some severity)) ∧
    (∀ issue, (∀ baseline dismissals, ¬Since history issue baseline dismissals) ↔
      (behind history).record? issue = none) ∧
    (∀ issue baseline dismissals, Since history issue baseline dismissals →
      ∃ r before now, (behind history).Tells issue baseline dismissals r before now) ∧
    ∀ issue, (behind history).record? issue = none →
      ∀ severity, (behind history).isDismissed issue severity = false := by
  refine ⟨fun text r found => (sound_behind history).consistent
      (every_behind DismissalRecord.regular_lasting history) found,
    fun issue => ?_, fun issue baseline dismissals => tells_since, fun issue none severity => ?_⟩
  · rw [Option.eq_none_iff_forall_ne_some]
    constructor
    · rintro unstarted r recorded
      obtain ⟨baseline, dismissals, since, -⟩ := record?_behind.mp recorded
      exact unstarted baseline dismissals since
    · intro none baseline dismissals since
      exact none _ (record?_behind.mpr ⟨baseline, dismissals, since, rfl⟩)
  · rw [isDismissed, none, Option.any_none]

def missingPin : IssueKey := ⟨"lock", "pin", 0⟩

/-- An issue that is reported and dismissed twice, with records in between that cannot be loaded. -/
def dismissedTwice : List LedgerOperation :=
  [.sync missingPin.source ["pin"] ⟨some 1⟩, .dismiss missingPin .recommendation ⟨some 2⟩,
    .load [⟨"lock", ⟨some 1⟩, none, 0, none⟩], .dismiss missingPin .information ⟨some 3⟩]

theorem since_dismissedTwice : Since dismissedTwice missingPin (.seen missingPin ⟨some 1⟩)
    [(.recommendation, ⟨some 2⟩), (.information, ⟨some 3⟩)] := by
  refine ⟨dismissedTwice, ⟨[], _, _, rfl, rfl, ?_, ?_⟩, by decide +kernel⟩
  · exact ⟨⟨rfl, List.mem_cons_self⟩, rfl, rfl⟩
  · have faults : loadFaults [⟨"lock", ⟨some 1⟩, none, 0, none⟩] ≠ [] := by decide +kernel
    intro next member
    simp only [List.mem_cons, List.not_mem_nil, or_false] at member
    rcases member with rfl | rfl | rfl
    · exact id
    · rintro ⟨loaded, accepted⟩
      exact faults (load_eq_ok accepted).2.1
    · exact id

theorem records_tell_history_dismissedTwice : ∃ r,
    (behind dismissedTwice).Tells missingPin (.seen missingPin ⟨some 1⟩)
      [(.recommendation, ⟨some 2⟩), (.information, ⟨some 3⟩)] r 0 2 ∧
    (∃ severity, r.dismissedSeverity = some severity) ∧
    (behind dismissedTwice).isDismissed ⟨"lock", "pin", 1⟩ .information = false := by
  obtain ⟨consistent, -, since, untouched⟩ := records_tell_history dismissedTwice
  obtain ⟨r, before, now, tells⟩ := since _ _ _ since_dismissedTwice
  obtain rfl : before = 0 := tells.countedBefore.unique (DismissalRecord.counts_seen _ _)
  obtain rfl : now = 2 := tells.count (Or.inr (by decide))
  obtain ⟨-, count, counts, -, severe⟩ := consistent _ r tells.recorded
  obtain rfl : count = 2 := counts.unique tells.countedNow
  have absent : (behind dismissedTwice).record? ⟨"lock", "pin", 1⟩ = none := by decide +kernel
  exact ⟨r, tells, severe (by decide), untouched _ absent _⟩

end DismissalLedger

end SafetyBoard
