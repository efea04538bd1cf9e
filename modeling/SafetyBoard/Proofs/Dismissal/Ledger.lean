import Mathlib.Data.List.Nodup
import SafetyBoard.Dismissal.Ledger
import SafetyBoard.Proofs.Keys
import SafetyBoard.Proofs.Number.Rounding
import SafetyBoard.Proofs.Table
import SafetyBoard.Proofs.Text.Spelled

/-!
# What the ledger remembers

A ledger hides an issue up to the highest severity at which it was dismissed. Dismissing raises that
severity, a report that omits the issue and the clearing of its user forget it, and nothing else
changes it. All of that is said of `isDismissed`, so that no later proof has to open a record.
-/

namespace SafetyBoard

namespace DismissalRecord

def Counted (r : DismissalRecord) : Prop :=
  r.dismissCount = 0 ∨ Number.less 0 r.dismissCount = true

theorem counted_seen (issue : IssueKey) (now : Instant) : (seen issue now).Counted := Or.inl rfl

variable {r : DismissalRecord}

theorem Counted.dismiss (h : r.Counted) (severity : SourceSeverity) (now : Instant) :
    (r.dismiss severity now).Counted :=
  Or.inr (Number.less_zero_add h Number.less_zero_one)

theorem hides_iff (severity : SourceSeverity) :
    r.hides severity = true ↔ r.dismissCount ≠ 0 ∧
      ∃ dismissed, r.dismissedSeverity = some dismissed ∧ severity.rank ≤ dismissed.rank := by
  rw [hides, Bool.and_eq_true, decide_eq_true_iff]
  cases r.dismissedSeverity with
  | none => simp
  | some dismissed => simp

theorem hides_of_untouched (untouched : r.dismissCount = 0) (severity : SourceSeverity) :
    r.hides severity = false := by
  rw [Bool.eq_false_iff, ne_eq, hides_iff]
  exact fun h => h.1 untouched

theorem seen_hides (issue : IssueKey) (now : Instant) (severity : SourceSeverity) :
    (seen issue now).hides severity = false :=
  hides_of_untouched (r := seen issue now) rfl severity

/-- A dismissal hides everything up to its severity, and what was hidden stays so. -/
theorem dismiss_hides (h : r.Counted) (severity : SourceSeverity) (now : Instant)
    (other : SourceSeverity) : (r.dismiss severity now).hides other = true ↔
      other.rank ≤ severity.rank ∨ r.hides other = true := by
  have counts : (r.dismiss severity now).dismissCount ≠ 0 :=
    Number.ne_zero_of_less (Number.less_zero_add h Number.less_zero_one)
  have recorded_after : (r.dismiss severity now).dismissedSeverity =
      if r.hides severity = true then r.dismissedSeverity else some severity := rfl
  rw [hides_iff, and_iff_right counts, recorded_after]
  split
  · next hidden =>
    obtain ⟨counted, dismissed, recorded, below⟩ := (hides_iff severity).mp hidden
    rw [hides_iff, and_iff_right counted, recorded]
    constructor
    · exact Or.inr
    · rintro (lower | kept)
      · exact ⟨dismissed, rfl, lower.trans below⟩
      · exact kept
  · next hidden =>
    constructor
    · rintro ⟨_, same, lower⟩
      cases same
      exact Or.inl lower
    · rintro (lower | kept)
      · exact ⟨severity, rfl, lower⟩
      · obtain ⟨counted, dismissed, recorded, lower⟩ := (hides_iff other).mp kept
        have above : ¬severity.rank ≤ dismissed.rank := fun below =>
          hidden ((hides_iff severity).mpr ⟨counted, dismissed, recorded, below⟩)
        exact ⟨severity, rfl, by omega⟩

end DismissalRecord

namespace DismissalLedger

/-- Every record stands under the key of its issue, and its count is a count. -/
structure Sound (l : DismissalLedger) : Prop where
  keyed : ∀ text r, l.records.get? text = some r → text = r.issue.encode
  counted : ∀ text r, l.records.get? text = some r → r.Counted

variable {l : DismissalLedger}

theorem sound_empty : (∅ : DismissalLedger).Sound := ⟨Table.every_empty _, Table.every_empty _⟩

theorem isDismissed_empty (key : IssueKey) (severity : SourceSeverity) :
    (∅ : DismissalLedger).isDismissed key severity = false := rfl

theorem Sound.issue (h : l.Sound) {issue : IssueKey} {r : DismissalRecord}
    (recorded : l.record? issue = some r) : r.issue = issue :=
  (IssueKey.encode_injective (h.keyed _ _ recorded)).symm

theorem Sound.mem_values (h : l.Sound) {r : DismissalRecord} :
    r ∈ l.records.values ↔ l.record? r.issue = some r := by
  rw [Table.mem_values_iff]
  constructor
  · rintro ⟨text, found⟩
    rw [record?, ← h.keyed _ _ found]
    exact found
  · exact fun recorded => ⟨_, recorded⟩

theorem Sound.nodup_issues (h : l.Sound) : (l.records.values.map (·.issue)).Nodup := by
  have encoded : l.records.values.map (fun r => r.issue.encode) = l.records.keys :=
    Table.NamedBy.map_values h.keyed
  refine List.Nodup.of_map IssueKey.encode ?_
  rw [List.map_map]
  exact encoded ▸ l.records.nodup_keys

theorem Sound.insert (h : l.Sound) {r : DismissalRecord} (counted : r.Counted) (dirty : Bool) :
    Sound ⟨l.records.insert r.issue.encode r, dirty⟩ :=
  ⟨Table.Every.insert h.keyed rfl, Table.Every.insert h.counted counted⟩

theorem record?_insert (r : DismissalRecord) (dirty : Bool) (issue : IssueKey) :
    record? ⟨l.records.insert r.issue.encode r, dirty⟩ issue =
      if r.issue = issue then some r else l.record? issue := by
  rw [record?, record?, Table.get?_insert]
  by_cases same : r.issue = issue
  · rw [if_pos same, if_pos (congrArg _ same)]
  · rw [if_neg same, if_neg fun encoded => same (IssueKey.encode_injective encoded)]

theorem Sound.getD_seen (h : l.Sound) (issue : IssueKey) (now : Instant) :
    ((l.record? issue).getD (.seen issue now)).issue = issue ∧
      ((l.record? issue).getD (.seen issue now)).Counted := by
  cases recorded : l.record? issue with
  | none => exact ⟨rfl, DismissalRecord.counted_seen issue now⟩
  | some r => exact ⟨h.issue recorded, h.counted _ _ recorded⟩

theorem getD_seen_hides (issue : IssueKey) (now : Instant) (severity : SourceSeverity) :
    ((l.record? issue).getD (.seen issue now)).hides severity = l.isDismissed issue severity := by
  rw [isDismissed]
  cases l.record? issue with
  | none => exact DismissalRecord.seen_hides issue now severity
  | some r => rfl

theorem dismiss_eq_insert (h : l.Sound) (issue : IssueKey) (severity : SourceSeverity)
    (now : Instant) : ∃ r : DismissalRecord, r.issue = issue ∧ r.Counted ∧
      r = ((l.record? issue).getD (.seen issue now)).dismiss severity now ∧
      l.dismiss issue severity now = ⟨l.records.insert r.issue.encode r, true⟩ := by
  obtain ⟨own, counted⟩ := h.getD_seen issue now
  refine ⟨((l.record? issue).getD (.seen issue now)).dismiss severity now, own,
    counted.dismiss severity now, rfl, ?_⟩
  rw [dismiss, DismissalRecord.dismiss, own]

theorem Sound.dismiss (h : l.Sound) (issue : IssueKey) (severity : SourceSeverity)
    (now : Instant) : (l.dismiss issue severity now).Sound := by
  obtain ⟨r, -, counted, -, written⟩ := dismiss_eq_insert h issue severity now
  rw [written]
  exact h.insert counted true

theorem record?_dismiss (h : l.Sound) (issue : IssueKey) (severity : SourceSeverity)
    (now : Instant) (key : IssueKey) : (l.dismiss issue severity now).record? key =
      if issue = key then some (((l.record? issue).getD (.seen issue now)).dismiss severity now)
      else l.record? key := by
  obtain ⟨r, own, -, same, written⟩ := dismiss_eq_insert h issue severity now
  rw [written, record?_insert, own, same]

theorem isDismissed_dismiss (h : l.Sound) (issue : IssueKey) (severity : SourceSeverity)
    (now : Instant) (key : IssueKey) (other : SourceSeverity) :
    (l.dismiss issue severity now).isDismissed key other = true ↔
      issue = key ∧ other.rank ≤ severity.rank ∨ l.isDismissed key other = true := by
  rw [isDismissed, record?_dismiss h]
  by_cases same : issue = key
  · subst same
    obtain ⟨-, counted⟩ := h.getD_seen issue now
    rw [if_pos rfl, Option.any_some, DismissalRecord.dismiss_hides counted, getD_seen_hides]
    simp
  · rw [if_neg same]
    simp [same, isDismissed]

theorem isDismissed_of_rank_le {issue : IssueKey} {severity lower : SourceSeverity}
    (hidden : l.isDismissed issue severity = true) (below : lower.rank ≤ severity.rank) :
    l.isDismissed issue lower = true := by
  rw [isDismissed, Option.any_eq_true] at hidden ⊢
  obtain ⟨r, recorded, hides⟩ := hidden
  obtain ⟨counted, dismissed, found, above⟩ := (DismissalRecord.hides_iff severity).mp hides
  exact ⟨r, recorded,
    (DismissalRecord.hides_iff lower).mpr ⟨counted, dismissed, found, below.trans above⟩⟩

theorem isDismissed_dismiss_again (h : l.Sound) {issue : IssueKey} {severity : SourceSeverity}
    (hidden : l.isDismissed issue severity = true) (now : Instant) :
    (l.dismiss issue severity now).isDismissed = l.isDismissed := by
  funext key other
  rw [Bool.eq_iff_iff, isDismissed_dismiss h]
  apply or_iff_right_of_imp
  rintro ⟨rfl, below⟩
  exact isDismissed_of_rank_le hidden below

theorem Sound.keep (h : l.Sound) (p : DismissalRecord → Bool) : (l.keep p).Sound :=
  ⟨Table.Every.filter h.keyed _, Table.Every.filter h.counted _⟩

theorem record?_keep (h : l.Sound) (p : IssueKey → Bool) (key : IssueKey) :
    (l.keep fun r => p r.issue).record? key = if p key then l.record? key else none := by
  have kept : (l.keep fun r => p r.issue).record? key =
      (l.record? key).filter fun r => p r.issue := Table.get?_filter _ _ _
  rw [kept]
  cases recorded : l.record? key with
  | none => simp
  | some r => rw [Option.filter_some, h.issue recorded]

theorem isDismissed_keep (h : l.Sound) (p : IssueKey → Bool) (key : IssueKey)
    (severity : SourceSeverity) : (l.keep fun r => p r.issue).isDismissed key severity = true ↔
      l.isDismissed key severity = true ∧ p key = true := by
  rw [isDismissed, isDismissed, record?_keep h]
  cases p key <;> simp

theorem Sound.clearForUser (h : l.Sound) (user : UserId) : (l.clearForUser user).Sound := h.keep _

theorem record?_clearForUser (h : l.Sound) (user : UserId) (key : IssueKey) :
    (l.clearForUser user).record? key =
      if key.userId.equals user then none else l.record? key := by
  refine (record?_keep h (fun issue => !issue.userId.equals user) key).trans ?_
  cases key.userId.equals user <;> simp

theorem isDismissed_clearForUser (h : l.Sound) (user : UserId) (key : IssueKey)
    (severity : SourceSeverity) : (l.clearForUser user).isDismissed key severity = true ↔
      l.isDismissed key severity = true ∧ key.userId.equals user = false :=
  (isDismissed_keep h (fun issue => !issue.userId.equals user) key severity).trans (by simp)

theorem sound_clear (l : DismissalLedger) : l.clear.Sound :=
  ⟨sound_empty.keyed, sound_empty.counted⟩

theorem isDismissed_clear (l : DismissalLedger) (key : IssueKey) (severity : SourceSeverity) :
    l.clear.isDismissed key severity = false := rfl

theorem Sound.markSaved (h : l.Sound) : l.markSaved.Sound := ⟨h.keyed, h.counted⟩

theorem Sound.track (h : l.Sound) (now : Instant) (issue : IssueKey) :
    (l.track now issue).Sound := by
  rw [DismissalLedger.track]
  split
  · exact h
  · exact h.insert (DismissalRecord.counted_seen issue now) true

/-- A new record is started only where there is none. -/
theorem record?_track (now : Instant) (issue key : IssueKey) :
    (l.track now issue).record? key =
      (l.record? key).or (if issue = key then some (.seen key now) else none) := by
  rw [track]
  split
  · next present =>
    split
    · next same =>
      subst same
      obtain ⟨r, recorded⟩ := Option.isSome_iff_exists.mp present
      have recorded : l.record? issue = some r := recorded
      rw [recorded, Option.some_or]
    · rw [Option.or_none]
  · next absent =>
    have absent : l.record? issue = none := by
      rw [Table.contains, Bool.not_eq_true, Option.isSome_eq_false_iff, Option.isNone_iff_eq_none]
        at absent
      exact absent
    have written : record? ⟨l.records.insert issue.encode (.seen issue now), true⟩ key =
        if issue = key then some (.seen issue now) else l.record? key :=
      record?_insert (.seen issue now) true key
    rw [written]
    split
    · next same =>
      subst same
      rw [absent, Option.none_or]
    · rw [Option.or_none]

theorem track_foldl (now : Instant) (issues : List IssueKey) (h : l.Sound) :
    (issues.foldl (track now) l).Sound ∧ ∀ key, (issues.foldl (track now) l).record? key =
      (l.record? key).or (if key ∈ issues then some (.seen key now) else none) := by
  induction issues generalizing l with
  | nil =>
    refine ⟨h, fun key => ?_⟩
    rw [List.foldl_nil, if_neg List.not_mem_nil, Option.or_none]
  | cons issue rest ih =>
    obtain ⟨sound, tracked⟩ := ih (h.track now issue)
    refine ⟨sound, fun key => ?_⟩
    rw [List.foldl_cons, tracked, record?_track, Option.or_assoc]
    congr 1
    by_cases same : issue = key
    · subst same
      simp
    · simp [same, Ne.symm same]

theorem Sound.sync (h : l.Sound) (key : SourceKey) (issueIds : List Text) (now : Instant) :
    (l.sync key issueIds now).Sound :=
  (track_foldl now _ (h.keep _)).1

/-- The issues before the first garbled id have records, old ones as they were; what is not reported
of the source and user is gone, and no further record is touched. -/
theorem record?_sync_upTo (h : l.Sound) (source : SourceKey) (issueIds : List Text) (now : Instant)
    (key : IssueKey) : (l.sync source issueIds now).record? key =
      if key.source = source ∧ key.issueId ∈ Text.spelledPrefix issueIds then
        some ((l.record? key).getD (.seen key now))
      else if key.source.same source ∧ (key.issueId : Text) ∉ issueIds then none
      else l.record? key := by
  have kept := record?_keep h
    (fun issue => !issue.source.same source || issueIds.contains issue.issueId) key
  have reported : key ∈ (Text.spelledPrefix issueIds).map source.issue ↔
      key.source = source ∧ key.issueId ∈ Text.spelledPrefix issueIds := by
    rw [List.mem_map]
    constructor
    · rintro ⟨id, member, rfl⟩
      exact ⟨rfl, member⟩
    · rintro ⟨rfl, member⟩
      exact ⟨key.issueId, member, rfl⟩
  rw [sync, (track_foldl now _ (h.keep _)).2, kept, if_congr reported rfl rfl]
  by_cases member : key.source = source ∧ key.issueId ∈ Text.spelledPrefix issueIds
  · have listed := Text.mem_spelledPrefix member.2
    cases l.record? key <;> simp [member, listed]
  · rw [if_neg member, if_neg member, Option.or_none]
    cases key.source.same source <;> simp

theorem record?_sync (h : l.Sound) (source : SourceKey) {issueIds : List Text}
    (spelled : issueIds.all Text.isSpelled = true) (now : Instant) (key : IssueKey) :
    (l.sync source issueIds now).record? key =
      if key.source = source ∧ (key.issueId : Text) ∈ issueIds then
        some ((l.record? key).getD (.seen key now))
      else if key.source.same source then none else l.record? key := by
  rw [record?_sync_upTo h]
  simp only [Text.mem_spelledPrefix_iff spelled]
  by_cases own : key.source.same source = true
  · have same := (SourceKey.same_iff.mp own).1
    by_cases member : (key.issueId : Text) ∈ issueIds <;> simp [same, member]
  · simp [own]

theorem isDismissed_sync (h : l.Sound) (source : SourceKey) (issueIds : List Text)
    (now : Instant) (key : IssueKey) (severity : SourceSeverity) :
    (l.sync source issueIds now).isDismissed key severity = true ↔
      l.isDismissed key severity = true ∧
        (key.source.same source = true → (key.issueId : Text) ∈ issueIds) := by
  rw [isDismissed, isDismissed, record?_sync_upTo h]
  by_cases reported : key.source = source ∧ key.issueId ∈ Text.spelledPrefix issueIds
  · rw [if_pos reported, Option.any_some, getD_seen_hides, isDismissed]
    simp [Text.mem_spelledPrefix reported.2]
  · rw [if_neg reported]
    by_cases gone : key.source.same source = true ∧ (key.issueId : Text) ∉ issueIds
    · simp [gone.1, gone.2]
    · rw [if_neg gone]
      simp only [not_and, not_not] at gone
      exact (and_iff_left gone).symm

theorem counted_of_check {p : PersistedRecord} {read : Option IssueKey} (valid : p.check = .ok read)
    (issue : IssueKey) : (p.restore issue).Counted := by
  rw [PersistedRecord.check] at valid
  split at valid
  · cases valid
  · split at valid
    · cases valid
    · next counts =>
      rw [Bool.not_eq_true, Bool.or_eq_false_iff, Bool.not_eq_false'] at counts
      exact Number.zero_or_less counts.1 counts.2

/-- What holds of each record of a list that is valid, restored, holds of all that are loaded. -/
theorem every_loadTable {P : String → DismissalRecord → Prop} {records : List PersistedRecord}
    (restored : ∀ p ∈ records, ∀ issue, p.check = .ok (some issue) →
      P issue.encode (p.restore issue)) : (loadTable records).Every P := by
  intro text r found
  obtain ⟨p, member, made⟩ := List.mem_filterMap.mp (Table.mem_of_get?_ofList found)
  split at made
  · cases made
  · cases made
  · next issue valid =>
    cases made
    exact restored p member issue valid

theorem sound_loadTable (records : List PersistedRecord) (dirty : Bool) :
    Sound ⟨loadTable records, dirty⟩ where
  keyed := every_loadTable (P := fun text r => text = r.issue.encode) fun _ _ _ _ => rfl
  counted := every_loadTable (P := fun _ r => r.Counted) fun _ _ issue valid =>
    counted_of_check valid issue

theorem load_eq_ok {records : List PersistedRecord} (loaded : load records = .ok l) :
    hasGarbled records = false ∧ loadFaults records = [] ∧ l = ⟨loadTable records, false⟩ := by
  rw [load] at loaded
  split at loaded
  · cases loaded
  · next spelled =>
    split at loaded
    · next none =>
      cases loaded
      exact ⟨Bool.eq_false_iff.mpr spelled, none, rfl⟩
    · cases loaded

theorem sound_load {records : List PersistedRecord} (loaded : load records = .ok l) : l.Sound :=
  (load_eq_ok loaded).2.2 ▸ sound_loadTable records false

end DismissalLedger

end SafetyBoard
