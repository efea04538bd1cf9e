import SafetyBoard.Proofs.Dismissal.History

/-!
# A report is mirrored

When a source and user report, the ledger drops their records that the report omits and starts one for
each issue that has none. What is found under a key says nothing of the order in which records stand
and of the mark for what has changed, so both are told here by the entries themselves: those that are
kept, in their order, and behind them the new ones, each where its id first occurs.
-/

namespace SafetyBoard

theorem SourceKey.issue_injective (source : SourceKey) : source.issue.Injective := by
  intro id other same
  exact congrArg IssueKey.issueId same

theorem SourceKey.source_issue (source : SourceKey) (id : String) :
    (source.issue id).source = source := rfl

namespace DismissalLedger

def idsFor (l : DismissalLedger) (source : SourceKey) : List String :=
  (l.records.values.filter fun r => r.issue.source = source).map (·.issue.issueId)

def unrecorded (l : DismissalLedger) (source : SourceKey) (issueIds : List String) : List String :=
  (issueIds.filter fun id => (l.record? (source.issue id)).isNone).eraseDups

def newEntry (source : SourceKey) (now : Instant) (id : String) : String × DismissalRecord :=
  ((source.issue id).encode, .seen (source.issue id) now)

variable {l : DismissalLedger} {source : SourceKey} {now : Instant} {id : String}
  {issueIds : List String}

theorem unrecorded_eq_nil :
    l.unrecorded source issueIds = [] ↔ ∀ id ∈ issueIds, l.record? (source.issue id) ≠ none := by
  simp only [List.eq_nil_iff_forall_not_mem, unrecorded, List.mem_eraseDups, List.mem_filter,
    Option.isNone_iff_eq_none, not_and]

theorem track_of_recorded {issue : IssueKey} {r : DismissalRecord}
    (recorded : l.record? issue = some r) : l.track now issue = l :=
  if_pos (Option.isSome_iff_exists.mpr ⟨r, recorded⟩)

theorem track_of_unrecorded {issue : IssueKey} (now : Instant)
    (absent : l.record? issue = none) :
    (l.track now issue).records.entries = l.records.entries ++ [(issue.encode, .seen issue now)] ∧
      (l.track now issue).dirty = true := by
  have missing : l.records.contains issue.encode = false :=
    Option.isSome_eq_false_iff.mpr (Option.isNone_iff_eq_none.mpr absent)
  have new : issue.encode ∉ l.records.entries.map Prod.fst := by
    rw [← Bool.not_eq_true, Table.contains_iff] at missing
    exact missing
  rw [track, missing]
  exact ⟨Table.put_of_not_mem new _, rfl⟩

theorem unrecorded_of_recorded {r : DismissalRecord}
    (recorded : l.record? (source.issue id) = some r) :
    l.unrecorded source (id :: issueIds) = l.unrecorded source issueIds := by
  rw [unrecorded, unrecorded, List.filter_cons, recorded]
  rfl

theorem unrecorded_of_unrecorded (now : Instant)
    (absent : l.record? (source.issue id) = none) :
    l.unrecorded source (id :: issueIds) =
      id :: (l.track now (source.issue id)).unrecorded source issueIds := by
  rw [unrecorded, List.filter_cons, absent, Option.isNone_none, if_pos rfl, List.eraseDups_cons,
    List.filter_filter, unrecorded]
  congr 2
  refine List.filter_congr fun other _ => ?_
  rw [record?_track, if_congr source.issue_injective.eq_iff rfl rfl]
  cases l.record? (source.issue other) with
  | some r => simp
  | none =>
    by_cases same : id = other
    · simp [same]
    · simp [same, Ne.symm same]

theorem track_issues (source : SourceKey) (now : Instant) (issueIds : List String)
    (l : DismissalLedger) :
    ((issueIds.map source.issue).foldl (track now) l).records.entries =
      l.records.entries ++ (l.unrecorded source issueIds).map (newEntry source now) ∧
    ((issueIds.map source.issue).foldl (track now) l).dirty =
      (l.dirty || !(l.unrecorded source issueIds).isEmpty) := by
  induction issueIds generalizing l with
  | nil => simp [unrecorded]
  | cons id rest ih =>
    obtain ⟨entries, dirty⟩ := ih (l.track now (source.issue id))
    rw [List.map_cons, List.foldl_cons, entries, dirty]
    cases recorded : l.record? (source.issue id) with
    | some r =>
      rw [track_of_recorded recorded, unrecorded_of_recorded recorded]
      exact ⟨rfl, rfl⟩
    | none =>
      obtain ⟨added, changed⟩ := track_of_unrecorded now recorded
      rw [added, changed, unrecorded_of_unrecorded now recorded, List.map_cons,
        List.append_assoc]
      exact ⟨rfl, by simp⟩

def Stays (source : SourceKey) (issueIds : List String) (issue : IssueKey) : Prop :=
  issue.source.same source = false ∨ issue.issueId ∈ issueIds

instance (issue : IssueKey) : Decidable (Stays source issueIds issue) :=
  inferInstanceAs (Decidable (_ ∨ _))

theorem stays_of_mem (member : id ∈ issueIds) : Stays source issueIds (source.issue id) :=
  Or.inr member

def kept (l : DismissalLedger) (source : SourceKey) (issueIds : List String) : DismissalLedger :=
  l.keep fun r => Stays source issueIds r.issue

/-- Of ids that are spelled none is left out. -/
theorem sync_eq : l.sync source (issueIds.map .plain) now =
    (issueIds.map source.issue).foldl (track now) (l.kept source issueIds) := by
  have test (r : DismissalRecord) : (!r.issue.source.same source ||
      (issueIds.map Text.plain).contains r.issue.issueId) =
        decide (Stays source issueIds r.issue) := by
    rw [Bool.eq_iff_iff, decide_eq_true_iff, Stays]
    simp [Text.plain_injective.eq_iff]
  rw [sync, Text.spelledPrefix_map]
  simp only [kept, test]

section Sync

variable (h : l.Sound)
include h

theorem unrecorded_kept :
    (l.kept source issueIds).unrecorded source issueIds = l.unrecorded source issueIds := by
  rw [unrecorded, unrecorded]
  congr 1
  refine List.filter_congr fun id member => ?_
  rw [kept, record?_keep h fun issue => decide (Stays source issueIds issue),
    if_pos (decide_eq_true (stays_of_mem member))]

theorem entries_sync : (l.sync source (issueIds.map .plain) now).records.entries =
    (l.records.entries.filter fun e => Stays source issueIds e.2.issue) ++
      (l.unrecorded source issueIds).map (newEntry source now) := by
  rw [sync_eq, (track_issues ..).1, unrecorded_kept h]
  rfl

theorem dirty_sync : (l.sync source (issueIds.map .plain) now).dirty = true ↔
    l.dirty = true ∨ (∃ r ∈ l.records.values, ¬Stays source issueIds r.issue) ∨
      ∃ id ∈ issueIds, l.record? (source.issue id) = none := by
  have added : l.unrecorded source issueIds ≠ [] ↔
      ∃ id ∈ issueIds, l.record? (source.issue id) = none := by
    simp [unrecorded_eq_nil]
  rw [sync_eq, (track_issues ..).2, unrecorded_kept h, ← added, kept, keep]
  simp [or_assoc]

theorem sync_of_mirrored (listed : ∀ r ∈ l.records.values, Stays source issueIds r.issue)
    (recorded : ∀ id ∈ issueIds, l.record? (source.issue id) ≠ none) :
    l.sync source (issueIds.map .plain) now = l := by
  have entries : (l.sync source (issueIds.map .plain) now).records.entries = l.records.entries := by
    have all : (l.records.entries.filter fun e => Stays source issueIds e.2.issue) =
        l.records.entries := by
      refine List.filter_eq_self.mpr fun e member => decide_eq_true (listed e.2 ?_)
      exact List.mem_map_of_mem member
    rw [entries_sync h, all, unrecorded_eq_nil.mpr recorded, List.map_nil, List.append_nil]
  have dirty : (l.sync source (issueIds.map .plain) now).dirty = l.dirty := by
    rw [Bool.eq_iff_iff, dirty_sync h]
    refine or_iff_left ?_
    rintro (⟨r, member, leaves⟩ | ⟨id, member, absent⟩)
    · exact leaves (listed r member)
    · exact recorded id member absent
  exact congrArg₂ DismissalLedger.mk (Table.eq_of_entries entries) dirty

theorem mem_idsFor : id ∈ l.idsFor source ↔ ∃ r, l.record? (source.issue id) = some r := by
  simp only [idsFor, List.mem_map, List.mem_filter, decide_eq_true_iff, h.mem_values]
  constructor
  · rintro ⟨r, ⟨recorded, rfl⟩, rfl⟩
    exact ⟨r, recorded⟩
  · rintro ⟨r, recorded⟩
    have own := h.issue recorded
    exact ⟨r, ⟨own ▸ recorded, own ▸ rfl⟩, own ▸ rfl⟩

theorem nodup_idsFor : (l.idsFor source).Nodup := by
  have issues : (l.idsFor source).map source.issue =
      (l.records.values.filter fun r => r.issue.source = source).map (·.issue) := by
    rw [idsFor, List.map_map]
    refine List.map_congr_left fun r member => ?_
    have own : r.issue.source = source := of_decide_eq_true (List.mem_filter.mp member).2
    rw [Function.comp_apply, ← own]
    rfl
  refine List.Nodup.of_map source.issue ?_
  rw [issues]
  exact h.nodup_issues.sublist (List.filter_sublist.map _)

end Sync

/-- The records of a source and user are those of the ids, as they were before or else new, and
nothing else has changed. -/
structure Mirrors (l : DismissalLedger) (source : SourceKey) (issueIds : List String)
    (now : Instant) (l' : DismissalLedger) : Prop where
  distinct : (l'.idsFor source).Nodup
  listed : ∀ id, id ∈ l'.idsFor source ↔ id ∈ issueIds
  recorded : ∀ id ∈ issueIds, ∀ r, l.record? (source.issue id) = some r →
    l'.record? (source.issue id) = some r
  started : ∀ id ∈ issueIds, l.record? (source.issue id) = none →
    l'.record? (source.issue id) = some ⟨source.issue id, now, none, none, 0⟩
  others : ∀ issue, issue.source ≠ source → l'.record? issue = l.record? issue
  order : l'.records.entries =
    (l.records.entries.filter fun e => Stays source issueIds e.2.issue) ++
      (l.unrecorded source issueIds).map (newEntry source now)
  dirty : l'.dirty = true ↔
    l.dirty = true ∨ ∃ issue, (l'.record? issue).isSome ≠ (l.record? issue).isSome
  again : ∀ later, l'.sync source (issueIds.map .plain) later = l'

section Sync

variable (h : l.Sound)
include h

theorem record?_sync_plain (issue : IssueKey) :
    (l.sync source (issueIds.map .plain) now).record? issue =
      if issue.source = source ∧ issue.issueId ∈ issueIds then
        some ((l.record? issue).getD (.seen issue now))
      else if issue.source.same source then none else l.record? issue := by
  rw [record?_sync h source (Text.all_isSpelled_map issueIds)]
  simp only [List.mem_map_of_injective Text.plain_injective]

theorem record?_sync_issue (member : id ∈ issueIds) :
    (l.sync source (issueIds.map .plain) now).record? (source.issue id) =
      some ((l.record? (source.issue id)).getD (.seen (source.issue id) now)) := by
  rw [record?_sync_plain h, if_pos ⟨source.source_issue id, member⟩]

theorem record?_sync_of_leaves {issue : IssueKey} (leaves : ¬Stays source issueIds issue) :
    (l.sync source (issueIds.map .plain) now).record? issue = none := by
  obtain ⟨own, omitted⟩ := not_or.mp leaves
  rw [record?_sync_plain h, if_neg fun reported => omitted reported.2,
    if_pos (Bool.eq_true_of_not_eq_false own)]

theorem sync_again (later : Instant) :
    (l.sync source (issueIds.map .plain) now).sync source (issueIds.map .plain) later =
      l.sync source (issueIds.map .plain) now := by
  have sound := h.sync source (issueIds.map .plain) now
  refine sync_of_mirrored sound (fun r member => ?_) fun id member => ?_
  · by_contra leaves
    have recorded := sound.mem_values.mp member
    rw [record?_sync_of_leaves h leaves] at recorded
    cases recorded
  · rw [record?_sync_issue h member]
    exact nofun

theorem changed_iff : ((∃ r ∈ l.records.values, ¬Stays source issueIds r.issue) ∨
      ∃ id ∈ issueIds, l.record? (source.issue id) = none) ↔
    ∃ issue, ((l.sync source (issueIds.map .plain) now).record? issue).isSome ≠
      (l.record? issue).isSome := by
  constructor
  · rintro (⟨r, member, leaves⟩ | ⟨id, member, absent⟩)
    · refine ⟨r.issue, ?_⟩
      rw [record?_sync_of_leaves h leaves, h.mem_values.mp member]
      exact Bool.false_ne_true
    · refine ⟨source.issue id, ?_⟩
      rw [record?_sync_issue h member, absent]
      exact Bool.noConfusion
  · rintro ⟨issue, differs⟩
    by_cases stays : Stays source issueIds issue
    · rw [record?_sync_plain h] at differs
      split at differs
      · next reported =>
        obtain ⟨rfl, member⟩ := reported
        refine Or.inr ⟨issue.issueId, member, ?_⟩
        rw [← Option.not_isSome_iff_eq_none]
        exact fun recorded => differs recorded.symm
      · next unreported =>
        split at differs
        · next own =>
          have member := stays.resolve_left fun other => Bool.noConfusion (own.symm.trans other)
          exact absurd ⟨(SourceKey.same_iff.mp own).1, member⟩ unreported
        · exact absurd rfl differs
    · rw [record?_sync_of_leaves h stays] at differs
      have present : l.record? issue ≠ none := fun absent => differs (by rw [absent])
      obtain ⟨r, recorded⟩ := Option.ne_none_iff_exists'.mp present
      have own := h.issue recorded
      exact Or.inl ⟨r, h.mem_values.mpr (own ▸ recorded), own ▸ stays⟩

theorem Sound.mirrors (defined : source.userId ≠ .undefined) :
    l.Mirrors source issueIds now (l.sync source (issueIds.map .plain) now) := by
  have sound := h.sync source (issueIds.map .plain) now
  have listed (id : String) :
      id ∈ (l.sync source (issueIds.map .plain) now).idsFor source ↔ id ∈ issueIds := by
    rw [mem_idsFor sound]
    by_cases member : id ∈ issueIds
    · rw [record?_sync_issue h member]
      exact iff_of_true ⟨_, rfl⟩ member
    · have own : (source.issue id).source.same source = true := by
        rw [source.source_issue, SourceKey.same_of_defined defined, decide_eq_true_iff]
      have leaves : ¬Stays source issueIds (source.issue id) := by
        rintro (other | reported)
        · exact Bool.noConfusion (own.symm.trans other)
        · exact member reported
      simp [record?_sync_of_leaves h leaves, member]
  refine {
    distinct := nodup_idsFor sound
    listed
    recorded := fun id member r recorded => ?_
    started := fun id member absent => ?_
    others := fun issue other => ?_
    order := entries_sync h
    dirty := (dirty_sync h).trans (or_congr_right (changed_iff h))
    again := sync_again h }
  · rw [record?_sync_issue h member, recorded, Option.getD_some]
  · rw [record?_sync_issue h member, absent, Option.getD_none]
    rfl
  · rw [record?_sync_plain h, if_neg fun reported => other reported.1, SourceKey.same_of_ne other]
    rfl

end Sync

end DismissalLedger

end SafetyBoard
