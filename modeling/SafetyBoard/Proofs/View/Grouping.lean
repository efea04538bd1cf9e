import Mathlib.Data.List.Perm.Basic
import SafetyBoard.Proofs.Severity
import SafetyBoard.Proofs.View.Entries
import SafetyBoard.Proofs.View.Overall

/-!
# What an entry group says of its entries

An entry group has the highest severity of its entries, whatever their order. Its summary is to
explain that severity: it is taken from the first entry that has it, where such an entry says
something worth repeating, and else it is the configured one or one that tells that data is missing.
-/

namespace SafetyBoard

def IsFirst (holds : Entry → Prop) (entries : List Entry) (e : Entry) : Prop :=
  ∃ before after, entries = before ++ e :: after ∧ holds e ∧ ∀ e' ∈ before, ¬holds e'

theorem IsFirst.holds {holds : Entry → Prop} {entries : List Entry} {e : Entry}
    (h : IsFirst holds entries e) : holds e := by
  obtain ⟨before, after, -, own, -⟩ := h
  exact own

namespace ReportStore

def HasIssues (store : ReportStore) (e : Entry) : Prop :=
  ∃ report, store.get? e.key = some report ∧ report.issues ≠ []

def SummarizedBy (store : ReportStore) (e : Entry) : Prop :=
  ∃ report status, store.get? e.key = some report ∧ report.status = some status ∧
    e.summary = some status.summary

end ReportStore

/-- What an entry group says follows from its entries, the store and the configured summary. -/
structure EntryGroup.Explained (store : ReportStore) (configured : Option Text)
    (group : EntryGroup) : Prop where
  highest : group.severity.IsHighest (group.entries.map (·.severity))
  attention : group.severity = .recommendation ∨ group.severity = .criticalWarning →
    ∃ e, IsFirst (·.severity = group.severity) group.entries e ∧
      store.SummarizedBy e ∧ group.summary = e.summary
  ok : group.severity = .ok →
    (∃ e, IsFirst (fun e => e.severity = .ok ∧ store.HasIssues e) group.entries e ∧
      store.SummarizedBy e ∧ group.summary = e.summary) ∨
    (∀ e ∈ group.entries, ¬(e.severity = .ok ∧ store.HasIssues e)) ∧ group.summary = configured
  unspecified : group.severity = .unspecified → group.summary = configured
  unknown : group.severity = .unknown →
    group.summary = some (match group.entries.countP fun e => store.hasError e.key with
      | 0 => Strings.groupUnknownSummary
      | failed + 1 => Strings.refreshErrorSummary (.ofNat (failed + 1)))

namespace View

/-- The same group for the same users, perhaps with its sources and the profiles in another
order. -/
structure Reordered (g g' : SourceGroup) (users users' : UserGroup) : Prop where
  type : g'.type = g.type
  id : g'.id = g.id
  sources : g'.sources.Perm g.sources
  parent : users'.parent = users.parent
  managed : users'.managed.Perm users.managed

section Summary

variable {store : ReportStore} {entries : List Entry} {severity : EntrySeverity}

theorem isFirst_of_find? {found : Entry → Bool} {holds : Entry → Prop}
    (same : ∀ e ∈ entries, found e = true ↔ holds e) {e : Entry}
    (first : entries.find? found = some e) : IsFirst holds entries e := by
  obtain ⟨own, before, after, split, skipped⟩ := List.find?_eq_some_iff_append.mp first
  refine ⟨before, after, split, (same e ?_).mp own, fun e' earlier h => ?_⟩
  · rw [split]
    exact List.mem_append_right before List.mem_cons_self
  · have other : e' ∈ entries := by
      rw [split]
      exact List.mem_append_left _ earlier
    have not_found := skipped e' earlier
    rw [(same e' other).mpr h] at not_found
    cases not_found

theorem hasIssues_iff (e : Entry) : hasIssues store e.key = true ↔ store.HasIssues e := by
  rw [hasIssues, Option.any_eq_true]
  simp [ReportStore.HasIssues]

/-- The explanation is the summary of the first entry that has the severity and, if that is ok, has
issues too; there is none if there is no such entry. -/
theorem explanation?_first
    (summarized : ∀ e ∈ entries, e.severity = severity → store.SummarizedBy e) :
    let explains (e : Entry) := e.severity = severity ∧ (severity = .ok → store.HasIssues e)
    (∃ e, IsFirst explains entries e ∧ store.SummarizedBy e ∧
      explanation? store severity entries = e.summary) ∨
    (∀ e ∈ entries, ¬explains e) ∧ explanation? store severity entries = none := by
  intro explains
  let found (e : Entry) : Bool := e.severity = severity && e.summary.isSome &&
    (severity ≠ .ok || hasIssues store e.key)
  have same : ∀ e ∈ entries, found e = true ↔ explains e := by
    intro e member
    have tells : e.severity = severity → e.summary.isSome = true := by
      intro own
      obtain ⟨_, status, -, -, said⟩ := summarized e member own
      rw [said]
      rfl
    simp only [found, explains, Bool.and_eq_true, Bool.or_eq_true, decide_eq_true_iff,
      hasIssues_iff]
    constructor
    · rintro ⟨⟨own, -⟩, issues⟩
      exact ⟨own, fun ok => issues.resolve_left (not_not_intro ok)⟩
    · rintro ⟨own, issues⟩
      exact ⟨⟨own, tells own⟩, (em (severity = .ok)).symm.imp_right issues⟩
  cases first : entries.find? found with
  | some e =>
    have isFirst := isFirst_of_find? same first
    have own := isFirst.holds.1
    have member : e ∈ entries := List.mem_of_find?_eq_some first
    refine .inl ⟨e, isFirst, summarized e member own, ?_⟩
    rw [explanation?, first, Option.bind_some]
  | none =>
    refine .inr ⟨fun e member holds => ?_, ?_⟩
    · exact List.find?_eq_none.mp first e member ((same e member).mpr holds)
    · rw [explanation?, first, Option.bind_none]

theorem groupSummary_attention {g : SourceGroup}
    (summarized : ∀ e ∈ entries, e.severity = severity → store.SummarizedBy e)
    (above : severity = .recommendation ∨ severity = .criticalWarning)
    (among : severity ∈ entries.map (·.severity)) :
    ∃ e, IsFirst (·.severity = severity) entries e ∧ store.SummarizedBy e ∧
      groupSummary store g severity entries = e.summary := by
  have not_ok : severity ≠ .ok := by
    rcases above with rfl | rfl <;> decide
  have explained : groupSummary store g severity entries =
      (explanation? store severity entries <|> g.summary) := by
    rcases above with rfl | rfl <;> rfl
  obtain ⟨e, first, said, summary⟩ | ⟨absent, -⟩ := explanation?_first summarized
  · simp only [not_ok, false_implies, and_true] at first
    refine ⟨e, first, said, ?_⟩
    obtain ⟨_, status, -, -, tells⟩ := said
    rw [explained, summary, tells]
    rfl
  · obtain ⟨e, member, own⟩ := List.mem_map.mp among
    exact absurd ⟨own, fun ok => absurd ok not_ok⟩ (absent e member)

theorem groupSummary_ok {g : SourceGroup}
    (summarized : ∀ e ∈ entries, e.severity = .ok → store.SummarizedBy e) :
    (∃ e, IsFirst (fun e => e.severity = .ok ∧ store.HasIssues e) entries e ∧
      store.SummarizedBy e ∧ groupSummary store g .ok entries = e.summary) ∨
    (∀ e ∈ entries, ¬(e.severity = .ok ∧ store.HasIssues e)) ∧
      groupSummary store g .ok entries = g.summary := by
  have explained : groupSummary store g .ok entries =
      (explanation? store .ok entries <|> g.summary) := rfl
  obtain first | absent := explanation?_first summarized
  · obtain ⟨e, first, said, summary⟩ := first
    simp only [true_implies] at first
    refine .inl ⟨e, first, said, ?_⟩
    obtain ⟨_, status, -, -, tells⟩ := said
    rw [explained, summary, tells]
    rfl
  · simp only [true_implies] at absent
    refine .inr ⟨absent.1, ?_⟩
    rw [explained, absent.2]
    rfl

theorem groupSummary_unknown {g : SourceGroup} :
    groupSummary store g .unknown entries =
      some (match entries.countP fun e => store.hasError e.key with
        | 0 => Strings.groupUnknownSummary
        | failed + 1 => Strings.refreshErrorSummary (.ofNat (failed + 1))) := by
  simp only [groupSummary]
  cases entries.countP fun e => store.hasError e.key with
  | zero => rfl
  | succ failed => rw [if_pos (Nat.succ_pos failed)]

end Summary

section Group

variable {resolver : ActionResolver} {store : ReportStore} {users users' : UserGroup}
  {g g' : SourceGroup} {entries : List Entry}

def entryGroupOf (store : ReportStore) (g : SourceGroup) (entries : List Entry) : EntryGroup where
  id := encodeGroupId g.id
  title := g.title.getD ""
  summary := groupSummary store g (groupSeverity entries) entries
  severity := groupSeverity entries
  unspecifiedIcon := groupIcon g
  entries

theorem group_mem_entryItems {group : EntryGroup} :
    .group group ∈ entryItems store g entries ↔
      2 ≤ entries.length ∧ group = entryGroupOf store g entries := by
  match entries with
  | [] => simp [entryItems]
  | [_] => simp [entryItems]
  | _ :: _ :: _ => simp [entryItems, entryGroupOf]

theorem isHighest_groupSeverity (several : 2 ≤ entries.length) :
    (groupSeverity entries).IsHighest (entries.map (·.severity)) := by
  apply EntrySeverity.isHighest_foldl_merge
  intro empty
  rw [List.map_eq_nil_iff] at empty
  simp [empty] at several

theorem summarizedBy_of_mem {e : Entry} (made : e ∈ groupEntries resolver store users g)
    (known : e.severity ≠ .unknown) (rated : e.severity ≠ .unspecified) :
    store.SummarizedBy e := by
  obtain ⟨source, -, m, -, origin⟩ := mem_groupEntries.mp made
  obtain ⟨-, -, report, status, -, -, stored, has, rfl, -⟩ := origin.of_rated known rated
  exact ⟨report, status, stored, has, rfl⟩

theorem explained_entryGroupOf (several : 2 ≤ (groupEntries resolver store users g).length) :
    (entryGroupOf store g (groupEntries resolver store users g)).Explained store g.summary := by
  have highest := isHighest_groupSeverity several
  have summarized : ∀ e ∈ groupEntries resolver store users g, e.severity ≠ .unknown →
      e.severity ≠ .unspecified → store.SummarizedBy e := fun e => summarizedBy_of_mem
  generalize groupEntries resolver store users g = entries at highest summarized
  refine ⟨highest, fun above => ?_, fun ok => ?_, fun unspecified => ?_, fun unknown => ?_⟩
  · have rated : groupSeverity entries ≠ .unknown ∧ groupSeverity entries ≠ .unspecified := by
      change groupSeverity entries = _ ∨ groupSeverity entries = _ at above
      rcases above with own | own <;> simp [own]
    refine groupSummary_attention (fun e member own => summarized e member ?_ ?_) above highest.1
    · exact own ▸ rated.1
    · exact own ▸ rated.2
  · change groupSeverity entries = .ok at ok
    simp only [entryGroupOf, ok]
    exact groupSummary_ok fun e member own => summarized e member (by simp [own]) (by simp [own])
  · change groupSeverity entries = .unspecified at unspecified
    simp only [entryGroupOf, unspecified]
    rfl
  · change groupSeverity entries = .unknown at unknown
    simp only [entryGroupOf, unknown]
    exact groupSummary_unknown

theorem perm_groupEntries (reordered : Reordered g g' users users') :
    (groupEntries resolver store users' g').Perm (groupEntries resolver store users g) := by
  have members (supportsManaged : Bool) :
      (users'.members supportsManaged).Perm (users.members supportsManaged) := by
    rw [UserGroup.members, UserGroup.members, reordered.parent]
    apply List.Perm.cons
    cases supportsManaged with
    | true => exact reordered.managed.map _
    | false => exact .nil
  refine reordered.sources.flatMap fun source _ => ?_
  exact (members source.supportsManaged).filterMap _

end Group

/-- Every entry group has the highest severity of its entries and the summary that goes with it; and
in a view where the sources of the group or the profiles stand in another order, it has the same
severity. -/
theorem entryGroup_explained {registry : Registry} {resolver : ActionResolver}
    {store : ReportStore} {ledger : DismissalLedger} {refresh : RefreshStatus} {users : UserGroup}
    {group : EntryGroup}
    (shown : .group group ∈ (compute registry resolver store ledger refresh users).entries) :
    ∃ g ∈ registry.groups, g.type = .collapsible ∧ group.id = encodeGroupId g.id ∧
      group.Explained store g.summary ∧
      ∀ (registry' : Registry) (ledger' : DismissalLedger) (refresh' : RefreshStatus)
        (users' : UserGroup), ∀ g' ∈ registry'.groups, Reordered g g' users users' →
          ∃ group', .group group' ∈
              (compute registry' resolver store ledger' refresh' users').entries ∧
            group'.id = group.id ∧ group'.severity = group.severity := by
  obtain ⟨g, configured, type, made⟩ := mem_entries.mp shown
  obtain ⟨several, rfl⟩ := group_mem_entryItems.mp made
  refine ⟨g, configured, type, rfl, explained_entryGroupOf several, ?_⟩
  intro registry' ledger' refresh' users' g' configured' reordered
  have perm : (groupEntries resolver store users' g').Perm (groupEntries resolver store users g) :=
    perm_groupEntries reordered
  have several' : 2 ≤ (groupEntries resolver store users' g').length :=
    perm.length_eq ▸ several
  refine ⟨entryGroupOf store g' (groupEntries resolver store users' g'), ?_, ?_, ?_⟩
  · exact mem_entries.mpr ⟨g', configured', reordered.type.trans type,
      group_mem_entryItems.mpr ⟨several', rfl⟩⟩
  · rw [entryGroupOf, entryGroupOf, reordered.id]
  · exact (isHighest_groupSeverity several').unique (isHighest_groupSeverity several) fun s =>
      (perm.map _).mem_iff

theorem entryGroup_explained_swapped :
    let entry (title : String) : DynamicEntry :=
      ⟨some title, none, some "Not read yet", some "open", .enabled⟩
    let source (id : String) : Source :=
      ⟨id, .primary, false, .dynamic ⟨"org.source", .criticalWarning, true, false⟩ (entry id)⟩
    let g (sources : List Source) : SourceGroup :=
      ⟨"device", .collapsible, some "Device", some "Nothing to do", .none, sources⟩
    let status : Status := ⟨"Screen lock", "No screen lock", .recommendation, true, none, none⟩
    let locked := ((∅ : ReportStore).set ⟨"lock", 1⟩ ⟨some status, []⟩).2
    let store := (locked.markError ⟨"wifi", 1⟩).2
    let v (sources : List Source) := compute ⟨[g sources]⟩ .configured store ∅ .none ⟨1, []⟩
    ∃ group : EntryGroup, .group group ∈ (v [source "lock", source "wifi"]).entries ∧
      group.entries.map (·.severity) = [.recommendation, .unknown] ∧
      group.severity = .recommendation ∧ group.summary = some "No screen lock" ∧
      group.Explained store (some "Nothing to do") ∧
      ∃ group', .group group' ∈ (v [source "wifi", source "lock"]).entries ∧
        group'.severity = group.severity := by
  intro entry source g status locked store v
  let sources := [source "lock", source "wifi"]
  let group := entryGroupOf store (g sources)
    (groupEntries .configured store ⟨1, []⟩ (g sources))
  have shown : .group group ∈ (v sources).entries := by decide +kernel
  obtain ⟨own, configured, -, -, explained, again⟩ := entryGroup_explained shown
  rw [List.mem_singleton] at configured
  subst configured
  have reordered : Reordered (g sources) (g sources.reverse) ⟨1, []⟩ ⟨1, []⟩ :=
    ⟨rfl, rfl, sources.reverse_perm, rfl, .refl _⟩
  obtain ⟨group', shown', -, same⟩ :=
    again ⟨[g sources.reverse]⟩ ∅ .none ⟨1, []⟩ _ List.mem_cons_self reordered
  exact ⟨group, shown, by decide +kernel, by decide +kernel, by decide +kernel, explained,
    group', shown', same⟩

end View

end SafetyBoard
