import Mathlib.Data.List.Flatten
import SafetyBoard.Proofs.Fresh
import SafetyBoard.Proofs.Json.Schema
import SafetyBoard.Source.Loading
import SafetyBoard.Wire.Sources

/-!
# Which configurations are accepted

A configuration is valid if its parts are well-formed one by one, if everything that is shown has
the texts that it is shown with, and if no id is used twice. Exactly the valid configurations are
read: the shape of the raw value answers for the first, and the rules that are checked on a
configuration of the right shape for the rest. A valid configuration is written without what
follows from it, and is read back from that.
-/

namespace SafetyBoard

def Worded (text : Option Text) : Prop := ∀ t, text = some t → t ≠ ""

structure DynamicEntry.WellFormed (e : DynamicEntry) : Prop where
  title : Worded e.title
  titleForWork : Worded e.titleForWork
  summary : Worded e.summary
  intentAction : Worded e.intentAction

structure FixedEntry.WellFormed (e : FixedEntry) : Prop where
  title : e.title ≠ ""
  titleForWork : Worded e.titleForWork
  summary : Worded e.summary
  intentAction : e.intentAction ≠ ""

def SourceKind.WellFormed : SourceKind → Prop
  | .dynamic reporting entry => reporting.packageName ≠ "" ∧ entry.WellFormed
  | .fixed entry => entry.WellFormed
  | .issueOnly reporting => reporting.packageName ≠ ""

structure SourceOf.WellFormed (s : SourceOf Text) : Prop where
  id : s.id ≠ ""
  supportsManaged : s.supportsManaged = true ↔ s.profile = .all
  kind : s.kind.WellFormed

structure SourceGroupOf.WellFormed (g : SourceGroupOf Text) : Prop where
  id : g.id ≠ ""
  title : Worded g.title
  summary : Worded g.summary
  nonempty : g.sources ≠ []
  sources : ∀ s ∈ g.sources, s.WellFormed

/-- Before it reports, a dynamic source has the texts that its entry is shown with. -/
structure DynamicEntry.Complete (e : DynamicEntry) (profile : Profile) : Prop where
  shown : e.initialDisplay ≠ .hidden → e.title.isSome ∧ e.summary.isSome
  enabled : e.initialDisplay = .enabled → e.intentAction.isSome
  forWork : e.initialDisplay ≠ .hidden → profile = .all → e.titleForWork.isSome

def SourceOf.Complete {ι : Type} (s : SourceOf ι) : Prop :=
  match s.kind with
  | .dynamic _ entry => entry.Complete s.profile
  | .fixed entry => s.profile = .all → entry.titleForWork.isSome
  | .issueOnly _ => True

def SourceGroupOf.Titled {ι : Type} (g : SourceGroupOf ι) : Prop := g.type ≠ .hidden → g.title.isSome

def SourceOf.rawParts (s : SourceOf Text) : List (Text × Option Json) :=
  ("id", some (.string s.id)) :: ("profile", some (.string s.profile.name)) :: s.kind.parts

def SourceOf.toRaw (s : SourceOf Text) : Json := .ofParts s.rawParts

def SourceGroupOf.toRaw (g : SourceGroupOf Text) : Json :=
  .ofParts [("id", some (.string g.id)), ("type", some (.string g.type.name)),
    ("title", g.title.map .string), ("summary", g.summary.map .string),
    ("statelessIconType", some (.string g.statelessIcon.name)),
    ("sources", some (.array (g.sources.map (·.toRaw))))]

namespace Config

structure Valid (groups : List RawGroup) : Prop where
  nonempty : groups ≠ []
  wellFormed : ∀ g ∈ groups, g.WellFormed
  titled : ∀ g ∈ groups, g.Titled
  complete : ∀ g ∈ groups, ∀ s ∈ g.sources, s.Complete
  distinctGroups : (groups.map (·.id)).Nodup
  distinctSources : ((groups.flatMap (·.sources)).map (·.id)).Nodup

def toRaw (groups : List RawGroup) : Json :=
  .ofParts [("groups", some (.array (groups.map (·.toRaw))))]

open Reader Checked

theorem reads_profile :
    (choice Profile.every Profile.name).Reads (fun _ => True) fun p => .string p.name :=
  reads_anyChoice (fun p => by cases p <;> decide) (by decide)

theorem reads_severity :
    (choice SourceSeverity.all SourceSeverity.name).Reads (fun _ => True) fun s => .string s.name :=
  reads_anyChoice (fun s => by cases s <;> decide) (by decide)

theorem reads_initialDisplay :
    (choice InitialDisplay.all InitialDisplay.name).Reads (fun _ => True) fun d => .string d.name :=
  reads_anyChoice (fun d => by cases d <;> decide) (by decide)

theorem reads_groupType :
    (choice GroupType.all GroupType.name).Reads (fun _ => True) fun t => .string t.name :=
  reads_anyChoice (fun t => by cases t <;> decide) (by decide)

theorem reads_statelessIcon :
    (choice StatelessIcon.all StatelessIcon.name).Reads (fun _ => True) fun i => .string i.name :=
  reads_anyChoice (fun i => by cases i <;> decide) (by decide)

theorem wellFormed_of_readDynamic {members : Members} {s : SourceOf Text}
    (read : readDynamic members = .good s) : s.WellFormed := by
  rw [readDynamic, eq_good_iff] at read
  simp only [gives_seq, gives_map] at read
  obtain ⟨id, hasId, packageName, hasPackage, title, hasTitle, titleForWork, hasTitleForWork,
    summary, hasSummary, intentAction, hasAction, profile, -, display, -, maxSeverity, -, logging,
    -, onPageOpen, -, -, -, rfl⟩ := read
  exact {
    id := reads_text.of_required hasId
    supportsManaged := decide_eq_true_iff
    kind := ⟨reads_text.of_required hasPackage, {
      title := reads_text.of_optional hasTitle
      titleForWork := reads_text.of_optional hasTitleForWork
      summary := reads_text.of_optional hasSummary
      intentAction := reads_text.of_optional hasAction }⟩ }

theorem wellFormed_of_readFixed {members : Members} {s : SourceOf Text}
    (read : readFixed members = .good s) : s.WellFormed := by
  rw [readFixed, eq_good_iff] at read
  simp only [gives_seq, gives_map] at read
  obtain ⟨id, hasId, title, hasTitle, titleForWork, hasTitleForWork, summary, hasSummary,
    intentAction, hasAction, profile, -, -, -, rfl⟩ := read
  exact {
    id := reads_text.of_required hasId
    supportsManaged := decide_eq_true_iff
    kind := {
      title := reads_text.of_required hasTitle
      titleForWork := reads_text.of_optional hasTitleForWork
      summary := reads_text.of_optional hasSummary
      intentAction := reads_text.of_required hasAction } }

theorem wellFormed_of_readIssueOnly {members : Members} {s : SourceOf Text}
    (read : readIssueOnly members = .good s) : s.WellFormed := by
  rw [readIssueOnly, eq_good_iff] at read
  simp only [gives_seq, gives_map] at read
  obtain ⟨id, hasId, packageName, hasPackage, profile, -, maxSeverity, -, logging, -, onPageOpen, -,
    -, -, rfl⟩ := read
  exact {
    id := reads_text.of_required hasId
    supportsManaged := decide_eq_true_iff
    kind := reads_text.of_required hasPackage }

theorem nodup_rawParts (s : SourceOf Text) : (s.rawParts.map Prod.fst).Nodup := by
  obtain ⟨_, _, _, kind⟩ := s
  cases kind <;> simp [SourceOf.rawParts, SourceKind.parts, Reporting.parts]

variable {s : SourceOf Text} {reporting : Reporting}

theorem supportsManaged_of_wellFormed (wellFormed : s.WellFormed) :
    s.supportsManaged = supportsManaged s.profile :=
  Bool.eq_iff_iff.mpr (wellFormed.supportsManaged.trans decide_eq_true_iff.symm)

theorem readDynamic_rawParts {entry : DynamicEntry} (dynamic : s.kind = .dynamic reporting entry)
    (wellFormed : s.WellFormed) : readDynamic (written s.rawParts) = .good s := by
  have distinct := nodup_rawParts s
  have managed := supportsManaged_of_wellFormed wellFormed
  obtain ⟨id, profile, _, _⟩ := s
  cases dynamic
  dsimp only at managed
  subst managed
  obtain ⟨packaged, worded⟩ := wellFormed.kind
  rw [readDynamic, eq_good_iff]
  simp only [gives_seq, gives_map]
  refine ⟨id, reads_text.required_written wellFormed.id distinct ?_,
    reporting.packageName, reads_text.required_written packaged distinct ?_,
    entry.title, reads_text.optional_written worded.title distinct ?_,
    entry.titleForWork, reads_text.optional_written worded.titleForWork distinct ?_,
    entry.summary, reads_text.optional_written worded.summary distinct ?_,
    entry.intentAction, reads_text.optional_written worded.intentAction distinct ?_,
    profile, reads_profile.defaulted_written trivial distinct ?_,
    entry.initialDisplay, reads_initialDisplay.defaulted_written trivial distinct ?_,
    reporting.maxSeverity, reads_severity.defaulted_written trivial distinct ?_,
    reporting.loggingAllowed, reads_flag.defaulted_written trivial distinct ?_,
    reporting.refreshOnPageOpenAllowed, reads_flag.defaulted_written trivial distinct ?_,
    (), onlyMembers_written ?_, rfl⟩
  all_goals simp [SourceOf.rawParts, SourceKind.parts, Reporting.parts, dynamicMembers]

theorem readFixed_rawParts {entry : FixedEntry} (fixed : s.kind = .fixed entry)
    (wellFormed : s.WellFormed) : readFixed (written s.rawParts) = .good s := by
  have distinct := nodup_rawParts s
  have managed := supportsManaged_of_wellFormed wellFormed
  obtain ⟨id, profile, _, _⟩ := s
  cases fixed
  dsimp only at managed
  subst managed
  have worded : entry.WellFormed := wellFormed.kind
  rw [readFixed, eq_good_iff]
  simp only [gives_seq, gives_map]
  refine ⟨id, reads_text.required_written wellFormed.id distinct ?_,
    entry.title, reads_text.required_written worded.title distinct ?_,
    entry.titleForWork, reads_text.optional_written worded.titleForWork distinct ?_,
    entry.summary, reads_text.optional_written worded.summary distinct ?_,
    entry.intentAction, reads_text.required_written worded.intentAction distinct ?_,
    profile, reads_profile.defaulted_written trivial distinct ?_,
    (), onlyMembers_written ?_, rfl⟩
  all_goals simp [SourceOf.rawParts, SourceKind.parts, fixedMembers]

theorem readIssueOnly_rawParts (issueOnly : s.kind = .issueOnly reporting)
    (wellFormed : s.WellFormed) : readIssueOnly (written s.rawParts) = .good s := by
  have distinct := nodup_rawParts s
  have managed := supportsManaged_of_wellFormed wellFormed
  obtain ⟨id, profile, _, _⟩ := s
  cases issueOnly
  dsimp only at managed
  subst managed
  have packaged : reporting.packageName ≠ "" := wellFormed.kind
  rw [readIssueOnly, eq_good_iff]
  simp only [gives_seq, gives_map]
  refine ⟨id, reads_text.required_written wellFormed.id distinct ?_,
    reporting.packageName, reads_text.required_written packaged distinct ?_,
    profile, reads_profile.defaulted_written trivial distinct ?_,
    reporting.maxSeverity, reads_severity.defaulted_written trivial distinct ?_,
    reporting.loggingAllowed, reads_flag.defaulted_written trivial distinct ?_,
    reporting.refreshOnPageOpenAllowed, reads_flag.defaulted_written trivial distinct ?_,
    (), onlyMembers_written ?_, rfl⟩
  all_goals simp [SourceOf.rawParts, SourceKind.parts, Reporting.parts, issueOnlyMembers]

theorem member?_type (s : SourceOf Text) : Json.member? (written s.rawParts) "type" = some (.string
    (match s.kind with
      | .dynamic _ _ => "dynamic"
      | .fixed _ => "static"
      | .issueOnly _ => "issue_only")) := by
  refine member?_written (nodup_rawParts s) ?_
  obtain ⟨_, _, _, kind⟩ := s
  cases kind <;> simp [SourceOf.rawParts, SourceKind.parts]

theorem reads_source : readSource.Reads (·.WellFormed) (·.toRaw) := by
  refine reads_object (fun members s given => ?_) fun s wellFormed => ?_
  · rw [← eq_good_iff] at given
    split at given
    · exact wellFormed_of_readDynamic given
    · exact wellFormed_of_readFixed given
    · exact wellFormed_of_readIssueOnly given
    · cases given
  · rw [member?_type, ← eq_good_iff]
    cases kind : s.kind with
    | dynamic reporting entry => exact readDynamic_rawParts kind wellFormed
    | fixed entry => exact readFixed_rawParts kind wellFormed
    | issueOnly reporting => exact readIssueOnly_rawParts kind wellFormed

theorem reads_group : readGroup.Reads (·.WellFormed) (·.toRaw) := by
  refine reads_object (fun members g given => ?_) fun g wellFormed => ?_
  · simp only [gives_seq, gives_map] at given
    obtain ⟨id, hasId, type, -, title, hasTitle, summary, hasSummary, icon, -, sources, hasSources,
      -, -, rfl⟩ := given
    have each := reads_source.nonemptyList.of_required hasSources
    exact {
      id := reads_text.of_required hasId
      title := reads_text.of_optional hasTitle
      summary := reads_text.of_optional hasSummary
      nonempty := each.1
      sources := each.2 }
  · obtain ⟨id, type, title, summary, icon, sources⟩ := g
    simp only [gives_seq, gives_map]
    refine ⟨id, reads_text.required_written wellFormed.id ?_ ?_,
      type, reads_groupType.required_written trivial ?_ ?_,
      title, reads_text.optional_written wellFormed.title ?_ ?_,
      summary, reads_text.optional_written wellFormed.summary ?_ ?_,
      icon, reads_statelessIcon.defaulted_written trivial ?_ ?_,
      sources, reads_source.nonemptyList.required_written
        ⟨wellFormed.nonempty, wellFormed.sources⟩ ?_ ?_,
      (), onlyMembers_written ?_, rfl⟩
    all_goals simp [groupMembers]

theorem reads_groups :
    readGroups.Reads (fun groups => groups ≠ [] ∧ ∀ g ∈ groups, g.WellFormed) toRaw := by
  refine reads_object (fun members groups given => ?_) fun groups wellFormed => ?_
  · exact reads_group.nonemptyList.of_required (eq_good_iff.mpr given)
  · exact eq_good_iff.mp
      (reads_group.nonemptyList.required_written wellFormed (by simp) List.mem_cons_self)

theorem breachIf_eq_nil {p : Prop} [Decidable p] {breach : Breach} :
    (if p then [breach] else []) = [] ↔ ¬p := by
  split
  · next broken => exact iff_of_false (List.cons_ne_nil _ _) (not_not.mpr broken)
  · next kept => exact iff_of_true rfl kept

theorem not_isNone_iff {text : Option Text} : ¬text.isNone ↔ text.isSome := by
  cases text <;> simp

theorem entryBreaches_eq_nil {group : Text} : entryBreaches group s = [] ↔ s.Complete := by
  rw [entryBreaches, SourceOf.Complete]
  cases s.kind with
  | dynamic reporting entry =>
    dsimp only
    rw [List.append_eq_nil_iff, List.append_eq_nil_iff, breachIf_eq_nil, breachIf_eq_nil,
      breachIf_eq_nil]
    simp only [not_and, not_or, not_isNone_iff]
    exact ⟨fun ⟨⟨shown, enabled⟩, forWork⟩ => ⟨shown, enabled, forWork⟩,
      fun complete => ⟨⟨complete.shown, complete.enabled⟩, complete.forWork⟩⟩
  | fixed entry =>
    dsimp only
    rw [breachIf_eq_nil, not_and, not_isNone_iff]
  | issueOnly reporting => exact iff_of_true rfl trivial

theorem sourceBreaches_eq_nil {group : Text} {seen : List Text} {sources : List RawSource} :
    sourceBreaches group seen sources = [] ↔
      Fresh seen (sources.map (·.id)) ∧ ∀ s ∈ sources, s.Complete := by
  induction sources generalizing seen with
  | nil => simp [sourceBreaches, Fresh]
  | cons s rest ih =>
    rw [sourceBreaches, List.append_eq_nil_iff, List.append_eq_nil_iff, entryBreaches_eq_nil, ih,
      List.map_cons, fresh_cons, List.forall_mem_cons]
    rw [breachIf_eq_nil, List.contains_iff_mem]
    tauto

theorem groupBreaches_eq_nil {seenGroups seenSources : List Text} {groups : List RawGroup} :
    groupBreaches seenGroups seenSources groups = [] ↔
      Fresh seenGroups (groups.map (·.id)) ∧
      Fresh seenSources ((groups.flatMap (·.sources)).map (·.id)) ∧
      (∀ g ∈ groups, g.Titled) ∧ ∀ g ∈ groups, ∀ s ∈ g.sources, s.Complete := by
  induction groups generalizing seenGroups seenSources with
  | nil => simp [groupBreaches, Fresh]
  | cons g rest ih =>
    rw [groupBreaches, List.append_eq_nil_iff, List.append_eq_nil_iff, List.append_eq_nil_iff, ih,
      sourceBreaches_eq_nil, breachIf_eq_nil, breachIf_eq_nil, List.contains_iff_mem, not_and,
      not_isNone_iff, List.map_cons, fresh_cons, List.flatMap_cons, List.map_append,
      fresh_append, List.forall_mem_cons, List.forall_mem_cons, SourceGroupOf.Titled]
    tauto

theorem valid_iff {groups : List RawGroup} :
    Valid groups ↔ (groups ≠ [] ∧ ∀ g ∈ groups, g.WellFormed) ∧ breaches groups = [] := by
  rw [breaches, groupBreaches_eq_nil, fresh_nil, fresh_nil]
  constructor
  · intro valid
    exact ⟨⟨valid.nonempty, valid.wellFormed⟩, valid.distinctGroups, valid.distinctSources,
      valid.titled, valid.complete⟩
  · rintro ⟨⟨nonempty, wellFormed⟩, distinctGroups, distinctSources, titled, complete⟩
    exact { nonempty, wellFormed, titled, complete, distinctGroups, distinctSources }

variable {raw : Json} {groups : List RawGroup}

theorem parse_eq_ok : parse raw = .ok groups ↔ readGroups raw = .good groups ∧ Valid groups := by
  rw [parse, valid_iff]
  cases read : readGroups raw with
  | bad first more => exact ⟨nofun, fun h => by cases h.1⟩
  | good found =>
    have shaped := reads_groups.sound read
    dsimp only
    constructor
    · intro parsed
      split at parsed
      · next none =>
        cases parsed
        exact ⟨rfl, shaped, none⟩
      · cases parsed
    · rintro ⟨same, -, none⟩
      cases same
      rw [none]

theorem parse_toRaw (valid : Valid groups) : parse (toRaw groups) = .ok groups :=
  parse_eq_ok.mpr ⟨reads_groups.back ⟨valid.nonempty, valid.wellFormed⟩, valid⟩

theorem message_invalidConfiguration {issues : List Text} (some : issues ≠ []) :
    (HubError.invalidConfiguration issues).message =
      "Invalid safety source configuration" ++ ": " ++ Text.join "; " issues :=
  if_neg some

theorem parse_eq_error {issues : List Text} (failed : parse raw = .error issues) : issues ≠ [] ∧
    (issues = (readGroups raw).findings.map Finding.text ∨
      ∃ groups, readGroups raw = .good groups ∧ issues = (breaches groups).map Breach.text) := by
  rw [parse] at failed
  cases read : readGroups raw with
  | bad first more =>
    rw [read] at failed
    cases failed
    exact ⟨List.cons_ne_nil _ _, .inl rfl⟩
  | good groups =>
    rw [read] at failed
    dsimp only at failed
    cases broken : breaches groups with
    | nil =>
      rw [broken] at failed
      cases failed
    | cons first more =>
      rw [broken] at failed
      cases failed
      exact ⟨List.cons_ne_nil _ _, .inr ⟨groups, rfl, by rw [broken]⟩⟩

/-- Exactly the valid configurations are accepted. What is read is the valid configuration that the
raw value has the shape of; a valid configuration is read back from what is written for it, so
reading what was read changes nothing, defaults included; and whatever else is given fails with at
least one issue, which are all complaints about the shape or else all rules that are broken. -/
theorem parse_exact :
    (∀ raw groups, parse raw = .ok groups → readGroups raw = .good groups ∧ Valid groups) ∧
    (∀ groups, Valid groups → parse (toRaw groups) = .ok groups) ∧
    (∀ raw groups, parse raw = .ok groups → parse (toRaw groups) = .ok groups) ∧
    ∀ raw, (∀ groups, readGroups raw = .good groups → ¬Valid groups) →
      ∃ issues, parse raw = .error issues ∧ issues ≠ [] ∧
        (issues = (readGroups raw).findings.map Finding.text ∨
          ∃ groups, readGroups raw = .good groups ∧ issues = (breaches groups).map Breach.text) ∧
        (HubError.invalidConfiguration issues).category = .invalidConfig ∧
        (HubError.invalidConfiguration issues).message =
          "Invalid safety source configuration" ++ ": " ++ Text.join "; " issues := by
  refine ⟨fun raw groups => parse_eq_ok.mp, fun groups => parse_toRaw,
    fun raw groups parsed => parse_toRaw (parse_eq_ok.mp parsed).2, fun raw invalid => ?_⟩
  cases parsed : parse raw with
  | ok groups =>
    obtain ⟨read, valid⟩ := parse_eq_ok.mp parsed
    exact absurd valid (invalid groups read)
  | error issues =>
    obtain ⟨some, all⟩ := parse_eq_error parsed
    exact ⟨issues, rfl, some, all, rfl, message_invalidConfiguration some⟩

def sparse : Json :=
  .object [("groups", .array [
    .object [("id", .string "device"), ("type", .string "collapsible"), ("title", .string "Device"),
      ("sources", .array [
        .object [("type", .string "dynamic"), ("id", .string "lock"),
          ("packageName", .string "org.lock"), ("title", .string "Screen lock"),
          ("summary", .string "How the screen is locked"), ("intentAction", .string "open.lock")],
        .object [("type", .string "static"), ("id", .string "updates"),
          ("title", .string "Updates"), ("titleForWork", .string "Work updates"),
          ("intentAction", .string "open.updates"), ("profile", .string "all")]])],
    .object [("id", .string "silent"), ("type", .string "hidden"),
      ("sources", .array [
        .object [("type", .string "issue_only"), ("id", .string "scan"),
          ("packageName", .string "org.scan")]])]])]

def sparseGroups : List SourceGroup :=
  [⟨"device", .collapsible, some "Device", none, .none,
      [⟨"lock", .primary, false, .dynamic ⟨"org.lock", .criticalWarning, true, false⟩
          ⟨some "Screen lock", none, some "How the screen is locked", some "open.lock", .enabled⟩⟩,
        ⟨"updates", .all, true, .fixed ⟨"Updates", some "Work updates", none, "open.updates"⟩⟩]⟩,
    ⟨"silent", .hidden, none, none, .none,
      [⟨"scan", .primary, false, .issueOnly ⟨"org.scan", .criticalWarning, true, false⟩⟩]⟩]

theorem parse_exact_sparse :
    let groups : List RawGroup := sparseGroups.map (·.map .plain)
    parse sparse = .ok groups ∧ Valid groups ∧ parse (toRaw groups) = .ok groups ∧
      ∃ issues, parse (toRaw []) = .error issues ∧ issues ≠ [] := by
  intro groups
  have parsed : parse sparse = .ok groups := by decide +kernel
  obtain ⟨accepts, back, again, fails⟩ := parse_exact
  have invalid groups (read : readGroups (toRaw []) = .good groups) : ¬Valid groups := by
    cases read
  obtain ⟨issues, failed, some, -⟩ := fails (toRaw []) invalid
  exact ⟨parsed, (accepts sparse _ parsed).2, again sparse _ parsed, issues, failed, some⟩

end Config

namespace RegistryOf

theorem valid_of_parse {raw : Json} {registry : RegistryOf Text}
    (parsed : parse raw = .ok registry) : Config.Valid registry.groups := by
  rw [parse] at parsed
  cases read : Config.parse raw with
  | error issues =>
    rw [read] at parsed
    cases parsed
  | ok groups =>
    rw [read] at parsed
    cases parsed
    exact (Config.parse_eq_ok.mp read).2

/-- What an accepted configuration vouches for where its ids are spelled out. -/
structure Accepted {ι : Type} (r : RegistryOf ι) : Prop where
  worded : ∀ g ∈ r.groups, Worded g.title
  titled : ∀ g ∈ r.groups, g.Titled
  kind : ∀ g ∈ r.groups, ∀ s ∈ g.sources, s.kind.WellFormed
  complete : ∀ g ∈ r.groups, ∀ s ∈ g.sources, s.Complete
  distinctGroups : (r.groups.map (·.id)).Nodup
  distinctSources : (r.allSources.map (·.id)).Nodup

theorem accepted_of_parse {raw : Json} {ι : Type} {r : RegistryOf ι} {text : ι → Text}
    (parsed : parse raw = .ok (r.map text)) : r.Accepted := by
  have valid := valid_of_parse parsed
  have group {g : SourceGroupOf ι} (configured : g ∈ r.groups) : g.map text ∈ (r.map text).groups :=
    List.mem_map_of_mem configured
  have source {g : SourceGroupOf ι} {s : SourceOf ι} (stands : s ∈ g.sources) :
      s.map text ∈ (g.map text).sources := List.mem_map_of_mem stands
  have groupIds : (r.map text).groups.map (·.id) = (r.groups.map (·.id)).map text := by
    simp [map, SourceGroupOf.map]
  have sourceIds : ((r.map text).groups.flatMap (·.sources)).map (·.id) =
      (r.allSources.map (·.id)).map text := by
    simp [map, allSources, SourceGroupOf.map, SourceOf.map, List.map_flatMap, List.flatMap_map,
      Function.comp_def]
  exact {
    worded := fun g configured => (valid.wellFormed _ (group configured)).title
    titled := fun g configured => valid.titled _ (group configured)
    kind := fun g configured s stands =>
      ((valid.wellFormed _ (group configured)).sources _ (source stands)).kind
    complete := fun g configured s stands => valid.complete _ (group configured) _ (source stands)
    distinctGroups := (groupIds ▸ valid.distinctGroups).of_map
    distinctSources := (sourceIds ▸ valid.distinctSources).of_map }

end RegistryOf

end SafetyBoard
