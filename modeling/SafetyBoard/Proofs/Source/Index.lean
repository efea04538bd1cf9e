import SafetyBoard.Hub.Operations
import SafetyBoard.Proofs.Source.Config
import SafetyBoard.Proofs.Source.Registry

/-!
# The index of the sources

A registry answers from an index by id, the views also from the groups themselves. Where an id is
configured more than once the index has it where it first occurs, with the source that occurs last,
and the sources in between are not found. A configuration that is accepted repeats no id: then the
index lists just what the groups list, and the issues, which are collected by the index, are those
of the sources whose entries are collected by the groups.
-/

namespace SafetyBoard

namespace SourceOf

variable {ι : Type} {source : SourceOf ι}

theorem reporting?_eq_none_iff :
    source.reporting? = none ↔ ∃ entry, source.kind = .fixed entry := by
  unfold reporting?
  cases source.kind <;> simp

theorem isExternal_iff : source.isExternal = true ↔ ∀ entry, source.kind ≠ .fixed entry := by
  rw [isExternal, Option.isSome_iff_ne_none, ne_eq, reporting?_eq_none_iff, not_exists]

end SourceOf

namespace RegistryOf

variable {ι : Type} [DecidableEq ι] {r : RegistryOf ι} {source : SourceOf ι}
  {text : ι → Text}

def lastConfigured? (r : RegistryOf ι) (id : ι) : Option (SourceOf ι) :=
  r.allSources.findRev? (·.id = id)

section LookUp

variable {id : ι}

theorem lastConfigured?_eq_none :
    r.lastConfigured? id = none ↔ ∀ s ∈ r.allSources, s.id ≠ id := by
  rw [lastConfigured?, List.findRev?_eq_find?_reverse, List.find?_eq_none]
  simp

theorem source?_eq (r : RegistryOf ι) (id : ι) : r.source? id = r.lastConfigured? id := by
  rw [source?, index, Table.get?_ofList, ← List.map_reverse, Table.find?_map_name,
    lastConfigured?, List.findRev?_eq_find?_reverse]

theorem require_eq_ok : r.require text id = .ok source ↔ r.lastConfigured? id = some source := by
  rw [require, source?_eq]
  cases r.lastConfigured? id <;> simp

theorem require_of_unknown (unknown : r.source? id = none) :
    r.require text id = .error (.unknownSource (text id)) := by
  rw [require, unknown]

theorem keys_index (r : RegistryOf ι) : r.index.keys = (r.allSources.map (·.id)).eraseDups := by
  rw [index, Table.keys_ofList, List.map_map]
  rfl

theorem last_of_mem_sources (listed : source ∈ r.sources) :
    r.lastConfigured? source.id = some source := by
  rw [← source?_eq]
  exact mem_sources.mp listed

theorem isLoggingAllowed_iff : r.isLoggingAllowed id = true ↔ ∃ source reporting,
    r.lastConfigured? id = some source ∧ source.reporting? = some reporting ∧
      reporting.loggingAllowed = true := by
  rw [isLoggingAllowed, source?_eq]
  cases r.lastConfigured? id with
  | none => simp
  | some source => cases own : source.reporting? <;> simp [own]

end LookUp

theorem sources_of_distinct (distinct : (r.allSources.map (·.id)).Nodup) :
    r.sources = r.allSources := by
  have keys : ((r.allSources.map fun s => (s.id, s)).map Prod.fst).Nodup := by
    rwa [List.map_map]
  have entries : r.index.entries = r.allSources.map fun s => (s.id, s) :=
    (Table.entries_foldl (t := ∅) keys).trans (List.nil_append _)
  rw [sources, Table.values, entries, List.map_map]
  exact List.map_id _

theorem externalSources_of_distinct (distinct : (r.allSources.map (·.id)).Nodup) :
    r.externalSources = r.groups.flatMap fun g => g.sources.filter (·.isExternal) := by
  rw [externalSources, sources_of_distinct distinct, allSources, List.filter_flatMap]

theorem source?_of_distinct (distinct : (r.allSources.map (·.id)).Nodup)
    (configured : source ∈ r.allSources) : r.source? source.id = some source := by
  rw [← mem_sources, sources_of_distinct distinct]
  exact configured

theorem reportedIssues_of_distinct {r : Registry} (distinct : (r.allSources.map (·.id)).Nodup)
    (store : ReportStore) (users : UserGroup) :
    View.reportedIssues r store users = r.groups.flatMap fun g =>
      (g.sources.filter (·.isExternal)).flatMap fun source =>
        (users.reportingUsers source.supportsManaged).flatMap (View.sourceIssues store source) := by
  rw [View.reportedIssues, externalSources_of_distinct distinct, List.flatMap_assoc]

/-- How look-ups by id go, whatever groups are given. -/
structure Indexed (r : RegistryOf ι) (text : ι → Text) : Prop where
  distinct : (r.sources.map (·.id)).Nodup
  ids : r.sources.map (·.id) = (r.groups.flatMap fun g => g.sources.map (·.id)).eraseDups
  last : ∀ source ∈ r.sources, r.lastConfigured? source.id = some source
  found : ∀ id, r.source? id = r.lastConfigured? id
  required : ∀ id source, r.require text id = .ok source ↔ r.lastConfigured? id = some source
  unknown : ∀ id, (∀ g ∈ r.groups, ∀ source ∈ g.sources, source.id ≠ id) →
    r.source? id = none ∧ r.require text id = .error (.unknownSource (text id))
  external : r.externalSources.Sublist r.sources ∧ ∀ source, source ∈ r.externalSources ↔
    source ∈ r.sources ∧ ∀ entry, source.kind ≠ .fixed entry
  logged : ∀ id, r.isLoggingAllowed id = true ↔ ∃ source reporting,
    r.lastConfigured? id = some source ∧ source.reporting? = some reporting ∧
      reporting.loggingAllowed = true

theorem indexed (r : RegistryOf ι) (text : ι → Text) : r.Indexed text where
  distinct := r.nodup_ids
  ids := by
    rw [sources, r.index_named.map_values, keys_index, allSources, List.map_flatMap]
  last _ := last_of_mem_sources
  found := r.source?_eq
  required _ _ := require_eq_ok
  unknown id nowhere := by
    have none : r.source? id = none := by
      rw [source?_eq, lastConfigured?_eq_none]
      intro source configured
      obtain ⟨g, group, member⟩ := List.mem_flatMap.mp configured
      exact nowhere g group source member
    exact ⟨none, require_of_unknown none⟩
  external := by
    refine ⟨List.filter_sublist, fun source => ?_⟩
    rw [externalSources, List.mem_filter, SourceOf.isExternal_iff]
  logged _ := isLoggingAllowed_iff

/-- The index lists what the groups list. -/
structure Listed (r : RegistryOf ι) : Prop where
  sources : r.sources = r.groups.flatMap (·.sources)
  found : ∀ g ∈ r.groups, ∀ source ∈ g.sources, r.source? source.id = some source

theorem listed (distinct : (r.allSources.map (·.id)).Nodup) : r.Listed where
  sources := sources_of_distinct distinct
  found g group _ member :=
    source?_of_distinct distinct (List.mem_flatMap.mpr ⟨g, group, member⟩)

/-- The index agrees with the groups. Whatever groups are given, each id stands once, where it first
occurs and with the source that occurs last, and that source is the answer to every look-up of the
id; an id that does not occur has none. If the configuration was accepted, the index lists what the
groups list; and of the hub on such a configuration, the sources whose issues are collected are
those whose entries are. -/
theorem index_agrees_with_groups :
    (∀ r : RegistryOf Text, r.Indexed id ∧ ∀ raw, RegistryOf.parse raw = .ok r → r.Listed) ∧
    ∀ r : Registry, r.Indexed .plain ∧ ∀ raw, RegistryOf.parse raw = .ok (r.map .plain) →
      r.Listed ∧ ∀ store users, View.reportedIssues r store users = r.groups.flatMap fun g =>
        (g.sources.filter (·.isExternal)).flatMap fun source =>
          (users.reportingUsers source.supportsManaged).flatMap
            (View.sourceIssues store source) := by
  refine ⟨fun r => ⟨r.indexed id, fun raw parsed => ?_⟩,
    fun r => ⟨r.indexed .plain, fun raw parsed => ?_⟩⟩
  · exact listed (valid_of_parse parsed).distinctSources
  · have distinct := (accepted_of_parse parsed).distinctSources
    exact ⟨listed distinct, reportedIssues_of_distinct distinct⟩

def usedTwice : Registry where
  groups :=
    [⟨"device", .hidden, none, none, .none,
        [⟨"lock", .primary, false, .issueOnly ⟨"org.lock", .criticalWarning, true, false⟩⟩,
          ⟨"scan", .primary, false, .issueOnly ⟨"org.scan", .criticalWarning, true, false⟩⟩]⟩,
      ⟨"other", .hidden, none, none, .none,
        [⟨"lock", .primary, false, .fixed ⟨"Lock", none, none, "open.lock"⟩⟩]⟩]

/-- The index has the first place and the last source of a repeated id, so nothing is logged of it;
and it is what the groups are for a configuration that is accepted. -/
theorem index_agrees_with_groups_repeated :
    usedTwice.sources.map (·.id) = ["lock", "scan"] ∧
    (∃ source, usedTwice.require .plain "lock" = .ok source ∧
      source.kind = .fixed ⟨"Lock", none, none, "open.lock"⟩) ∧
    usedTwice.isLoggingAllowed "lock" = false ∧
    usedTwice.require .plain "pin" = .error (.unknownSource "pin") ∧
    RegistryOf.parse Config.sparse = .ok (RegistryOf.map .plain ⟨Config.sparseGroups⟩) ∧
    (RegistryOf.mk Config.sparseGroups).sources = Config.sparseGroups.flatMap (·.sources) := by
  obtain ⟨-, names⟩ := index_agrees_with_groups
  obtain ⟨index, -⟩ := names usedTwice
  have parsed : RegistryOf.parse Config.sparse =
      .ok (RegistryOf.map .plain ⟨Config.sparseGroups⟩) := by decide +kernel
  refine ⟨?_, ?_, ?_, ?_, parsed, ((names _).2 _ parsed).1.sources⟩
  · rw [index.ids]
    decide
  · exact ⟨_, (index.required _ _).mpr rfl, rfl⟩
  · rw [Bool.eq_false_iff, ne_eq, index.logged]
    rintro ⟨source, reporting, last, own, -⟩
    cases last
    cases own
  · exact (index.unknown "pin" (by decide)).2

end RegistryOf

theorem HubState.acceptPayload_eq (s : HubState) (registry : Registry) (key : SourceKey)
    (payload : Json) : s.acceptPayload registry key payload =
      match registry.require .plain key.sourceId with
      | .error e => .error e
      | .ok source =>
        if !source.supportsManaged && s.isForeignProfile key.userId then
          .error (.managedUnsupported source.id key.userId)
        else (source.accept payload).mapError fun rejection => rejection.toError source.id := by
  unfold acceptPayload RegistryOf.require
  cases registry.source? key.sourceId with
  | none => rfl
  | some source =>
    dsimp only
    split
    · rfl
    · cases source.accept payload <;> rfl

theorem Hub.applyError_eq {σ : Type} (host : Host σ) (setup : Setup) (key : SourceKey)
    (session : Option String) : applyError host setup key session = (do
      match setup.registry.require .plain key.sourceId with
      | .error e => throw (.hub e)
      | .ok _ =>
        perform host setup ((← HubAct.getState).acceptError key session (← now host))) := by
  unfold applyError RegistryOf.require
  cases setup.registry.source? key.sourceId <;> rfl

end SafetyBoard
