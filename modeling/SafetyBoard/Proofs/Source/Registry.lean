import Mathlib.Data.List.Nodup
import SafetyBoard.Proofs.Table
import SafetyBoard.Source.Registry

/-!
# Which sources a registry holds

Every source that a registry holds is configured in one of its groups, and no two have one id,
whether the groups were checked for that or not.
-/

namespace SafetyBoard.RegistryOf

variable {ι : Type} [DecidableEq ι] {r : RegistryOf ι} {source : SourceOf ι}

theorem configured_of_index {id : ι} (found : r.index.get? id = some source) :
    source ∈ r.allSources ∧ id = source.id := by
  obtain ⟨configured, member, same⟩ := List.mem_map.mp (Table.mem_of_get?_ofList found)
  cases same
  exact ⟨member, rfl⟩

theorem index_named (r : RegistryOf ι) : r.index.NamedBy (·.id) :=
  fun _ _ found => (configured_of_index found).2

theorem configured_of_mem (h : source ∈ r.sources) : source ∈ r.allSources := by
  obtain ⟨id, found⟩ := Table.mem_values_iff.mp h
  exact (configured_of_index found).1

theorem configured_of_external (h : source ∈ r.externalSources) : source ∈ r.allSources :=
  configured_of_mem (List.mem_filter.mp h).1

theorem nodup_ids (r : RegistryOf ι) : (r.sources.map (·.id)).Nodup := by
  have ids : r.sources.map (·.id) = r.index.keys := r.index_named.map_values
  rw [ids]
  exact r.index.nodup_keys

theorem mem_sources : source ∈ r.sources ↔ r.source? source.id = some source := by
  rw [sources, Table.mem_values_iff]
  constructor
  · rintro ⟨id, found⟩
    rw [source?, ← (configured_of_index found).2]
    exact found
  · intro found
    exact ⟨source.id, found⟩

theorem mem_externalSources : source ∈ r.externalSources ↔
    r.source? source.id = some source ∧ source.isExternal = true := by
  rw [externalSources, List.mem_filter, mem_sources]

theorem eq_of_found (distinct : (r.allSources.map (·.id)).Nodup)
    (configured : source ∈ r.allSources) {other : SourceOf ι}
    (found : r.source? source.id = some other) : other = source := by
  obtain ⟨known, same⟩ := configured_of_index found
  exact List.inj_on_of_nodup_map distinct known configured same.symm

theorem nodup_external_ids (r : RegistryOf ι) : (r.externalSources.map (·.id)).Nodup :=
  r.nodup_ids.sublist (List.filter_sublist.map _)

end SafetyBoard.RegistryOf
