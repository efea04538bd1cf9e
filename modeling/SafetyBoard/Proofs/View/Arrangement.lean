import Mathlib.Data.List.Forall2
import Mathlib.Data.List.Perm.Basic
import SafetyBoard.Proofs.Keys
import SafetyBoard.Proofs.Source.Config
import SafetyBoard.Proofs.Users
import SafetyBoard.Proofs.View.Entries
import SafetyBoard.Proofs.View.Overall

/-!
# Which entries a view lists, and how

A view lists the sources of the collapsible groups, each once for every user that it is shown for, in
the order of the configuration and of the users. A group with several entries is one entry group, a
group with one is that entry alone, and one without any is left out. The ids by which all these are
told apart do not collide: an entry has a separator in its id that the id of a group cannot have.
-/

namespace SafetyBoard

theorem forall₂_filterMap {α β : Type} {R : α → β → Prop} {has : α → Bool} {found : α → Option β}
    {as : List α} (some_of : ∀ a ∈ as, has a = true → ∃ b, found a = some b ∧ R a b)
    (none_of : ∀ a ∈ as, has a = false → found a = none) :
    List.Forall₂ R (as.filter has) (as.filterMap found) := by
  induction as with
  | nil => exact .nil
  | cons a as ih =>
    have rest := ih (fun a' h => some_of a' (List.mem_cons_of_mem a h))
      (fun a' h => none_of a' (List.mem_cons_of_mem a h))
    cases own : has a with
    | true =>
      obtain ⟨b, made, related⟩ := some_of a List.mem_cons_self own
      rw [List.filter_cons_of_pos own, List.filterMap_cons_some made]
      exact .cons related rest
    | false =>
      rw [List.filter_cons_of_neg (by simp [own]),
        List.filterMap_cons_none (none_of a List.mem_cons_self own)]
      exact rest

theorem forall₂_flatMap {α β γ : Type} {R : β → γ → Prop} {f : α → List β} {g : α → List γ}
    (each : ∀ a, List.Forall₂ R (f a) (g a)) (as : List α) :
    List.Forall₂ R (as.flatMap f) (as.flatMap g) := by
  have same : List.Forall₂ (· = ·) as as := List.forall₂_same.mpr fun _ _ => rfl
  refine List.rel_flatMap same fun a a' equal => ?_
  rw [← equal]
  exact each a

def EntryItem.ids : EntryItem → List String
  | .single e => [e.id]
  | .group g => g.id :: g.entries.map (·.id)

namespace View

/-- Whether a source has an entry for a member: never if it only reports issues, always if it never
reports, and else unless its entry is hidden until a status is reported and none counts. -/
def hasEntry (store : ReportStore) (source : Source) (m : Member) : Bool :=
  match source.kind with
  | .fixed _ => true
  | .issueOnly _ => false
  | .dynamic _ entry =>
    !(entry.initialDisplay = .hidden &&
      (m.isPaused || ((store.get? ⟨source.id, m.userId⟩).bind (·.status)).isNone))

def sourcePlaces (store : ReportStore) (users : UserGroup) (source : Source) :
    List (Source × Member) :=
  let parent : Member := ⟨users.parent, false, true⟩
  let profiles := if source.supportsManaged then users.managed else []
  ((parent :: profiles.map fun p => ⟨p.userId, true, p.running⟩).filter
    (hasEntry store source)).map (source, ·)

def places (store : ReportStore) (users : UserGroup) (g : SourceGroup) : List (Source × Member) :=
  g.sources.flatMap (sourcePlaces store users)

def placeKey (place : Source × Member) : SourceKey := ⟨place.1.id, place.2.userId⟩

structure StandsFor (resolver : ActionResolver) (store : ReportStore) (place : Source × Member)
    (e : Entry) : Prop where
  made : entryOf resolver store place.1 place.2 = some e
  key : e.key = placeKey place
  id : e.id = (placeKey place).encode

/-- How a group is listed: not at all, as its only entry, or as one entry group that holds all its
entries. -/
inductive Arranges (resolver : ActionResolver) (store : ReportStore) (users : UserGroup)
    (g : SourceGroup) : List EntryItem → Prop where
  | nothing : places store users g = [] → Arranges resolver store users g []
  | bare {place e} : places store users g = [place] → StandsFor resolver store place e →
      Arranges resolver store users g [.single e]
  | grouped {group} : 2 ≤ (places store users g).length →
      List.Forall₂ (StandsFor resolver store) (places store users g) group.entries →
      group.id = encodeGroupId g.id → Arranges resolver store users g [.group group]

section Places

variable {resolver : ActionResolver} {store : ReportStore} {users : UserGroup} {source : Source}
  {m : Member} {g : SourceGroup}

theorem sourcePlaces_eq : sourcePlaces store users source =
    ((users.members source.supportsManaged).filter (hasEntry store source)).map (source, ·) := by
  rw [sourcePlaces, UserGroup.members]
  cases source.supportsManaged <;> rfl

/-- A source that reports is shown before it does unless it is hidden until then. -/
theorem hasEntry_of_dynamic {reporting : Reporting} {entry : DynamicEntry}
    (kind : source.kind = .dynamic reporting entry) :
    hasEntry store source m = true ↔
      source.isInitiallyHidden = false ∨ ∃ status, liveStatus? store source m = some status := by
  rw [← Option.ne_none_iff_exists', ne_eq, liveStatus?_eq_none, hasEntry,
    SourceOf.isInitiallyHidden, SourceOf.hasDisplay, kind, memberKey]
  generalize (store.get? ⟨source.id, m.userId⟩).bind (·.status) = reported
  cases reported <;> simp

theorem hasEntry_iff :
    hasEntry store source m = true ↔ ∃ e, entryOf resolver store source m = some e := by
  constructor
  · intro has
    cases kind : source.kind with
    | fixed entry => exact ⟨_, entryOf_eq_some_iff.mpr (.fixed kind)⟩
    | issueOnly reporting => simp [hasEntry, kind] at has
    | dynamic reporting entry =>
      cases live : liveStatus? store source m with
      | some status =>
        obtain ⟨awake, report, stored, reported⟩ := liveStatus?_eq_some.mp live
        exact ⟨_, entryOf_eq_some_iff.mpr (.reported kind awake stored reported)⟩
      | none =>
        obtain shown | ⟨status, live'⟩ := (hasEntry_of_dynamic kind).mp has
        · exact ⟨_, entryOf_eq_some_iff.mpr (.awaited kind shown live)⟩
        · rw [live] at live'
          cases live'
  · rintro ⟨e, made⟩
    cases entryOf_eq_some_iff.mp made with
    | fixed kind => rw [hasEntry, kind]
    | reported kind awake stored reported =>
      exact (hasEntry_of_dynamic kind).mpr
        (.inr ⟨_, liveStatus?_eq_some.mpr ⟨awake, _, stored, reported⟩⟩)
    | awaited kind shown live => exact (hasEntry_of_dynamic kind).mpr (.inl shown)

theorem standsFor_of_made {e : Entry} (made : entryOf resolver store source m = some e) :
    StandsFor resolver store (source, m) e := by
  obtain ⟨key, id⟩ := (entryOf_eq_some_iff.mp made).key
  exact ⟨made, key, id⟩

theorem forall₂_groupEntries (resolver : ActionResolver) (store : ReportStore) (users : UserGroup)
    (g : SourceGroup) :
    List.Forall₂ (StandsFor resolver store) (places store users g)
      (groupEntries resolver store users g) := by
  refine forall₂_flatMap (fun source => ?_) g.sources
  rw [sourcePlaces_eq, List.forall₂_map_left_iff]
  apply forall₂_filterMap
  · intro m _ has
    obtain ⟨e, made⟩ := hasEntry_iff.mp has
    exact ⟨e, made, standsFor_of_made made⟩
  · intro m _ has
    cases made : entryOf resolver store source m with
    | none => rfl
    | some e =>
      rw [hasEntry_iff.mpr ⟨e, made⟩] at has
      cases has

theorem arranges_entryItems (resolver : ActionResolver) (store : ReportStore) (users : UserGroup)
    (g : SourceGroup) :
    Arranges resolver store users g (entryItems store g (groupEntries resolver store users g)) := by
  have each := forall₂_groupEntries resolver store users g
  generalize groupEntries resolver store users g = entries at each
  match entries with
  | [] => exact .nothing (List.forall₂_nil_right_iff.mp each)
  | [e] =>
    obtain ⟨place, rest, stands, ended, all⟩ := List.forall₂_cons_right_iff.mp each
    rw [List.forall₂_nil_right_iff.mp ended] at all
    exact .bare all stands
  | e :: e' :: rest =>
    refine .grouped ?_ each rfl
    rw [each.length_eq]
    simp

end Places

section Ids

variable {resolver : ActionResolver} {store : ReportStore} {users : UserGroup}

theorem nodup_placeKeys (distinct : users.users.Nodup) {sources : List Source}
    (ids : (sources.map (·.id)).Nodup) :
    ((sources.flatMap (sourcePlaces store users)).map placeKey).Nodup := by
  have own {source : Source} {key : SourceKey}
      (h : key ∈ (sourcePlaces store users source).map placeKey) : key.sourceId = source.id := by
    rw [sourcePlaces_eq, List.map_map] at h
    obtain ⟨m, -, rfl⟩ := List.mem_map.mp h
    rfl
  rw [List.map_flatMap, List.nodup_flatMap]
  constructor
  · intro source _
    have members : (((users.members source.supportsManaged).filter
        (hasEntry store source)).map (·.userId)).Nodup :=
      distinct.sublist ((List.filter_sublist.map _).trans (UserGroup.members_sublist _))
    rw [sourcePlaces_eq, List.map_map]
    refine (List.pairwise_map.mp members).map _ fun m m' different same => ?_
    exact different (congrArg SourceKey.userId same)
  · refine (List.pairwise_map.mp ids).imp fun different key one other => ?_
    exact different ((own one).symm.trans (own other))

theorem ids_sublist (store : ReportStore) (g : SourceGroup) (entries : List Entry) :
    ((entryItems store g entries).flatMap EntryItem.ids).Sublist
      (encodeGroupId g.id :: entries.map (·.id)) := by
  match entries with
  | [] => exact List.nil_sublist _
  | [e] => exact List.sublist_cons_self _ _
  | e :: e' :: rest => simp [entryItems, EntryItem.ids]

/-- Where no two groups and no two sources have one id, neither do two of the things listed. -/
theorem nodup_ids_of_groups (resolver : ActionResolver) (store : ReportStore)
    (distinct : users.users.Nodup) {groups : List SourceGroup}
    (groupIds : (groups.map (·.id)).Nodup)
    (sourceIds : ((groups.flatMap (·.sources)).map (·.id)).Nodup) :
    ((groups.flatMap fun g => entryItems store g (groupEntries resolver store users g)).flatMap
      EntryItem.ids).Nodup := by
  let entryIds (g : SourceGroup) : List String :=
    (groupEntries resolver store users g).map (·.id)
  have all : (groups.flatMap fun g => encodeGroupId g.id :: entryIds g).Nodup := by
    rw [← (List.map_append_flatMap_perm _ _ _).nodup_iff, List.nodup_append]
    have entries (g : SourceGroup) :
        entryIds g = ((places store users g).map placeKey).map SourceKey.encode := by
      have each := forall₂_groupEntries resolver store users g
      rw [List.map_map, ← List.forall₂_eq_eq_eq, List.forall₂_map_left_iff,
        List.forall₂_map_right_iff]
      exact each.flip.imp fun e place stands => stands.id
    have keys : groups.flatMap entryIds = ((((groups.flatMap (·.sources)).flatMap
        (sourcePlaces store users)).map placeKey).map SourceKey.encode) := by
      rw [List.flatMap_assoc, List.map_flatMap, List.map_flatMap]
      exact List.flatMap_congr fun g _ => entries g
    refine ⟨?_, ?_, ?_⟩
    · refine (List.pairwise_map.mp groupIds).map _ fun g g' different same => ?_
      exact different (encodeGroupId_injective same)
    · rw [keys]
      exact (nodup_placeKeys distinct sourceIds).map fun _ _ => SourceKey.encode_injective
    · rintro _ ofGroup _ ofEntry rfl
      obtain ⟨g, -, same⟩ := List.mem_map.mp ofGroup
      rw [keys] at ofEntry
      obtain ⟨key, -, encoded⟩ := List.mem_map.mp ofEntry
      exact encodeGroupId_ne g.id key (same.trans encoded.symm)
  refine all.sublist ?_
  rw [List.flatMap_assoc]
  exact List.Sublist.flatMap_right _ fun g _ => ids_sublist store g _

end Ids

theorem entries_eq (registry : Registry) (resolver : ActionResolver) (store : ReportStore)
    (ledger : DismissalLedger) (refresh : RefreshStatus) (users : UserGroup) :
    (compute registry resolver store ledger refresh users).entries =
      (registry.groups.filter (·.type = .collapsible)).flatMap fun g =>
        entryItems store g (groupEntries resolver store users g) := by
  simp only [compute, List.flatMap_map]
  induction registry.groups with
  | nil => rfl
  | cons g groups ih =>
    rw [List.flatMap_cons, ih]
    cases type : g.type with
    | collapsible =>
      rw [groupPart_collapsible type, List.filter_cons_of_pos (by simp [type])]
      rfl
    | rigid =>
      rw [groupPart_rigid type, List.filter_cons_of_neg (by simp [type])]
      rfl
    | hidden =>
      rw [groupPart_hidden type, List.filter_cons_of_neg (by simp [type])]
      rfl

/-- Entries are complete, ordered and told apart by their ids. Group after group of the collapsible
ones, source after source, and the parent before the managed profiles, there is one entry wherever
there is to be one, and no other. Each group adds nothing, its only entry, or one entry group with
all its entries. If the configuration was accepted and the users are distinct, no id occurs twice. -/
theorem entries_complete (registry : Registry) (resolver : ActionResolver) (store : ReportStore)
    (ledger : DismissalLedger) (refresh : RefreshStatus) (users : UserGroup) :
    let v := compute registry resolver store ledger refresh users
    let shown := registry.groups.filter (·.type = .collapsible)
    List.Forall₂ (StandsFor resolver store) (shown.flatMap (places store users))
        (v.entries.flatMap EntryItem.entries) ∧
      (∃ blocks, v.entries = blocks.flatten ∧
        List.Forall₂ (Arranges resolver store users) shown blocks) ∧
      ∀ raw, RegistryOf.parse raw = .ok (registry.map .plain) → users.users.Nodup →
        (v.entries.flatMap EntryItem.ids).Nodup := by
  intro v shown
  have entries : v.entries = shown.flatMap fun g =>
      entryItems store g (groupEntries resolver store users g) := entries_eq _ _ _ _ _ _
  refine ⟨?_, ⟨shown.map fun g => entryItems store g (groupEntries resolver store users g), ?_, ?_⟩,
    fun raw parsed distinct => ?_⟩
  · simp only [entries, List.flatMap_assoc, flatMap_entryItems]
    exact forall₂_flatMap (forall₂_groupEntries resolver store users) shown
  · rw [entries, List.flatMap_def]
  · rw [List.forall₂_map_right_iff, List.forall₂_same]
    intro g _
    exact arranges_entryItems resolver store users g
  · have valid := RegistryOf.accepted_of_parse parsed
    have part : shown.Sublist registry.groups := List.filter_sublist
    rw [entries]
    exact nodup_ids_of_groups resolver store distinct (valid.distinctGroups.sublist (part.map _))
      (valid.distinctSources.sublist ((part.flatMap _).map _))

theorem entries_complete_sparse :
    let users : UserGroup := ⟨0, [⟨10, true⟩]⟩
    let v := compute ⟨Config.sparseGroups⟩ .configured ∅ ∅ .none users
    RegistryOf.parse Config.sparse = .ok (RegistryOf.map .plain ⟨Config.sparseGroups⟩) ∧
      users.users.Nodup ∧
      v.entries.flatMap EntryItem.ids = ["group:device", "lock@0", "updates@0", "updates@10"] ∧
      (v.entries.flatMap EntryItem.ids).Nodup := by
  intro users v
  have parsed : RegistryOf.parse Config.sparse =
      .ok (RegistryOf.map .plain ⟨Config.sparseGroups⟩) := by decide +kernel
  have distinct : users.users.Nodup := by decide +kernel
  obtain ⟨-, -, ids⟩ := entries_complete ⟨Config.sparseGroups⟩ .configured ∅ ∅ .none users
  exact ⟨parsed, distinct, by decide +kernel, ids Config.sparse parsed distinct⟩

end View

end SafetyBoard
