import SafetyBoard.Proofs.Users
import SafetyBoard.Proofs.View.Entries
import SafetyBoard.Proofs.View.Overall

/-!
# Every tap launches something

Whatever is found to launch for a source and a user, an entry is only enabled if something was, and
an entry of a rigid group is only kept for that. And an entry only shows how severe things are if a
status says so that counts: never for a profile that is paused, nor for a source that does not
report.
-/

namespace SafetyBoard

/-- What a tap launches: what the status that counts asks for, or what is found for the source and
the user. -/
inductive Launches (resolver : ActionResolver) (store : ReportStore) (source : Source)
    (user : UserId) (paused : Bool) (action : Text) : Prop where
  | reported {report status} : paused = false → store.get? ⟨source.id, user⟩ = some report →
      report.status = some status → status.pendingAction = some action →
      Launches resolver store source user paused action
  | found : resolver source user paused = some action →
      Launches resolver store source user paused action

/-- An entry shows and offers only what there is reason to. -/
structure Entry.Grounded (resolver : ActionResolver) (store : ReportStore) (users : UserGroup)
    (source : Source) (e : Entry) : Prop where
  own : e.key.sourceId = source.id
  launches : e.enabled = true → ∃ action, e.pendingAction = some action ∧
    Launches resolver store source e.key.userId false action
  rated : e.severity = .ok ∨ e.severity = .recommendation ∨ e.severity = .criticalWarning →
    e.enabled = true ∧ (∃ reporting entry, source.kind = .dynamic reporting entry) ∧
    (e.key.userId = users.parent ∨ source.supportsManaged = true ∧
      ∃ p ∈ users.managed, p.running = true ∧ p.userId = e.key.userId) ∧
    ∃ report status, store.get? e.key = some report ∧ report.status = some status ∧
      e.severity = status.severity.toEntry
  paused : ∀ p ∈ users.managed, p.running = false → p.userId = e.key.userId →
    e.enabled = false ∧ e.summary = some Strings.workProfilePaused ∧
    ((∃ reporting entry, source.kind = .dynamic reporting entry) ∧ e.severity = .unknown ∨
      (∃ entry, source.kind = .fixed entry) ∧ e.severity = .unspecified)

namespace View

section Member

variable {resolver : ActionResolver} {store : ReportStore} {source : Source} {m : Member}
  {e : Entry}

theorem launches_of_configured {severity : EntrySeverity} {icon : UnspecifiedIcon}
    (enabled : (configuredEntry resolver store source m severity icon).enabled = true) :
    ∃ action, (configuredEntry resolver store source m severity icon).pendingAction = some action ∧
      Launches resolver store source m.userId false action := by
  simp only [configuredEntry, Bool.and_eq_true, Bool.not_eq_true'] at enabled ⊢
  obtain ⟨⟨leads, -⟩, awake⟩ := enabled
  rw [awake] at leads ⊢
  obtain ⟨action, found⟩ := Option.isSome_iff_exists.mp leads
  exact ⟨action, found, .found found⟩

/-- An entry is only enabled if it launches something. -/
theorem launches_of_enabled (origin : EntryOrigin resolver store source m e)
    (enabled : e.enabled = true) :
    ∃ action, e.pendingAction = some action ∧
      Launches resolver store source m.userId false action := by
  cases origin with
  | fixed kind => exact launches_of_configured enabled
  | awaited kind shown live => exact launches_of_configured enabled
  | @reported _ _ report status kind awake stored has =>
    simp only [statusEntry, Bool.and_eq_true] at enabled ⊢
    obtain ⟨action, leads⟩ := Option.isSome_iff_exists.mp enabled.2
    refine ⟨action, leads, ?_⟩
    cases own : status.pendingAction with
    | some asked =>
      rw [own] at leads
      cases leads
      exact .reported rfl stored has own
    | none =>
      rw [own] at leads
      exact .found leads

/-- The entry of a paused profile says that it is paused, and nothing else. -/
theorem paused_of_isPaused (origin : EntryOrigin resolver store source m e)
    (paused : m.isPaused = true) :
    e.enabled = false ∧ e.summary = some Strings.workProfilePaused ∧
    ((∃ reporting entry, source.kind = .dynamic reporting entry) ∧ e.severity = .unknown ∨
      (∃ entry, source.kind = .fixed entry) ∧ e.severity = .unspecified) := by
  cases origin with
  | fixed kind =>
    refine ⟨?_, ?_, .inr ⟨⟨_, kind⟩, rfl⟩⟩ <;> simp [configuredEntry, defaultSummary, paused]
  | awaited kind =>
    refine ⟨?_, ?_, .inl ⟨⟨_, _, kind⟩, rfl⟩⟩ <;> simp [configuredEntry, defaultSummary, paused]
  | reported kind awake =>
    rw [paused] at awake
    cases awake

theorem grounded_of_origin {users : UserGroup} (distinct : users.users.Nodup)
    (member : m ∈ users.members source.supportsManaged)
    (origin : EntryOrigin resolver store source m e) :
    e.Grounded resolver store users source := by
  have key := origin.key.1
  refine ⟨?_, fun enabled => ?_, fun rated => ?_, fun p profile stopped same => ?_⟩
  · rw [key]
    rfl
  · rw [key]
    exact launches_of_enabled origin enabled
  · have known : e.severity ≠ .unknown ∧ e.severity ≠ .unspecified := by
      rcases rated with own | own | own <;> simp [own]
    obtain ⟨reporting, entry, report, status, kind, awake, stored, has, -, enabled, severity⟩ :=
      origin.of_rated known.1 known.2
    rw [key]
    exact ⟨enabled, ⟨reporting, entry, kind⟩,
      UserGroup.mem_reportingUsers.mp (UserGroup.reporting_of_awake member awake),
      report, status, stored, has, severity⟩
  · rw [key] at same
    exact paused_of_isPaused origin (UserGroup.isPaused_of_stopped distinct member profile stopped
      same)

theorem launches_of_placement {entry : StaticEntry}
    (placed : placement resolver store source m = .shown entry) :
    Launches resolver store source m.userId m.isPaused entry.pendingAction := by
  cases origin_of_placement placed with
  | reported kind awake stored has leads => exact .reported awake stored has leads
  | configured kind shown leads => exact .found leads

end Member

/-- No entry offers a tap that does nothing, and none shows a severity without a live status. -/
theorem taps_launch (registry : Registry) (resolver : ActionResolver) (store : ReportStore)
    (ledger : DismissalLedger) (refresh : RefreshStatus) {users : UserGroup}
    (distinct : users.users.Nodup) :
    let v := compute registry resolver store ledger refresh users
    (∀ item ∈ v.entries, ∀ e ∈ item.entries, ∃ g ∈ registry.groups, g.type = .collapsible ∧
      ∃ source ∈ g.sources, e.Grounded resolver store users source) ∧
    ∀ group ∈ v.staticEntryGroups, ∀ e ∈ group.entries,
      ∃ g ∈ registry.groups, g.type = .rigid ∧ ∃ source ∈ g.sources,
        ∃ m ∈ users.members source.supportsManaged,
          Launches resolver store source m.userId m.isPaused e.pendingAction := by
  intro v
  constructor
  · intro item shown e inside
    obtain ⟨g, configured, type, made⟩ := exists_group_of_listed shown inside
    obtain ⟨source, stands, m, member, origin⟩ := mem_groupEntries.mp made
    exact ⟨g, configured, type, source, stands, grounded_of_origin distinct member origin⟩
  · intro group shown e inside
    obtain ⟨g, configured, type, rfl⟩ := mem_staticEntryGroups.mp shown
    obtain ⟨⟨_, unknown⟩, placed, rfl⟩ := List.mem_map.mp inside
    obtain ⟨source, stands, m, member, placed, -⟩ := mem_placedEntries.mp placed
    exact ⟨g, configured, type, source, stands, m, member, launches_of_placement placed⟩

theorem taps_launch_paused :
    let wifi : Source := ⟨"wifi", .all, true,
      .dynamic ⟨"org.net", .criticalWarning, true, true⟩
        ⟨some "Wi-Fi", none, none, some "open.wifi", .enabled⟩⟩
    let registry : Registry := ⟨[⟨"network", .collapsible, some "Network", none, .none, [wifi]⟩]⟩
    let users : UserGroup := ⟨1, [⟨2, false⟩]⟩
    let status : Status := ⟨"Wi-Fi", "Open network", .recommendation, true, none, none⟩
    let store := ((((∅ : ReportStore).set ⟨"wifi", 1⟩ ⟨some status, []⟩).2).set ⟨"wifi", 2⟩
      ⟨some status, []⟩).2
    let entries := (compute registry .configured store ∅ .none users).entries.flatMap
      EntryItem.entries
    users.users.Nodup ∧
      entries.map (fun e => (e.key, e.enabled, e.severity)) =
        [(⟨"wifi", 1⟩, true, .recommendation), (⟨"wifi", 2⟩, false, .unknown)] ∧
      ∀ e ∈ entries, e.Grounded .configured store users wifi := by
  intro wifi registry users status store entries
  have distinct : users.users.Nodup := by decide +kernel
  obtain ⟨grounded, -⟩ := taps_launch registry .configured store ∅ .none distinct
  refine ⟨distinct, by decide +kernel, fun e member => ?_⟩
  obtain ⟨item, shown, inside⟩ := List.mem_flatMap.mp member
  obtain ⟨g, configured, -, source, stands, own⟩ := grounded item shown e inside
  obtain rfl := List.mem_singleton.mp configured
  obtain rfl := List.mem_singleton.mp stands
  exact own

end View

end SafetyBoard
