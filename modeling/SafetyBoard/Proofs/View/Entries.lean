import SafetyBoard.View.Entries

/-!
# Where an entry comes from

An entry shows the status that its source reported for the user, or what is configured: always for a
source that never reports, and for one that does while there is no status that counts. In a rigid
group it is the same, but for what leads nowhere. So every entry is one of a few shapes, and what is
said of all entries is said of each shape.
-/

namespace SafetyBoard.View

variable {resolver : ActionResolver} {store : ReportStore} {source : Source} {m : Member}

theorem liveStatus?_eq_some {status : Status} :
    liveStatus? store source m = some status ↔ m.isPaused = false ∧
      ∃ report, store.get? (memberKey source m) = some report ∧ report.status = some status := by
  rw [liveStatus?]
  cases m.isPaused with
  | true => simp
  | false => simp [Option.bind_eq_some_iff]

theorem liveStatus?_eq_none :
    liveStatus? store source m = none ↔
      m.isPaused = true ∨ (store.get? (memberKey source m)).bind (·.status) = none := by
  rw [liveStatus?]
  cases m.isPaused with
  | true => simp
  | false => simp

def configuredEntry (resolver : ActionResolver) (store : ReportStore) (source : Source)
    (m : Member) (severity : EntrySeverity) (icon : UnspecifiedIcon) : Entry :=
  let action := resolver source m.userId m.isPaused
  { id := (memberKey source m).encode
    key := memberKey source m
    title := defaultTitle source m
    summary := defaultSummary store source m
    severity
    enabled := action.isSome && !source.isInitiallyDisabled && !m.isPaused
    pendingAction := action
    unspecifiedIcon := icon
    iconAction := none }

theorem defaultEntryOf_eq_some {severity : EntrySeverity} {icon : UnspecifiedIcon} {e : Entry} :
    defaultEntryOf resolver store source m severity icon = some e ↔
      source.isInitiallyHidden = false ∧
        e = configuredEntry resolver store source m severity icon := by
  rw [defaultEntryOf]
  split
  · next hidden => simp [hidden]
  · next shown =>
    rw [Bool.not_eq_true] at shown
    rw [Option.some_inj, eq_comm, and_iff_right shown]
    rfl

inductive EntryOrigin (resolver : ActionResolver) (store : ReportStore) (source : Source)
    (m : Member) : Entry → Prop where
  | fixed {entry} : source.kind = .fixed entry →
      EntryOrigin resolver store source m
        (configuredEntry resolver store source m .unspecified .noIcon)
  | reported {reporting entry report status} : source.kind = .dynamic reporting entry →
      m.isPaused = false → store.get? (memberKey source m) = some report →
      report.status = some status →
      EntryOrigin resolver store source m (statusEntry resolver source m status)
  | awaited {reporting entry} : source.kind = .dynamic reporting entry →
      source.isInitiallyHidden = false → liveStatus? store source m = none →
      EntryOrigin resolver store source m
        (configuredEntry resolver store source m .unknown .noRecommendation)

/-- A source that never reports is not hidden until it does. -/
theorem isInitiallyHidden_of_fixed {entry : FixedEntry} (kind : source.kind = .fixed entry) :
    source.isInitiallyHidden = false := by
  rw [SourceOf.isInitiallyHidden, SourceOf.hasDisplay, kind]

theorem entryOf_eq_some_iff {e : Entry} :
    entryOf resolver store source m = some e ↔ EntryOrigin resolver store source m e := by
  constructor
  · intro made
    rw [entryOf] at made
    split at made
    · cases made
    · next kind =>
      obtain ⟨-, rfl⟩ := defaultEntryOf_eq_some.mp made
      exact .fixed kind
    · next kind =>
      split at made
      · next status live =>
        obtain ⟨awake, report, stored, has⟩ := liveStatus?_eq_some.mp live
        cases made
        exact .reported kind awake stored has
      · next live =>
        obtain ⟨shown, rfl⟩ := defaultEntryOf_eq_some.mp made
        exact .awaited kind shown live
  · rintro (⟨kind⟩ | ⟨kind, awake, stored, has⟩ | ⟨kind, shown, live⟩)
    · simp only [entryOf, kind]
      exact defaultEntryOf_eq_some.mpr ⟨isInitiallyHidden_of_fixed kind, rfl⟩
    · simp only [entryOf, kind, liveStatus?_eq_some.mpr ⟨awake, _, stored, has⟩]
    · simp only [entryOf, kind, live]
      exact defaultEntryOf_eq_some.mpr ⟨shown, rfl⟩

/-- An entry stands under the key of its source and member, and its id is that key encoded. -/
theorem EntryOrigin.key {e : Entry} (origin : EntryOrigin resolver store source m e) :
    e.key = memberKey source m ∧ e.id = (memberKey source m).encode := by
  cases origin <;> exact ⟨rfl, rfl⟩

/-- Only a status that counts gives an entry a severity of its own, and only to one that leads
somewhere. -/
theorem EntryOrigin.of_rated {e : Entry} (origin : EntryOrigin resolver store source m e)
    (known : e.severity ≠ .unknown) (rated : e.severity ≠ .unspecified) :
    ∃ reporting entry report status, source.kind = .dynamic reporting entry ∧
      m.isPaused = false ∧ store.get? (memberKey source m) = some report ∧
      report.status = some status ∧ e = statusEntry resolver source m status ∧
      e.enabled = true ∧ e.severity = status.severity.toEntry := by
  cases origin with
  | fixed => exact absurd rfl rated
  | awaited => exact absurd rfl known
  | @reported reporting entry report status kind awake stored has =>
    rw [statusEntry] at rated ⊢
    refine ⟨reporting, entry, report, status, kind, awake, stored, has, rfl, ?_⟩
    split at rated
    · next enabled => exact ⟨enabled, if_pos enabled⟩
    · exact absurd rfl rated

theorem mem_groupEntries {users : UserGroup} {g : SourceGroup} {e : Entry} :
    e ∈ groupEntries resolver store users g ↔ ∃ source ∈ g.sources,
      ∃ m ∈ users.members source.supportsManaged, EntryOrigin resolver store source m e := by
  simp only [groupEntries, List.mem_flatMap, List.mem_filterMap, entryOf_eq_some_iff]

inductive PlacementOrigin (resolver : ActionResolver) (store : ReportStore) (source : Source)
    (m : Member) : StaticEntry → Prop where
  | reported {reporting entry report status action} : source.kind = .dynamic reporting entry →
      m.isPaused = false → store.get? (memberKey source m) = some report →
      report.status = some status → status.pendingAction = some action →
      PlacementOrigin resolver store source m ⟨status.title, some status.summary, action⟩
  | configured {action} : (∀ reporting, source.kind ≠ .issueOnly reporting) →
      source.isInitiallyHidden = false →
      resolver source m.userId m.isPaused = some action →
      PlacementOrigin resolver store source m
        ⟨defaultTitle source m, defaultSummary store source m, action⟩

theorem defaultPlacement_eq_shown {entry : StaticEntry} :
    defaultPlacement resolver store source m = .shown entry ↔
      source.isInitiallyHidden = false ∧ ∃ action,
        resolver source m.userId m.isPaused = some action ∧
          entry = ⟨defaultTitle source m, defaultSummary store source m, action⟩ := by
  rw [defaultPlacement]
  split
  · next hidden => simp [hidden]
  · next shown =>
    rw [Bool.not_eq_true] at shown
    split
    · next without => simp [without]
    · next action leads => simp [shown, leads, eq_comm]

theorem origin_of_placement {entry : StaticEntry}
    (placed : placement resolver store source m = .shown entry) :
    PlacementOrigin resolver store source m entry := by
  rw [placement] at placed
  split at placed
  · cases placed
  · next kind =>
    obtain ⟨shown, action, leads, rfl⟩ := defaultPlacement_eq_shown.mp placed
    exact .configured (by simp [kind]) shown leads
  · next kind =>
    split at placed
    · obtain ⟨shown, action, leads, rfl⟩ := defaultPlacement_eq_shown.mp placed
      exact .configured (by simp [kind]) shown leads
    · next status live =>
      obtain ⟨awake, report, stored, has⟩ := liveStatus?_eq_some.mp live
      split at placed
      · cases placed
      · next action leads =>
        cases placed
        exact .reported kind awake stored has leads

end SafetyBoard.View
