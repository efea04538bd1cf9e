import SafetyBoard.Proofs.Dismissal.Ledger
import SafetyBoard.Proofs.Hub.Calls
import SafetyBoard.Proofs.Hub.Writes
import SafetyBoard.Proofs.Report.Admission
import SafetyBoard.Proofs.Report.Store

/-!
# What holds of a hub at every moment

Reports, records and awaited answers stand under the keys they belong to, whatever is in flight is
offered by the stored report, every stored report is one that its source may make, and a group is
known under its parent. No operation ends that, nor does a sink that fails in between.
-/

namespace SafetyBoard

def Setup.Admits (setup : Setup) (key : SourceKey) (report : Report) : Prop :=
  setup.settings.enabled = true ∧
    ∃ source payload, setup.registry.source? key.sourceId = some source ∧
      source.accept payload = .ok report

namespace HubState

structure Sound (setup : Setup) (s : HubState) : Prop where
  store : s.store.Sound
  admitted : ∀ key report, s.store.get? key = some report → setup.Admits key report
  ledger : s.ledger.Sound
  coordinator : s.coordinator.Sound
  groups : s.groups.NamedBy (·.parent)

theorem Sound.nodup_issueIds {setup : Setup} {s : HubState} (h : s.Sound setup) {key : SourceKey}
    {report : Report} (stored : s.store.get? key = some report) : report.issueIds.Nodup := by
  obtain ⟨-, source, payload, -, accepted⟩ := h.admitted key report stored
  exact source.nodup_issueIds accepted

theorem reports_markUnanswered (store : ReportStore) (key : SourceKey) :
    (markUnanswered store key).reports = store.reports := by
  rw [markUnanswered]
  split
  · next absent =>
    rw [Option.isNone_iff_eq_none, ReportStore.get?, Option.map_eq_none_iff] at absent
    exact Table.erase_of_absent absent
  · rfl

theorem actionsInFlight_markUnanswered (store : ReportStore) (key : SourceKey) :
    (markUnanswered store key).actionsInFlight = store.actionsInFlight := by
  rw [markUnanswered]
  split <;> rfl

theorem get?_markUnanswered (store : ReportStore) (key k : SourceKey) :
    (markUnanswered store key).get? k = store.get? k := by
  rw [ReportStore.get?, ReportStore.get?, reports_markUnanswered]

theorem hasError_markUnanswered (store : ReportStore) (key k : SourceKey) :
    (markUnanswered store key).hasError k =
      (decide (key = k) && (store.get? k).isNone || store.hasError k) := by
  rw [markUnanswered]
  by_cases same : key = k
  · subst same
    cases store.get? key <;> simp [ReportStore.hasError_markError]
  · split <;> simp [ReportStore.hasError_markError, same]

theorem keyed_markUnanswered {store : ReportStore} (h : store.Keyed) (key : SourceKey) :
    (markUnanswered store key).Keyed := by
  rw [markUnanswered]
  split
  · exact h.markError key
  · exact h

section Unanswered

variable (s : HubState) (keys : List SourceKey)

theorem withUnanswered_kept {α : Type} {f : ReportStore → α}
    (kept : ∀ store key, f (markUnanswered store key) = f store) :
    f (s.withUnanswered keys).store = f s.store := by
  have marked (store : ReportStore) : f (keys.foldl markUnanswered store) = f store := by
    induction keys generalizing store with
    | nil => rfl
    | cons key rest ih => exact (ih _).trans (kept store key)
  exact marked s.store

theorem withUnanswered_reports : (s.withUnanswered keys).store.reports = s.store.reports :=
  withUnanswered_kept s keys reports_markUnanswered

theorem withUnanswered_actionsInFlight :
    (s.withUnanswered keys).store.actionsInFlight = s.store.actionsInFlight :=
  withUnanswered_kept s keys actionsInFlight_markUnanswered

theorem withUnanswered_get? (k : SourceKey) :
    (s.withUnanswered keys).store.get? k = s.store.get? k := by
  rw [ReportStore.get?, ReportStore.get?, withUnanswered_reports]

theorem withUnanswered_hasError (k : SourceKey) :
    (s.withUnanswered keys).store.hasError k =
      (decide (k ∈ keys) && (s.store.get? k).isNone || s.store.hasError k) := by
  have marked (store : ReportStore) : (keys.foldl markUnanswered store).hasError k =
      (decide (k ∈ keys) && (store.get? k).isNone || store.hasError k) := by
    induction keys generalizing store with
    | nil => simp
    | cons key rest ih =>
      rw [List.foldl_cons, ih, get?_markUnanswered, hasError_markUnanswered]
      by_cases same : key = k
      · subst same
        cases (store.get? key).isNone <;> simp
      · simp [same, Ne.symm same]
  exact marked s.store

theorem withUnanswered_isActionInFlight (action : ActionKey) :
    (s.withUnanswered keys).store.isActionInFlight action = s.store.isActionInFlight action := by
  rw [ReportStore.isActionInFlight, ReportStore.isActionInFlight, withUnanswered_actionsInFlight]

variable {s} in
theorem withUnanswered_sound (h : s.store.Sound) : (s.withUnanswered keys).store.Sound where
  keyed := by
    have marked (store : ReportStore) (h : store.Keyed) :
        (keys.foldl markUnanswered store).Keyed := by
      induction keys generalizing store with
      | nil => exact h
      | cons key rest ih => exact ih _ (keyed_markUnanswered h key)
    exact marked s.store h.keyed
  live := by
    intro action inFlight defined
    rw [withUnanswered_isActionInFlight] at inFlight
    obtain ⟨report, stored, offers⟩ := h.live action inFlight defined
    exact ⟨report, (withUnanswered_get? ..).trans stored, offers⟩

end Unanswered

section Lookups

variable (s : HubState) (key : SourceKey)

theorem withReport_get? (report : Report) (now : Number) (k : SourceKey) :
    (s.withReport key report now).store.get? k =
      if key = k then some report else s.store.get? k :=
  s.store.get?_take key report k

theorem withReport_hasError (report : Report) (now : Number) (k : SourceKey) :
    (s.withReport key report now).store.hasError k =
      (decide (key ≠ k) && s.store.hasError k) :=
  s.store.hasError_take key report k

theorem withError_get? (k : SourceKey) :
    (s.withError key).store.get? k = if key = k then none else s.store.get? k :=
  ReportStore.get?_markError s.store key k

theorem withError_hasError (k : SourceKey) :
    (s.withError key).store.hasError k = (decide (key = k) || s.store.hasError k) :=
  ReportStore.hasError_markError s.store key k

variable {s}

theorem withReport_record? (sound : s.ledger.Sound) (report : Report) (now : Number)
    (issue : IssueKey) : (s.withReport key report now).ledger.record? issue =
      if issue.source = key ∧ issue.issueId ∈ Text.spelledPrefix report.issueIds then
        some ((s.ledger.record? issue).getD (.seen issue (.ofNumber now)))
      else if issue.source.same key ∧ (issue.issueId : Text) ∉ report.issueIds then none
      else s.ledger.record? issue :=
  DismissalLedger.record?_sync_upTo sound key report.issueIds (.ofNumber now) issue

theorem withoutUser_get? (keyed : s.store.Keyed) (user : UserId) (k : SourceKey) :
    (s.withoutUser user).store.get? k = if k.userId.equals user then none else s.store.get? k :=
  ReportStore.get?_clearForUser keyed user k

theorem withoutUser_hasError (keyed : s.store.Keyed) (user : UserId) (k : SourceKey) :
    (s.withoutUser user).store.hasError k =
      (!k.userId.equals user && s.store.hasError k) :=
  ReportStore.hasError_clearForUser keyed user k

theorem withoutUser_record? (sound : s.ledger.Sound) (user : UserId) (issue : IssueKey) :
    (s.withoutUser user).ledger.record? issue =
      if issue.userId.equals user then none else s.ledger.record? issue :=
  DismissalLedger.record?_clearForUser sound user issue

end Lookups

section Step

variable {setup : Setup} {s t : HubState}

theorem sound_initial (setup : Setup) : (initial setup.settings).Sound setup where
  store := ReportStore.sound_empty
  admitted := by
    intro key report stored
    have absent : (initial setup.settings).store.get? key = none := rfl
    rw [absent] at stored
    cases stored
  ledger := DismissalLedger.sound_empty
  coordinator := Coordinator.fresh_sound _
  groups := Table.namedBy_empty _

theorem Sound.congr (h : s.Sound setup) (same : s.SameData t) (coordinator : t.coordinator.Sound) :
    t.Sound setup where
  store := same.store ▸ h.store
  admitted := same.store ▸ h.admitted
  ledger := same.ledger ▸ h.ledger
  coordinator := coordinator
  groups := same.groups ▸ h.groups

theorem Sound.rememberGroup (h : s.Sound setup) (group : UserGroup) :
    (s.rememberGroup group).Sound setup :=
  ⟨h.store, h.admitted, h.ledger, h.coordinator, h.groups.insert group⟩

theorem admits_of_acceptPayload (enabled : setup.settings.enabled = true) {key : SourceKey}
    {payload : Json} {report : Report}
    (accepted : s.acceptPayload setup.registry key payload = .ok report) :
    setup.Admits key report := by
  rw [acceptPayload] at accepted
  split at accepted
  · cases accepted
  · next source known =>
    split at accepted
    · cases accepted
    · split at accepted
      · cases accepted
      · next report fits =>
        cases accepted
        exact ⟨enabled, source, payload, known, fits⟩

theorem Sound.withReport (h : s.Sound setup) {key : SourceKey} {report : Report}
    (admits : setup.Admits key report) (now : Number) :
    (s.withReport key report now).Sound setup where
  store := h.store.take key report
  admitted := by
    intro k stored found
    rw [withReport_get?] at found
    split at found
    · next same =>
      cases found
      exact same ▸ admits
    · exact h.admitted k stored found
  ledger := h.ledger.sync key report.issueIds (.ofNumber now)
  coordinator := h.coordinator
  groups := h.groups

theorem Sound.withError (h : s.Sound setup) (key : SourceKey) :
    (s.withError key).Sound setup where
  store := h.store.markError key
  admitted := by
    intro k stored found
    rw [withError_get?] at found
    split at found
    · cases found
    · exact h.admitted k stored found
  ledger := h.ledger
  coordinator := h.coordinator
  groups := h.groups

theorem Sound.withUnanswered (h : s.Sound setup) (keys : List SourceKey) :
    (s.withUnanswered keys).Sound setup where
  store := withUnanswered_sound keys h.store
  admitted := by
    intro k stored found
    rw [withUnanswered_get?] at found
    exact h.admitted k stored found
  ledger := h.ledger
  coordinator := h.coordinator
  groups := h.groups

theorem Sound.withoutUser (h : s.Sound setup) (user : UserId) :
    (s.withoutUser user).Sound setup where
  store := h.store.clearForUser user
  admitted := by
    intro k stored found
    rw [withoutUser_get? h.store.keyed] at found
    split at found
    · cases found
    · exact h.admitted k stored found
  ledger := h.ledger.clearForUser user
  coordinator := h.coordinator
  groups := h.groups

theorem Sound.forgetUser (h : s.Sound setup) (user : UserId) :
    (s.forgetUser user).Sound setup :=
  ⟨h.store, h.admitted, h.ledger, h.coordinator,
    (h.groups.erase user).mapValues fun _ => rfl⟩

theorem Sound.launch (h : s.Sound setup) {key : IssueKey} {actionId : String} {issue : Issue}
    {action : IssueAction} (reported : s.issue? key = some issue)
    (offered : issue.action? actionId = some action) :
    { s with store := s.store.markActionInFlight ⟨key, actionId⟩ }.Sound setup := by
  obtain ⟨report, stored, found⟩ := Option.bind_eq_some_iff.mp reported
  have offers : report.Offers ⟨key, actionId⟩ := ⟨issue, action, found, offered⟩
  exact ⟨h.store.markActionInFlight stored offers, h.admitted, h.ledger, h.coordinator, h.groups⟩

theorem Sound.withLedger (h : s.Sound setup) {ledger : DismissalLedger} (sound : ledger.Sound) :
    { s with ledger }.Sound setup :=
  ⟨h.store, h.admitted, sound, h.coordinator, h.groups⟩

theorem Sound.cleared (h : s.Sound setup) :
    { s with store := ∅, ledger := s.ledger.clear }.Sound setup where
  store := ReportStore.sound_empty
  admitted := (sound_initial setup).admitted
  ledger := DismissalLedger.sound_clear s.ledger
  coordinator := h.coordinator
  groups := h.groups

theorem Sound.writes (h : s.Sound setup) {operation : Operation}
    (writes : Writes setup s operation t) (coordinator : t.coordinator.Sound) :
    t.Sound setup := by
  cases writes with
  | idle _ _ same => exact h.congr same coordinator
  | refresh _ same => exact (h.rememberGroup _).congr same coordinator
  | report now _ enabled accepted same =>
    exact (h.withReport (admits_of_acceptPayload enabled accepted) now).congr same coordinator
  | error _ _ _ same => exact (h.withError _).congr same coordinator
  | timeout keys _ same => exact (h.withUnanswered keys).congr same coordinator
  | removal _ same =>
    rcases same with same | same
    · exact (h.withoutUser _).congr same coordinator
    · exact ((h.withoutUser _).forgetUser _).congr same coordinator
  | dismissal now _ _ same =>
    exact (h.withLedger (h.ledger.dismiss _ _ (.ofNumber now))).congr same coordinator
  | launch _ reported offered _ same => exact (h.launch reported offered).congr same coordinator
  | relaunch _ same => exact h.congr same coordinator
  | clearing same => exact h.cleared.congr same coordinator
  | saving same => exact (h.withLedger h.ledger.markSaved).congr same coordinator
  | loading loaded same =>
    exact (h.withLedger (DismissalLedger.sound_load loaded)).congr same coordinator

end Step

end HubState

/-- A coordinator stays sound, also while it takes an answer. -/
theorem Coordinator.sound_kept : Kept Sound where
  after := after_sound
  answered h open_ key failed :=
    h.continued open_ (Session.keyed_answered (h.keyed _ open_) key failed)

namespace HubState

variable {setup : Setup} {faultless : Prop} {s t : HubState}

theorem Sound.step (h : s.Sound setup) {operation : Operation}
    (step : Step setup faultless s operation t) : t.Sound setup :=
  h.writes step.writes (has_step h.coordinator Coordinator.sound_kept step)

/-- Whatever is done to a hub, it stays sound. -/
theorem Sound.execution (h : s.Sound setup) {history : List Entered}
    (ran : Execution setup faultless s history t) : t.Sound setup := by
  induction ran with
  | refl => exact h
  | enter _ step ih => exact ih.step step
  | subscribe group _ ih => exact ih.rememberGroup group

end HubState

end SafetyBoard
