import Mathlib.Data.List.TakeWhile
import SafetyBoard.Proofs.Hub.Sound
import SafetyBoard.Proofs.Hub.Timeout
import SafetyBoard.Proofs.Hub.Told
import SafetyBoard.Proofs.Report.Admission
import SafetyBoard.Proofs.Severity
import SafetyBoard.Proofs.View.Reporters

/-!
# Snapshots agree with views

A snapshot goes through the reports of a group by itself, beside the view of the group. What it
tells of each source and user is nevertheless what can be read off the view and the stored report: as
many issues are open as the view lists, the rest of the report is dismissed, and the highest severity
is that of the status and the listed issues.
-/

namespace SafetyBoard

namespace View

def countFor (v : View) (key : SourceKey) : Nat := v.issues.countP fun i => i.key.source = key

def listed (v : View) (key : SourceKey) (issues : List Issue) : List Issue :=
  issues.filter fun issue : Issue =>
    v.issues.any fun i => i.key.source = key ∧ issue.id = i.key.issueId

/-- The severities that count for a source and user: that of the status in the stored report, and
those of its issues that the view lists. -/
def severitiesFor (v : View) (key : SourceKey) : Option Report → List SourceSeverity
  | none => []
  | some report => (report.status.map (·.severity)).toList ++
    (v.listed key report.issues).map (·.severity)

end View

/-- What is told of a source and user is what the view and the stored report, if there is one, say
of them. -/
structure SourceState.Agrees (told : SourceState) (group : UserGroup) (v : View)
    (report : Option Report) (reporter : Source × UserId) : Prop where
  source : told.sourceId = reporter.1.id
  managed : told.isUserManaged = !reporter.2.equals group.parent
  opened : told.openIssueCount = .ofNat (v.countFor (reporterKey reporter))
  dismissed : ∃ dismissed, told.dismissedIssueCount = .ofNat dismissed ∧
    v.countFor (reporterKey reporter) + dismissed = (report.map (·.issues.length)).getD 0
  nothing : told.maxSeverity = none ↔ v.severitiesFor (reporterKey reporter) report = []
  highest : ∀ severity, told.maxSeverity = some severity →
    severity.IsHighest (v.severitiesFor (reporterKey reporter) report)

def RegistryOf.loggedSources (registry : Registry) : List Source :=
  registry.externalSources.filter fun source => registry.isLoggingAllowed source.id

/-- A snapshot of a group that agrees with the view of the group: it tells of each source and user
once, in order and truly. -/
structure Snapshot.Agrees (snapshot : Snapshot) (setup : Setup) (store : ReportStore)
    (group : UserGroup) (v : View) : Prop where
  overall : snapshot.state.overallSeverity = v.overallSeverity
  opened : snapshot.state.openIssueCount = .ofNat v.issues.length
  once : ((group.reporters setup.registry.loggedSources).map reporterKey).Nodup
  sources : List.Forall₂
    (fun reporter (told : SourceState) =>
      told.Agrees group v (store.get? (reporterKey reporter)) reporter)
    (group.reporters setup.registry.loggedSources) snapshot.sources
  total : (∀ source ∈ setup.registry.externalSources,
      setup.registry.isLoggingAllowed source.id = true) →
    ∃ counts : List Nat, snapshot.sources.map (·.openIssueCount) = counts.map .ofNat ∧
      counts.sum = v.issues.length

def Snapshot.events (snapshot : Snapshot) : List TelemetryEvent :=
  .safetyState snapshot.state :: snapshot.sources.map .sourceStateCollected

namespace HubState

variable {s : HubState} {setup : Setup} {group : UserGroup}

theorem mem_reporters_of_logged {registry : Registry} {reporter : Source × UserId}
    (member : reporter ∈ group.reporters registry.loggedSources) :
    reporter ∈ group.reporters registry.externalSources := by
  obtain ⟨logged, reports⟩ := UserGroup.mem_reporters.mp member
  exact UserGroup.mem_reporters.mpr ⟨(List.mem_filter.mp logged).1, reports⟩

theorem sourceStates_eq_map (s : HubState) (registry : Registry) (group : UserGroup) :
    s.sourceStates registry group = (group.reporters registry.loggedSources).map
      fun reporter => s.sourceState reporter.1 group reporter.2 := by
  rw [sourceStates, UserGroup.reporters, List.map_flatMap]
  simp only [List.map_map]
  rfl

section SourceState

variable (reporter : Source × UserId)

theorem sourceState_opened : (s.sourceState reporter.1 group reporter.2).openIssueCount =
    .ofNat (View.openFrom s.store s.ledger reporter).length := by
  simp only [sourceState, List.partition_eq_filter_filter, View.openFrom]

theorem sourceState_dismissed (spelled : ∀ report,
      s.store.get? (reporterKey reporter) = some report → report.isSpelled = true) : ∃ dismissed,
    (s.sourceState reporter.1 group reporter.2).dismissedIssueCount = .ofNat dismissed ∧
      (View.openFrom s.store s.ledger reporter).length + dismissed =
        ((s.store.get? (reporterKey reporter)).map (·.issues.length)).getD 0 := by
  have all : (View.sourceIssues s.store reporter.1 reporter.2).length =
      ((s.store.get? (reporterKey reporter)).map (·.issues.length)).getD 0 := by
    cases stored : s.store.get? (reporterKey reporter) with
    | none =>
      have absent : s.store.get? ⟨reporter.1.id, reporter.2⟩ = none := stored
      rw [View.sourceIssues, absent]
      rfl
    | some report => exact View.length_sourceIssues (spelled report stored) stored
  refine ⟨((View.sourceIssues s.store reporter.1 reporter.2).filter
    fun r => !View.isOpen s.ledger r).length, ?_, ?_⟩
  · simp only [sourceState, List.partition_eq_filter_filter]
    rfl
  · rw [← all, View.openFrom, ← List.length_eq_length_filter_add]

def openSeverities (s : HubState) (reporter : Source × UserId) : List SourceSeverity :=
  (((s.store.get? (reporterKey reporter)).bind (·.status)).map (·.severity)).toList ++
    (View.openFrom s.store s.ledger reporter).map (·.issue.severity)

theorem sourceState_maxSeverity : (s.sourceState reporter.1 group reporter.2).maxSeverity =
    SourceSeverity.highest? (s.openSeverities reporter) := by
  simp only [sourceState, List.partition_eq_filter_filter]
  rfl

variable {reporter}

theorem openSeverities_eq (sound : s.Sound setup)
    (member : reporter ∈ group.reporters setup.registry.externalSources) :
    s.openSeverities reporter = (s.view setup group).severitiesFor (reporterKey reporter)
      (s.store.get? (reporterKey reporter)) := by
  cases stored : s.store.get? (reporterKey reporter) with
  | none =>
    have absent : s.store.get? ⟨reporter.1.id, reporter.2⟩ = none := stored
    rw [openSeverities, stored, View.openFrom, View.sourceIssues, absent]
    rfl
  | some report =>
    have listed : (View.openFrom s.store s.ledger reporter).map (·.issue) =
        (s.view setup group).listed (reporterKey reporter) report.issues :=
      View.map_issue_openFrom member stored (sound.nodup_issueIds stored)
    rw [openSeverities, stored, View.severitiesFor, ← listed, List.map_map]
    rfl

theorem sourceState_agrees (sound : s.Sound setup) (drawable : s.isDrawable setup group = true)
    (users : group.users.Nodup)
    (member : reporter ∈ group.reporters setup.registry.externalSources) :
    (s.sourceState reporter.1 group reporter.2).Agrees group (s.view setup group)
      (s.store.get? (reporterKey reporter)) reporter := by
  have count : (s.view setup group).countFor (reporterKey reporter) =
      (View.openFrom s.store s.ledger reporter).length := View.countP_issueList users member
  constructor
  case source => rfl
  case managed => rfl
  case opened => rw [count, sourceState_opened]
  case dismissed =>
    rw [count]
    exact sourceState_dismissed reporter fun report => View.spelled_of_drawable drawable member
  case nothing =>
    rw [sourceState_maxSeverity, openSeverities_eq sound member]
    exact SourceSeverity.highest?_eq_none
  case highest =>
    intro severity given
    rw [sourceState_maxSeverity, openSeverities_eq sound member] at given
    exact SourceSeverity.isHighest_of_highest? given

end SourceState

theorem snapshot_agrees (sound : s.Sound setup) (drawable : s.isDrawable setup group = true)
    (users : group.users.Nodup) :
    (s.snapshot setup group).Agrees setup s.store group (s.view setup group) where
  overall := by rw [snapshot]
  opened := by rw [snapshot]
  once := UserGroup.nodup_reporters users
    (setup.registry.nodup_external_ids.sublist (List.filter_sublist.map _))
  sources := by
    rw [snapshot, sourceStates_eq_map, List.forall₂_map_right_iff]
    apply List.forall₂_same.mpr
    intro reporter member
    exact sourceState_agrees sound drawable users (mem_reporters_of_logged member)
  total := by
    intro logged
    have every : setup.registry.loggedSources = setup.registry.externalSources :=
      List.filter_eq_self.mpr logged
    refine ⟨(group.reporters setup.registry.externalSources).map
      fun reporter => (View.openFrom s.store s.ledger reporter).length, ?_,
      View.length_issueList.symm⟩
    rw [snapshot, sourceStates_eq_map, every]
    simp only [List.map_map, Function.comp_def, sourceState_opened]

/-- What is told while the groups are looked at. -/
theorem pullSafetyState_events (s : HubState) (setup : Setup) (groups : List UserGroup) :
    (s.pullSafetyState setup groups).events =
      (groups.map (s.snapshot setup)).flatMap Snapshot.events := by
  have silent (lines : List LogLine) : (lines.map Signal.log).filterMap Signal.event? = [] := by
    simp [List.filterMap_map, Function.comp_def, Signal.event?]
  have spoken (states : List SourceState) :
      (states.map fun state => Signal.event (.sourceStateCollected state)).filterMap
        Signal.event? = states.map .sourceStateCollected := by
    simp [List.filterMap_map, Function.comp_def, Signal.event?]
  change List.filterMap Signal.event? _ = _
  simp only [pullSafetyState, Change.signals, List.map_map, Function.comp_def, List.map_id',
    List.filterMap_flatMap, List.filterMap_append, List.filterMap_cons, silent, spoken,
    List.flatMap_map]
  rfl

end HubState

namespace Hub

open HubAct

variable {σ : Type} {host : Host σ} {setup : Setup} {told : σ → List TelemetryEvent} {x : Hub × σ}

/-- The snapshots go up to the first group that no view can be made for. -/
theorem run_pullSafetyState (records : host.Records told) (enabled : setup.settings.enabled = true)
    (free : x.1.held = false) (groups : List UserGroup) :
    let snapshots :=
      (groups.takeWhile (x.1.state.isDrawable setup)).map (x.1.state.snapshot setup)
    ∃ h, (run host setup (.pullSafetyState groups)).run x =
        (if groups.all (x.1.state.isDrawable setup) then .ok (.snapshots snapshots)
          else .error .malformedUri, x.1, h) ∧
      told h = told x.2 ++ emitted setup (snapshots.flatMap Snapshot.events) := by
  intro snapshots
  let drawable := x.1.state.isDrawable setup
  let c := x.1.state.pullSafetyState setup (groups.takeWhile drawable)
  obtain ⟨h, performed, kept⟩ :=
    run_perform_records records setup c ({ x.1 with held := true }, x.2)
  rw [HubState.pullSafetyState_events] at kept
  obtain ⟨h', ran, kept'⟩ : ∃ h', (pullSafetyState host setup groups).run x =
      (if groups.all drawable then .ok snapshots else .error .malformedUri, x.1, h') ∧
        told h' = told h := by
    rw [pullSafetyState, if_pos enabled]
    cases rest : groups.dropWhile drawable with
    | nil =>
      have all : groups.all drawable = true :=
        List.all_eq_true.mpr (List.dropWhile_eq_nil_iff.mp rest)
      refine ⟨h, run_gate_of_ran free ?_, rfl⟩
      rw [run_getState_bind, Act.run_bind_ok performed, if_pos all]
      dsimp only
      rw [rest]
      rfl
    | cons group others =>
      have stops : groups.all drawable ≠ true := fun all => by
        rw [List.dropWhile_eq_nil_iff.mpr (List.all_eq_true.mp all)] at rest
        cases rest
      refine ⟨_, run_gate_of_ran free ?_, told_logged records
        (x.1.state.viewLines setup group) h⟩
      rw [run_getState_bind, Act.run_bind_ok performed, if_neg stops]
      dsimp only
      rw [rest]
      exact Act.run_bind_ok (run_forM_log host _ _) _
  refine ⟨h', ?_, kept'.trans kept⟩
  rw [run, Act.run_map, ran]
  split <;> rfl

theorem run_pullSafetyState_of_drawable (records : host.Records told)
    (enabled : setup.settings.enabled = true) (free : x.1.held = false) {groups : List UserGroup}
    (drawable : groups.all (x.1.state.isDrawable setup) = true) :
    ∃ h, (run host setup (.pullSafetyState groups)).run x =
      (.ok (.snapshots (groups.map (x.1.state.snapshot setup))), x.1, h) := by
  obtain ⟨h, pulled, -⟩ := run_pullSafetyState records enabled free groups
  rw [if_pos drawable, List.takeWhile_eq_self_iff.mpr (List.all_eq_true.mp drawable)] at pulled
  exact ⟨h, pulled⟩

/-- Pulling gives snapshots of the groups, of each of which `P` holds beside the view of the group if
its users are distinct, and the sink is told of them. It fails at the first group that no view can
be made for. -/
def PullsBeside (host : Host σ) (setup : Setup) (told : σ → List TelemetryEvent) (x : Hub × σ)
    (groups : List UserGroup) (P : UserGroup → Snapshot → View → Prop) : Prop :=
  ∃ snapshots h, (run host setup (.pullSafetyState groups)).run x =
      (if groups.all (x.1.state.isDrawable setup) then .ok (.snapshots snapshots)
        else .error .malformedUri, x.1, h) ∧
    told h = told x.2 ++ emitted setup (snapshots.flatMap Snapshot.events) ∧
    List.Forall₂ (fun group snapshot => group.users.Nodup →
      ∃ v h', (run host setup (.view group)).run x = (.ok (.view v), x.1, h') ∧
        P group snapshot v) (groups.takeWhile (x.1.state.isDrawable setup)) snapshots

theorem pulls_beside (records : host.Records told) (enabled : setup.settings.enabled = true)
    (free : x.1.held = false) {P : UserGroup → Snapshot → View → Prop}
    (holds : ∀ group, x.1.state.isDrawable setup group = true → group.users.Nodup →
      P group (x.1.state.snapshot setup group) (x.1.state.view setup group))
    (groups : List UserGroup) : PullsBeside host setup told x groups P := by
  obtain ⟨h, pulled, kept⟩ := run_pullSafetyState records enabled free groups
  refine ⟨_, h, pulled, kept, ?_⟩
  rw [List.forall₂_map_right_iff]
  apply List.forall₂_same.mpr
  intro group member users
  have drawable := List.mem_takeWhile_imp member
  obtain ⟨h', viewed⟩ := run_view_of_drawable host enabled free drawable
  exact ⟨_, h', viewed, holds group drawable users⟩

theorem PullsBeside.of_drawable {groups : List UserGroup} {P : UserGroup → Snapshot → View → Prop}
    (h : PullsBeside host setup told x groups P)
    (drawable : groups.all (x.1.state.isDrawable setup) = true) :
    ∃ snapshots h, (run host setup (.pullSafetyState groups)).run x =
        (.ok (.snapshots snapshots), x.1, h) ∧
      told h = told x.2 ++ emitted setup (snapshots.flatMap Snapshot.events) ∧
      List.Forall₂ (fun group snapshot => group.users.Nodup →
        ∃ v h', (run host setup (.view group)).run x = (.ok (.view v), x.1, h') ∧
          P group snapshot v) groups snapshots := by
  obtain ⟨snapshots, h, pulled, kept, beside⟩ := h
  rw [if_pos drawable] at pulled
  rw [List.takeWhile_eq_self_iff.mpr (List.all_eq_true.mp drawable)] at beside
  exact ⟨snapshots, h, pulled, kept, beside⟩

/-- Whatever was done to an enabled hub, the snapshot of a group of distinct users agrees with its
view, and it is what the sink is told. -/
theorem snapshots_agree_with_views (records : host.Records told)
    (enabled : setup.settings.enabled = true) {faultless : Prop} {history : List Entered}
    (ran : Execution setup faultless (.initial setup.settings) history x.1.state)
    (free : x.1.held = false) (groups : List UserGroup) :
    PullsBeside host setup told x groups fun group snapshot v =>
      snapshot.Agrees setup x.1.state.store group v := by
  have sound := (HubState.sound_initial setup).execution ran
  exact pulls_beside records enabled free
    (fun group drawable users => HubState.snapshot_agrees sound drawable users) groups

/-- One of two issues is dismissed: the snapshot tells of one that is open and one that is not, for
the user who has them, and of none for the profile that has not reported. -/
theorem snapshots_agree_with_views_dismissed :
    let source : Source :=
      ⟨"wifi", .all, true, .issueOnly ⟨"net", .criticalWarning, true, true⟩⟩
    let setup : Setup := ⟨⟨[⟨"network", .hidden, none, none, .none, [source]⟩]⟩, .configured,
      ⟨true, true, [], .default, false⟩⟩
    let issue (id severity : String) : Json := .object [("id", .string id),
      ("typeId", .string "network"), ("severity", .string severity), ("title", .string "Open"),
      ("summary", .string "Anyone can listen")]
    let group : UserGroup := ⟨1, [⟨2, true⟩]⟩
    let x := ((run diary setup (.setSourceData ⟨"wifi", 1⟩ (.object [("issues", .array
      [issue "open" "recommendation", issue "weak" "critical_warning"])]) none)).run
        (.initial setup.settings, (⟨[], [], []⟩ : Diary))).2
    let y := ((run diary setup (.dismissIssue ⟨"wifi", "weak", 1⟩)).run x).2
    ∃ snapshot v h h', snapshot = ⟨⟨.recommendation, 1, 1⟩,
        [⟨"wifi", false, some .recommendation, 1, 1⟩, ⟨"wifi", true, none, 0, 0⟩]⟩ ∧
      (run diary setup (.pullSafetyState [group])).run y = (.ok (.snapshots [snapshot]), y.1, h) ∧
      h.events = snapshot.events ∧
      (run diary setup (.view group)).run y = (.ok (.view v), y.1, h') ∧
      snapshot.Agrees setup y.1.state.store group v := by
  intro source setup issue group x y
  have orderly := diary_orderly setup False
  have reported : Reached diary setup False _ x :=
    (Reached.start (⟨[], [], []⟩ : Diary)).quietly 0 (by decide +kernel)
  have dismissed : Reached diary setup False _ y := reported.quietly 0 (by decide +kernel)
  have free := dismissed.free orderly
  have enabled : setup.settings.enabled = true := rfl
  have drawable : [group].all (y.1.state.isDrawable setup) = true := by decide +kernel
  obtain ⟨snapshots, h, pulled, told, agree⟩ := (snapshots_agree_with_views diary_records enabled
    (dismissed.execution orderly) free [group]).of_drawable drawable
  obtain ⟨_, pulled'⟩ := run_pullSafetyState_of_drawable diary_records enabled free drawable
  cases pulled.symm.trans pulled'
  obtain ⟨v, h', viewed, agrees⟩ := (List.forall₂_cons.mp agree).1 (by decide +kernel)
  refine ⟨_, v, h, h', ?_, pulled, ?_, viewed, agrees⟩
  · decide +kernel
  · have silent : y.2.events = [] := by decide +kernel
    rw [told, silent]
    exact List.append_nil _

/-- A sink that fails when it is told of the group ends the pulling, so that nobody is told of the
sources. Nobody is told of them either once a report with a garbled id is stored. -/
theorem pull_lost :
    let source : Source :=
      ⟨"wifi", .primary, false, .issueOnly ⟨"net", .criticalWarning, true, true⟩⟩
    let setup : Setup := ⟨⟨[⟨"network", .hidden, none, none, .none, [source]⟩]⟩, .configured,
      ⟨true, true, [], .default, false⟩⟩
    let report : Operation := .setSourceData ⟨"wifi", 1⟩ (.object []) none
    let x := ((run brittle setup report).run (.initial setup.settings, ())).2
    let stuck := ((run silent setup garbledReport).run (.initial setup.settings, ())).2
    Reached brittle setup False [⟨.initial setup.settings, report⟩] x ∧
      x.1.held = false ∧ (x.1.state.snapshot setup ⟨1, []⟩).sources.length = 1 ∧
      ((run brittle setup (.pullSafetyState [⟨1, []⟩])).run x).1.toOption = none ∧
      Reached silent setup True [⟨.initial setup.settings, garbledReport⟩] stuck ∧
      ((run silent setup (.pullSafetyState [⟨1, []⟩])).run stuck).1.toOption = none := by
  intro source setup report x stuck
  exact ⟨(Reached.start ()).quietly 0 (by decide +kernel), by decide +kernel, by decide +kernel,
    by decide +kernel, (Reached.start ()).quietly 0 (by decide +kernel), by decide +kernel⟩

end Hub

end SafetyBoard
