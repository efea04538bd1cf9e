import SafetyBoard.Proofs.Dismissal.Persistence
import SafetyBoard.Proofs.Hub.Sound
import SafetyBoard.Proofs.Hub.Stale
import SafetyBoard.Proofs.Report.Reading
import SafetyBoard.Proofs.View.Reads

/-!
# Backup and restore

A hub is set up again from the records that another one handed out and from the reports that were
stored there. The records pass every check, since each of them is new, dismissed or loaded before;
the reports are accepted, since their sources may make them again as they were stored, and stored
without a fault as long as no issue id is garbled; and a report syncs only the records of its own
source, of which it drops none that an issue of the report has. So each group is shown the same
issues, whatever the order in which the reports come.
-/

namespace SafetyBoard

namespace DismissalRecord.Lasting

variable {P : DismissalRecord → Prop} {setup : Setup} {s t : HubState}

theorem writes (lasting : Lasting P) (h : s.ledger.Every P) {operation : Operation}
    (writes : Writes setup s operation t) : t.ledger.Every P := by
  cases writes with
  | idle _ _ same | refresh _ same | error _ _ _ same | timeout _ _ same | launch _ _ _ _ same
  | relaunch _ same | saving same =>
    rw [same.ledger]
    exact h
  | report now _ _ _ same =>
    rw [same.ledger]
    exact h.sync lasting _ _ (.ofNumber now)
  | removal _ same =>
    rcases same with same | same
    all_goals
      rw [same.ledger]
      exact h.keep _
  | dismissal now _ _ same =>
    rw [same.ledger]
    exact h.dismiss lasting _ _ (.ofNumber now)
  | clearing same =>
    rw [same.ledger]
    exact Table.every_empty _
  | loading loaded same =>
    rw [same.ledger]
    exact DismissalLedger.every_load lasting loaded

/-- Whatever is done to a hub, what holds of its records goes on to hold of all of them. -/
theorem execution (lasting : Lasting P) (h : s.ledger.Every P) {faultless : Prop}
    {history : List Entered} (ran : Execution setup faultless s history t) : t.ledger.Every P := by
  induction ran with
  | refl => exact h
  | enter _ step ih => exact lasting.writes ih step.writes
  | subscribe _ _ ih => exact ih

end DismissalRecord.Lasting

namespace Hub

open HubAct

variable {σ : Type} {host : Host σ} {setup : Setup} {x : Hub × σ}

theorem run_notify_unheard (unheard : x.1.subscriptions = []) :
    (notify host setup).run x = (.ok (), x) := by
  rw [notify, Act.run_bind_ok (Act.run_get x), unheard]
  rfl

theorem run_notifyIf_unheard (unheard : x.1.subscriptions = []) (changed : Bool) :
    (notifyIf host setup changed).run x = (.ok (), x) := by
  rw [notifyIf]
  split
  · exact run_notify_unheard unheard
  · rfl

theorem run_exportRecords (host : Host σ) (setup : Setup) (free : x.1.held = false) :
    (run host setup .exportRecords).run x = (.ok (.records x.1.state.ledger.persisted),
      { x.1 with state := { x.1.state with ledger := x.1.state.ledger.markSaved } }, x.2) := by
  refine Act.run_map_ok (run_gate_of_ran free ?_) Answer.records
  rw [run_getState_bind]
  exact run_perform_of_quiet host _ rfl

theorem run_importRecords (host : Host σ) (setup : Setup) (free : x.1.held = false)
    {records : List PersistedRecord} {ledger : DismissalLedger}
    (loaded : DismissalLedger.load records = .ok ledger) :
    ∃ h, (run host setup (.importRecords records)).run x =
      ((fun _ => Answer.nothing) <$> notify host setup).run
        ({ x.1 with state := { x.1.state with ledger } }, h) := by
  refine ⟨host.logged (DismissalLedger.loadLines records) x.2, ?_⟩
  rw [run, importRecords, ← bind_pure_comp, ← bind_pure_comp, bind_assoc]
  refine Act.run_bind_ok (a := ()) (run_gate_of_ran free ?_) _
  rw [applyImport, Act.run_bind_ok (run_forM_log host _ _), run_getState_bind,
    HubState.importRecords, loaded]
  exact run_perform_of_quiet host _ rfl

theorem run_importRecords_unheard (host : Host σ) (setup : Setup) (free : x.1.held = false)
    (unheard : x.1.subscriptions = [])
    {records : List PersistedRecord} {ledger : DismissalLedger}
    (loaded : DismissalLedger.load records = .ok ledger) :
    ∃ h, (run host setup (.importRecords records)).run x =
      (.ok .nothing, { x.1 with state := { x.1.state with ledger } }, h) := by
  obtain ⟨h, imported⟩ := run_importRecords host setup free loaded
  let y : Hub × σ := ({ x.1 with state := { x.1.state with ledger } }, h)
  have told : (notify host setup).run y = (.ok (), y) := run_notify_unheard unheard
  exact ⟨h, imported.trans (Act.run_map_ok told fun _ => Answer.nothing)⟩

/-- A report that is accepted while no session waits for it is stored, and that is all. -/
theorem run_setSourceData_unheard (host : Host σ) (enabled : setup.settings.enabled = true)
    (free : x.1.held = false) (unheard : x.1.subscriptions = []) {session : Option String}
    (unasked : x.1.state.Unasked session) {key : SourceKey} {payload : Json} {report : Report}
    (accepted : x.1.state.acceptPayload setup.registry key payload = .ok report)
    (spelled : report.isSpelled = true) :
    ∃ changed h, (run host setup (.setSourceData key payload session)).run x =
      (.ok (.flag changed),
        { x.1 with state := x.1.state.withReport key report (host.now x.2) }, h) := by
  obtain ⟨changed, lines, entered⟩ := run_applyData_unasked host free unasked accepted spelled
  let y : Hub × σ := ({ x.1 with state := x.1.state.withReport key report (host.now x.2) },
    host.logged lines x.2)
  have told : (notifyIf host setup changed).run y = (.ok (), y) :=
    run_notifyIf_unheard (x := y) unheard changed
  refine ⟨changed, y.2, Act.run_map_ok ?_ Answer.flag⟩
  rw [setSourceData, run_requireEnabled_bind x enabled, Act.run_bind_ok entered,
    Act.run_bind_ok told]
  rfl

end Hub

/-- A report that is handed over as it was stored, in a session or in none, and the state of the
host when that is done. -/
structure Handover (σ : Type) where
  stored : StoredReport
  session : Option String
  host : σ

namespace Hub

variable {σ : Type}

def handOver (host : Host σ) (setup : Setup) (hub : Hub) : List (Handover σ) → Option Hub
  | [] => some hub
  | next :: rest =>
    match (run host setup (.setSourceData next.stored.key next.stored.report.toJson
        next.session)).run (hub, next.host) with
    | (.ok _, taken) => handOver host setup taken.1 rest
    | (.error _, _) => none

/-- A hub that knows what another one knew of the sources whose reports it took, and what was
dismissed there. -/
structure Restoring (setup : Setup) (s : HubState) (taken : List SourceKey) (hub : Hub) : Prop where
  free : hub.held = false
  unheard : hub.subscriptions = []
  unasked : hub.state.coordinator.currentId? = none
  groups : hub.state.groups = ∅
  sound : hub.state.Sound setup
  report : ∀ key, hub.state.store.get? key = if key ∈ taken then s.store.get? key else none
  inFlight : ∀ action, hub.state.store.isActionInFlight action = false
  dismissed : ∀ issue severity,
    (∀ report, s.store.get? issue.source = some report →
      (issue.issueId : Text) ∈ report.issueIds) →
      hub.state.ledger.isDismissed issue severity = s.ledger.isDismissed issue severity

variable {host : Host σ} {setup : Setup} {s : HubState} {taken : List SourceKey} {hub : Hub}

theorem restoring_loaded (sound : s.ledger.Sound) :
    Restoring setup s [] { Hub.initial setup.settings with
      state := { HubState.initial setup.settings with ledger := ⟨s.ledger.records, false⟩ } } where
  free := rfl
  unheard := rfl
  unasked := rfl
  groups := rfl
  sound := (HubState.sound_initial setup).withLedger sound.markSaved
  report := fun _ => (if_neg List.not_mem_nil).symm
  inFlight := fun _ => rfl
  dismissed := fun _ _ _ => rfl

theorem Restoring.withReport (h : Restoring setup s taken hub) {key : SourceKey} {report : Report}
    (stored : s.store.get? key = some report) (admits : setup.Admits key report) (now : Number) :
    Restoring setup s (taken ++ [key])
      { hub with state := hub.state.withReport key report now } where
  free := h.free
  unheard := h.unheard
  unasked := h.unasked
  groups := h.groups
  sound := h.sound.withReport admits now
  report := by
    intro k
    have written : (hub.state.withReport key report now).store.get? k =
        if key = k then some report else hub.state.store.get? k :=
      hub.state.store.get?_take key report k
    rw [written]
    by_cases own : key = k
    · subst own
      rw [if_pos rfl, if_pos (List.mem_append_right _ List.mem_cons_self), stored]
    · rw [if_neg own, h.report]
      simp [Ne.symm own]
  inFlight := by
    intro action
    have taken := ReportStore.isActionInFlight_take key report h.sound.store.keyed action
    exact taken.trans (by simp [h.inFlight])
  dismissed := by
    intro issue severity reported
    have kept := h.dismissed issue severity reported
    have synced := DismissalLedger.isDismissed_sync h.sound.ledger key report.issueIds
      (.ofNumber now) issue severity
    rw [← kept, Bool.eq_iff_iff]
    refine synced.trans (and_iff_left fun own => ?_)
    obtain rfl := (SourceKey.same_iff.mp own).1
    exact reported report stored

/-- A stored report is accepted again where no profile is known. -/
theorem Restoring.accepts (h : Restoring setup s taken hub) {key : SourceKey} {report : Report}
    (admits : setup.Admits key report) :
    hub.state.acceptPayload setup.registry key report.toJson = .ok report := by
  obtain ⟨-, source, payload, known, accepted⟩ := admits
  have again := (source.accept_toJson accepted).2
  have unknown : hub.state.isForeignProfile key.userId = false := by
    rw [HubState.isForeignProfile, h.groups]
    rfl
  rw [HubState.acceptPayload, known]
  dsimp only
  rw [unknown, Bool.and_false, if_neg Bool.false_ne_true, again]

/-- All stored reports that are handed over are taken, in whatever order they come. -/
theorem Restoring.handOver (h : Restoring setup s taken hub) (host : Host σ)
    (enabled : setup.settings.enabled = true)
    (admitted : ∀ key report, s.store.get? key = some report → setup.Admits key report)
    (given : List (Handover σ))
    (spelled : ∀ key report, s.store.get? key = some report → report.isSpelled = true)
    (stored : ∀ g ∈ given, s.store.get? g.stored.key = some g.stored.report) :
    ∃ restored, handOver host setup hub given = some restored ∧
      Restoring setup s (taken ++ given.map (·.stored.key)) restored := by
  induction given generalizing taken hub with
  | nil => exact ⟨hub, rfl, (List.append_nil taken).symm ▸ h⟩
  | cons next rest ih =>
    have own := stored next List.mem_cons_self
    have admits := admitted _ _ own
    have unasked : hub.state.Unasked next.session := by
      intro id _ current
      rw [h.unasked] at current
      cases current
    obtain ⟨changed, h', ran⟩ := run_setSourceData_unheard (x := (hub, next.host)) host enabled
      h.free h.unheard unasked (h.accepts admits) (spelled _ _ own)
    obtain ⟨restored, took, restoring⟩ := ih (h.withReport own admits (host.now next.host))
      fun g member => stored g (List.mem_cons_of_mem _ member)
    refine ⟨restored, ?_, ?_⟩
    · rw [Hub.handOver, ran]
      exact took
    · rwa [List.append_assoc, List.singleton_append] at restoring

/-- With all reports taken, every group is shown the issues that the other hub would show it. -/
theorem Restoring.issues (h : Restoring setup s taken hub)
    (complete : ∀ key report, s.store.get? key = some report → key ∈ taken) {original : Setup}
    (registry : setup.registry = original.registry) (group : UserGroup) :
    (hub.state.draw setup group).map (·.issues) =
      (s.draw original group).map fun v => v.issues.map (View.flagged fun _ => false) := by
  have same : View.SameIssues setup.registry group s.store hub.state.store s.ledger
      hub.state.ledger := by
    constructor
    · intro key _
      rw [h.report]
      split
      · rfl
      · next missing =>
        cases stored : s.store.get? key with
        | none => rfl
        | some report => exact absurd (complete key report stored) missing
    · intro key report issue _ stored member named
      apply h.dismissed
      intro other found
      cases stored.symm.trans found
      exact named ▸ List.mem_map_of_mem member
  have idle : hub.state.store.isActionInFlight = fun _ => false := funext h.inFlight
  have issues : View.issueList setup.registry hub.state.store hub.state.ledger group =
      (View.issueList setup.registry s.store s.ledger group).map (View.flagged fun _ => false) := by
    rw [← idle]
    exact View.issueList_flagged same
  rw [HubState.draw, HubState.draw, View.draw, View.draw, ← registry, View.isDrawable_congr same]
  split
  · exact congrArg Except.ok issues
  · rfl

/-- Backup and restore keep what is seen. However an enabled hub came to its state, where the users
of its records have ids that are written in digits and no stored report has a garbled issue id, a
fresh one over the same sources loads the records that it hands out, and then accepts its stored
reports, in any order and at any time. After that every group is shown the issues that it is shown
by the first hub, in their order, with no action in flight. -/
theorem backup_restores_issues {host : Host σ} {setup : Setup}
    (enabled : setup.settings.enabled = true) {faultless : Prop} {history : List Entered}
    {x : Hub × σ} (ran : Execution setup faultless (.initial setup.settings) history x.1.state)
    (free : x.1.held = false)
    (numbered : x.1.state.ledger.Every fun r => r.issue.userId.Numbered)
    (spelled : ∀ key report, x.1.state.store.get? key = some report → report.isSpelled = true)
    {setup' : Setup} (registry : setup'.registry = setup.registry)
    (enabled' : setup'.settings.enabled = true) {σ' : Type} (host' : Host σ') :
    ∃ records y, (run host setup .exportRecords).run x = (.ok (.records records), y) ∧
      ∀ h : σ', ∃ z, (run host' setup' (.importRecords records)).run
          (.initial setup'.settings, h) = (.ok .nothing, z) ∧
        ∀ given : List (Handover σ'),
          (∀ stored, stored ∈ given.map (·.stored) ↔ stored ∈ x.1.state.store.reports.values) →
          ∃ restored, handOver host' setup' z.1 given = some restored ∧
            ∀ group h', ∃ (looked looked' : Except Fault View) (g : σ) (g' : σ'),
              (run host setup (.view group)).run x = (looked.map .view, x.1, g) ∧
              (run host' setup' (.view group)).run (restored, h') =
                (looked'.map .view, restored, g') ∧
              looked'.map (·.issues) =
                looked.map fun v => v.issues.map (View.flagged fun _ => false) := by
  have sound := (HubState.sound_initial setup).execution ran
  have none : (HubState.initial setup.settings).ledger.Every DismissalRecord.Regular :=
    Table.every_empty _
  have regular := DismissalRecord.regular_lasting.execution none ran
  have loaded := DismissalLedger.load_persisted sound.ledger regular numbered
  refine ⟨_, _, run_exportRecords host setup free, fun h => ?_⟩
  obtain ⟨h', imported⟩ := run_importRecords_unheard host' setup'
    (x := (.initial setup'.settings, h)) rfl rfl loaded
  refine ⟨_, imported, fun given all => ?_⟩
  have admitted (key : SourceKey) (report : Report)
      (stored : x.1.state.store.get? key = some report) : setup'.Admits key report := by
    obtain ⟨-, source, payload, known, accepted⟩ := sound.admitted key report stored
    exact ⟨enabled', source, payload, registry ▸ known, accepted⟩
  have all (stored : StoredReport) : stored ∈ given.map (·.stored) ↔
      x.1.state.store.get? stored.key = some stored.report :=
    (all stored).trans (ReportStore.mem_reports sound.store.keyed)
  obtain ⟨restored, took, restoring⟩ := (restoring_loaded sound.ledger).handOver host'
    enabled' admitted given spelled fun g member => (all _).mp (List.mem_map_of_mem member)
  refine ⟨restored, took, fun group h' => ?_⟩
  obtain ⟨g, viewed⟩ := run_view host enabled free group
  obtain ⟨g', viewed'⟩ := run_view host' enabled' (x := (restored, h')) restoring.free group
  refine ⟨_, _, g, g', viewed, viewed', restoring.issues (fun key report stored => ?_)
    registry group⟩
  obtain ⟨given, member, same⟩ := List.mem_map.mp ((all ⟨key, report⟩).mpr stored)
  exact List.mem_map.mpr ⟨given, member, congrArg StoredReport.key same⟩

/-- A record of a source that is gone comes along, a dismissed issue stays hidden, and the action
that was launched may be launched again. -/
theorem backup_restores_issues_launched :
    let source : Source :=
      ⟨"wifi", .primary, false, .issueOnly ⟨"net", .criticalWarning, true, true⟩⟩
    let setup : Setup := ⟨⟨[⟨"network", .hidden, none, none, .none, [source]⟩]⟩, .configured,
      ⟨true, true, [], .default, false⟩⟩
    let issue (id : String) : Json := .object [("id", .string id), ("typeId", .string "network"),
      ("severity", .string "recommendation"), ("title", .string "Open"),
      ("summary", .string "Anyone can listen"), ("actions", .array [.object
        [("id", .string "leave"), ("label", .string "Leave")]])]
    let u := ((run diary setup (.importRecords [⟨"gone/old@1", ⟨some 0⟩, none, 0, none⟩])).run
      (.initial setup.settings, (⟨[], [], []⟩ : Diary))).2
    let w := ((run diary setup (.setSourceData ⟨"wifi", 1⟩ (.object [("issues", .array
      [issue "open", issue "weak"])]) none)).run u).2
    let x := ((run diary setup (.dismissIssue ⟨"wifi", "weak", 1⟩)).run w).2
    let y := ((run diary setup (.executeIssueAction ⟨"wifi", "open", 1⟩ "leave")).run x).2
    let given : List (Handover Unit) :=
      y.1.state.store.reports.values.map fun stored => ⟨stored, some "over", ()⟩
    ∃ records z z' restored,
      (run diary setup .exportRecords).run y = (.ok (.records records), z) ∧
      records.length = 3 ∧
      (run silent setup (.importRecords records)).run (.initial setup.settings, ()) =
        (.ok .nothing, z') ∧
      handOver silent setup z'.1 given = some restored ∧
      ∃ v v' h h', (run diary setup (.view ⟨1, []⟩)).run y = (.ok (.view v), y.1, h) ∧
        v.issues.map (fun i => (i.key.issueId, i.actions.map (·.inFlight))) = [("open", [true])] ∧
        (run silent setup (.view ⟨1, []⟩)).run (restored, ()) = (.ok (.view v'), restored, h') ∧
        v'.issues = v.issues.map (View.flagged fun _ => false) := by
  intro source setup issue u w x y given
  have orderly := diary_orderly setup False
  have loaded : Reached diary setup False _ u :=
    (Reached.start (⟨[], [], []⟩ : Diary)).quietly 0 (by decide +kernel)
  have reported : Reached diary setup False _ w := loaded.quietly 0 (by decide +kernel)
  have dismissed : Reached diary setup False _ x := reported.quietly 0 (by decide +kernel)
  have launched : Reached diary setup False _ y := dismissed.quietly 0 (by decide +kernel)
  have free := launched.free orderly
  have enabled : setup.settings.enabled = true := rfl
  have users : ∀ r ∈ y.1.state.ledger.records.values, r.issue.userId = .ofNat 1 := by
    decide +kernel
  have numbered : y.1.state.ledger.Every fun r => r.issue.userId.Numbered :=
    fun text r found => ⟨1, by decide, users r (Table.mem_values_iff.mpr ⟨text, found⟩)⟩
  have spelled (key : SourceKey) (report : Report)
      (stored : y.1.state.store.get? key = some report) : report.isSpelled = true := by
    have all : ∀ stored ∈ y.1.state.store.reports.values, stored.report.isSpelled = true := by
      decide +kernel
    have sound := (HubState.sound_initial setup).execution (launched.execution orderly)
    exact all ⟨key, report⟩ ((ReportStore.mem_reports sound.store.keyed).mpr stored)
  obtain ⟨records, z, exported, restores⟩ := backup_restores_issues enabled
    (launched.execution orderly) free numbered spelled rfl enabled silent
  obtain ⟨z', imported, takes⟩ := restores ()
  have all (reports : List StoredReport) : (reports.map fun stored =>
      (⟨stored, some "over", ()⟩ : Handover Unit)).map (·.stored) = reports := by
    rw [List.map_map]
    exact List.map_id reports
  obtain ⟨restored, took, shows⟩ := takes given fun stored => by
    rw [all]
  obtain ⟨looked, looked', h, h', viewed, viewed', same⟩ := shows ⟨1, []⟩ ()
  have drawable : y.1.state.isDrawable setup ⟨1, []⟩ = true := by decide +kernel
  obtain ⟨g, known⟩ := run_view_of_drawable diary enabled free drawable
  obtain rfl : h = g := congrArg (·.2.2) (viewed.symm.trans known)
  have shown : looked.map Answer.view = .ok (.view (y.1.state.view setup ⟨1, []⟩)) :=
    congrArg Prod.fst (viewed.symm.trans known)
  cases looked with
  | error f => cases shown
  | ok v =>
    obtain rfl : v = y.1.state.view setup ⟨1, []⟩ := Answer.view.inj (Except.ok.inj shown)
    cases looked' with
    | error f => cases same
    | ok v' =>
      refine ⟨records, z, z', restored, exported, ?_, imported, took, _, v', h, h', viewed, ?_,
        viewed', Except.ok.inj same⟩
      · have known := exported.symm.trans (run_exportRecords diary setup free)
        rw [Answer.records.inj (Except.ok.inj (congrArg Prod.fst known))]
        decide +kernel
      · decide +kernel

/-- A fresh hub that knows a group refuses a report of a profile in it, which the other hub accepted
before it knew of the group. And a report with a garbled id is stored, but fails wherever it is
given. -/
theorem restored_report_refused :
    let source : Source :=
      ⟨"wifi", .primary, false, .issueOnly ⟨"net", .criticalWarning, true, true⟩⟩
    let setup : Setup := ⟨⟨[⟨"network", .hidden, none, none, .none, [source]⟩]⟩, .configured,
      ⟨true, true, [], .default, false⟩⟩
    let report : Operation := .setSourceData ⟨"wifi", 10⟩ (.object []) none
    let x := ((run silent setup report).run (.initial setup.settings, ())).2
    let y := ((subscribe 7 ⟨1, [⟨10, true⟩]⟩).run (.initial setup.settings, ())).2
    let z := (run silent setup (.importRecords [])).run y
    let stuck := ((run silent setup garbledReport).run (.initial setup.settings, ())).2
    let fresh := (run silent setup (.importRecords [])).run (.initial setup.settings, ())
    Reached silent setup False [⟨.initial setup.settings, report⟩] x ∧
      x.1.state.store.get? ⟨"wifi", 10⟩ = some ⟨none, []⟩ ∧
      ((run silent setup .exportRecords).run x).1.toOption = some (.records []) ∧
      z.1.toOption = some .nothing ∧ ((run silent setup report).run z.2).1.toOption = none ∧
      Reached silent setup False [⟨.initial setup.settings, garbledReport⟩] stuck ∧
      (stuck.1.state.store.get? ⟨"wifi", 1⟩).map (·.issues.length) = some 1 ∧
      ((run silent setup .exportRecords).run stuck).1.toOption = some (.records []) ∧
      fresh.1.toOption = some .nothing ∧
      ((run silent setup garbledReport).run fresh.2).1.toOption = none := by
  intro source setup report x y z stuck fresh
  refine ⟨(Reached.start ()).quietly 0 (by decide +kernel), by decide +kernel, by decide +kernel,
    by decide +kernel, by decide +kernel, ?_⟩
  exact ⟨(Reached.start ()).quietly 0 (by decide +kernel), by decide +kernel, by decide +kernel,
    by decide +kernel, by decide +kernel⟩

end Hub

end SafetyBoard
