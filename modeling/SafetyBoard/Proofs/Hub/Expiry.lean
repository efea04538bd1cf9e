import SafetyBoard.Proofs.Hub.Sound
import SafetyBoard.Proofs.Hub.Timeout
import SafetyBoard.Proofs.Hub.Told

/-!
# Time runs out

When the time of a session is over, the sources that it still awaits are told to have timed out and
the session is closed. Those that never reported are in error from then on; a report that is stored
stays, as do the actions in flight and what was dismissed. The time of any other session runs out
unnoticed. The error of a source goes with its next report.
-/

namespace SafetyBoard

namespace HubState

variable {s : HubState} {id : String} {now : Number}

/-- The end of a session whose time is over, and the events that tell of it. -/
structure TimesOut (s : HubState) (session : Session) (now : Number) (t : HubState)
    (events : List TelemetryEvent) : Prop where
  errors : ∀ key, t.store.hasError key = true ↔
    s.store.hasError key = true ∨ key ∈ session.keys ∧ s.store.get? key = none
  closed : t.coordinator.session = none
  untimed : t.pending = none
  distinct : session.keys.Nodup
  awaited : session.keys ≠ []
  told : events = session.inFlight.values.map (fun a =>
      .sourceRefresh session.reason.requestType a.key (now - a.since) .timeout) ++
    [.wholeRefresh session.reason.requestType (now - session.startedAt) .timeout]

/-- What becomes of a state when the time of the session with an id is over. -/
structure Expires (s : HubState) (id : String) (now : Number) (t : HubState)
    (events : List TelemetryEvent) : Prop where
  reports : t.store.reports = s.store.reports
  actions : t.store.actionsInFlight = s.store.actionsInFlight
  ledger : t.ledger = s.ledger
  current : ∀ session, s.coordinator.current? id = some session →
    s.TimesOut session now t events
  other : s.coordinator.current? id = none → t = s ∧ events = []

theorem applyTimeout_events (s : HubState) (id : String) (now : Number) :
    (s.applyTimeout id now).events = (s.coordinator.timeout id now).events := by
  dsimp only [applyTimeout]
  rw [Change.events_andThen, Change.events_within, Change.events_nil, List.append_nil]
  split <;> rfl

theorem applyTimeout_of_stale (coupled : s.Coupled) (stale : s.coordinator.current? id = none)
    (now : Number) : (s.applyTimeout id now).after = s := by
  have other : s.pending.any (·.sessionId = id) = false := by
    rcases coupled with ⟨-, none_pending⟩ | ⟨hs, hp, same, -⟩
    · rw [none_pending]
      rfl
    · rw [hp, Option.any_some, same]
      exact decide_eq_false (Coordinator.ne_of_stale hs stale)
  dsimp only [applyTimeout, Change.andThen, Change.within, withCoordinator]
  rw [other, if_neg Bool.false_ne_true, Coordinator.timeout, stale]
  rfl

theorem timeout_result {session : Session} (current : s.coordinator.current? id = some session) :
    (s.coordinator.timeout id now).result = session.keys := by
  rw [Coordinator.timeout, current]
  dsimp only
  split
  · next none => exact ((Session.keys_eq_nil _).mpr none).symm
  · rfl

theorem applyTimeout_timesOut (coupled : s.Coupled) (sound : s.coordinator.Sound)
    {session : Session} (current : s.coordinator.current? id = some session) (now : Number) :
    s.TimesOut session now (s.applyTimeout id now).after (s.applyTimeout id now).events := by
  obtain ⟨open_, own⟩ := Coordinator.current?_eq_some.mp current
  obtain ⟨ended, told⟩ := Coordinator.timeout_of_current current now
  obtain ⟨coordinator, pending⟩ := applyTimeout_after s id now
  have store := (s.applyTimeout_sameData id now).2.store
  rcases coupled with ⟨closed, -⟩ | ⟨hs, hp, same, awaits⟩
  · rw [closed] at open_
    cases open_
  · obtain rfl := Option.some.inj (open_.symm.trans hs)
    refine {
      errors := fun key => ?_
      closed := by rw [coordinator, ended]
      untimed := ?_
      distinct := Session.keys_nodup (sound.keyed session open_)
      awaited := ?_
      told := ?_ }
    · rw [store, withUnanswered_hasError, timeout_result current]
      simp [or_comm]
    · rw [pending, hp, Option.any_some, same, if_pos (decide_eq_true own)]
    · rw [ne_eq, Session.keys_eq_nil, awaits]
      exact Bool.false_ne_true
    · rw [applyTimeout_events, told, awaits, if_neg Bool.false_ne_true]
      rfl

theorem applyTimeout_expires (coupled : s.Coupled) (sound : s.coordinator.Sound) (id : String)
    (now : Number) :
    s.Expires id now (s.applyTimeout id now).after (s.applyTimeout id now).events := by
  obtain ⟨store, ledger, -⟩ := (s.applyTimeout_sameData id now).2
  refine {
    reports := store ▸ withUnanswered_reports s _
    actions := store ▸ withUnanswered_actionsInFlight s _
    ledger
    current := fun session current => applyTimeout_timesOut coupled sound current now
    other := fun stale => ⟨applyTimeout_of_stale coupled stale now, ?_⟩ }
  rw [applyTimeout_events]
  exact (Coordinator.timeout_of_stale stale now).2

end HubState

namespace Hub

open HubAct

variable {σ : Type} {host : Host σ} {setup : Setup} {told : σ → List TelemetryEvent}

/-- What becomes of a report, whether an operation or a message brings it: the listeners may be told,
or both fail over a garbled issue id. -/
def TakesUp (host : Host σ) (setup : Setup) (key : SourceKey) (payload : Json)
    (session : Option String) (report : Report) (x y : Hub × σ) : Prop :=
  if report.isSpelled then
    ∃ changed, (run host setup (.setSourceData key payload session)).run x =
        (do notifyIf host setup changed; return .flag changed : HubAct σ Answer).run y ∧
      ((inbox host setup).handle (.sourceData key payload session)).run x =
        (notifyIf host setup changed).run y
  else
    (run host setup (.setSourceData key payload session)).run x = (.error .malformedUri, y) ∧
      ((inbox host setup).handle (.sourceData key payload session)).run x =
        (.error .malformedUri, y)

section Sink

variable (records : host.Records told) {x : Hub × σ} (free : x.1.held = false)
include records free

theorem run_applyTimeout (setup : Setup) (id : String) :
    let c := x.1.state.applyTimeout id (host.now x.2)
    ∃ h, (gate.run (applyMessage host setup (.refreshTimeout id))).run x =
        (.ok c.result, { x.1 with state := c.after }, h) ∧
      told h = told x.2 ++ emitted setup c.events := by
  intro c
  obtain ⟨h, performed, kept⟩ :=
    run_perform_records records setup c ({ x.1 with held := true }, x.2)
  refine ⟨h, run_gate_of_ran free ?_, kept⟩
  rw [applyMessage, run_getState_bind, run_now_bind]
  exact performed

/-- A report that is accepted is stored, and its source is not in error any more. -/
theorem run_accepted (enabled : setup.settings.enabled = true) {key : SourceKey} {payload : Json}
    {report : Report}
    (accepted : x.1.state.acceptPayload setup.registry key payload = .ok report)
    (session : Option String) :
    ∃ y, TakesUp host setup key payload session report x y ∧
      y.1.state.store.get? key = some report ∧ y.1.state.store.hasError key = false := by
  let c := x.1.state.takeReport key report session (host.now x.2)
  obtain ⟨h, applied⟩ : ∃ h,
      (applyData host setup key payload session).run ({ x.1 with held := true }, x.2) =
        (if report.isSpelled then .ok c.result else .error .malformedUri,
          { x.1 with held := true, state := c.after }, h) := by
    rw [run_applyData host (x := ({ x.1 with held := true }, x.2)) accepted]
    dsimp only [c, HubState.takeReport]
    split
    · obtain ⟨h, performed, -⟩ := run_perform_records records setup
        (x.1.state.acceptReport key report session (host.now x.2)) ({ x.1 with held := true }, x.2)
      exact ⟨h, performed⟩
    · exact ⟨x.2, rfl⟩
  have operated := run_gate_of_ran free applied
  have handled : (gate.run (applyMessage host setup (.sourceData key payload session))).run x = _ :=
    run_gate_of_ran free (by
      rw [applyMessage, run_requireEnabled_bind _ enabled]
      exact applied)
  have ran : (run host setup (.setSourceData key payload session)).run x =
      (do
        let changed ← gate.run (applyData host setup key payload session)
        notifyIf host setup changed
        return .flag changed : HubAct σ Answer).run x := by
    rw [run, ← bind_pure_comp, setSourceData, bind_assoc, run_requireEnabled_bind x enabled]
    simp only [bind_assoc, pure_bind]
  have store := (x.1.state.takeReport_sameData key report session (host.now x.2)).2.store
  refine ⟨({ x.1 with state := c.after }, h), ?_, ?_, ?_⟩
  · rw [TakesUp]
    split
    · next spelled =>
      rw [if_pos spelled] at operated handled
      exact ⟨c.result, ran.trans (Act.run_bind_ok operated _), Act.run_bind_ok handled _⟩
    · next garbled =>
      rw [if_neg garbled] at operated handled
      exact ⟨ran.trans (Act.run_bind_error operated _), Act.run_bind_error handled _⟩
  · rw [store, HubState.withReport_get?, if_pos rfl]
  · rw [store, HubState.withReport_hasError]
    simp

end Sink

theorem run_timeout_keeps {faultless : Prop} (orderly : host.Orderly setup faultless) {x : Hub × σ}
    (free : x.1.held = false) (id : String) :
    let y := ((gate.run (applyMessage host setup (.refreshTimeout id))).run x).2
    y.1.state.store.reports = x.1.state.store.reports ∧
      y.1.state.store.actionsInFlight = x.1.state.store.actionsInFlight ∧
      y.1.state.ledger = x.1.state.ledger := by
  intro y
  have entered : Step setup faultless x.1.state (.receive (.refreshTimeout id)) _ ∧ _ :=
    applyMessage_enters orderly rfl (gate.setHeld true x) rfl
  have left : y = gate.setHeld false _ :=
    congrArg Prod.snd (Gate.run_of_free gate (applyMessage host setup (.refreshTimeout id)) free)
  rw [left]
  cases entered.1.writes with
  | idle _ _ same => exact ⟨congrArg _ same.store, congrArg _ same.store, same.ledger⟩
  | timeout keys _ same =>
    exact ⟨(congrArg _ same.store).trans (HubState.withUnanswered_reports ..),
      (congrArg _ same.store).trans (HubState.withUnanswered_actionsInFlight ..), same.ledger⟩
  | report _ sent | error sent | removal sent => cases sent

/-- Running out of time destroys nothing. Whatever was done to a hub, when the time of a session is
over, stored reports, actions in flight and dismissals stay as they are, also where the sink fails.
If it does not fail and the session is open, the sources that it awaits and that have no report are
in error from then on, each source that it awaits is told to have timed out, in their order, and then
the whole refresh; for any other session nothing happens. A report that is accepted later takes the
error away. -/
theorem timeout_destroys_nothing {faultless : Prop} {history : List Entered} {x : Hub × σ}
    (ran : Execution setup faultless (.initial setup.settings) history x.1.state)
    (free : x.1.held = false) (id : String) :
    (host.Orderly setup faultless → ∃ y,
      ((∃ changed, ((inbox host setup).handle (.refreshTimeout id)).run x =
          (notifyIf host setup changed).run y) ∨
        ∃ f, ((inbox host setup).handle (.refreshTimeout id)).run x = (.error f, y)) ∧
      y.1.state.store.reports = x.1.state.store.reports ∧
      y.1.state.store.actionsInFlight = x.1.state.store.actionsInFlight ∧
      y.1.state.ledger = x.1.state.ledger) ∧
    ∀ told, host.Records told →
      (faultless → ∃ changed events y,
        ((inbox host setup).handle (.refreshTimeout id)).run x =
          (notifyIf host setup changed).run y ∧
        y.1 = { x.1 with state := y.1.state } ∧ told y.2 = told x.2 ++ emitted setup events ∧
        x.1.state.Expires id (host.now x.2) y.1.state events) ∧
      ∀ (z : Hub × σ) key payload session report, z.1.held = false →
        setup.settings.enabled = true →
        z.1.state.acceptPayload setup.registry key payload = .ok report →
          ∃ w, TakesUp host setup key payload session report z w ∧
            w.1.state.store.get? key = some report ∧ w.1.state.store.hasError key = false := by
  have sound := ((HubState.sound_initial setup).execution ran).coordinator
  refine ⟨fun orderly => ?_, fun told records => ⟨fun safe => ?_, ?_⟩⟩
  · refine ⟨_, ?_, run_timeout_keeps orderly free id⟩
    rcases entered : (gate.run (applyMessage host setup (.refreshTimeout id))).run x with
      ⟨f | changed, y⟩
    · exact Or.inr ⟨f, Act.run_bind_error entered _⟩
    · exact Or.inl ⟨changed, Act.run_bind_ok entered _⟩
  · obtain rfl := eq_true safe
    have coupled := HubState.coupled_execution ran (.idle rfl rfl)
    obtain ⟨h, entered, kept⟩ := run_applyTimeout records free setup id
    exact ⟨_, _, _, Act.run_bind_ok entered _, rfl, kept,
      HubState.applyTimeout_expires coupled sound id (host.now x.2)⟩
  · intro z key payload session report free enabled accepted
    exact run_accepted records free enabled accepted session

/-- Time runs out for a refresh of two sources, of which one has reported before. The other reports
when it is too late. -/
theorem timeout_destroys_nothing_late :
    let wifi : Source :=
      ⟨"wifi", .primary, false, .issueOnly ⟨"net", .criticalWarning, true, true⟩⟩
    let lock : Source :=
      ⟨"lock", .primary, false, .issueOnly ⟨"keys", .criticalWarning, true, true⟩⟩
    let setup : Setup := ⟨⟨[⟨"network", .hidden, none, none, .none, [wifi, lock]⟩]⟩, .configured,
      ⟨true, true, [], .default, false⟩⟩
    let report : Json := .object [("issues", .array [])]
    let w := ((run diary setup (.setSourceData ⟨"wifi", 1⟩ report none)).run
      (.initial setup.settings, (⟨[], [], []⟩ : Diary))).2
    let x := ((run diary setup (.refresh .rescanButton ⟨1, []⟩)).run w).2
    let z := (((inbox diary setup).handle (.refreshTimeout "u_0")).run x).2
    (∃ changed y, ((inbox diary setup).handle (.refreshTimeout "u_0")).run x =
        (notifyIf diary setup changed).run y ∧
      y.1.state.store.reports = x.1.state.store.reports ∧
      y.1.state.store.hasError ⟨"lock", 1⟩ = true ∧ y.1.state.coordinator.session = none ∧
      y.2.events = [.sourceRefresh .fetchFreshData ⟨"wifi", 1⟩ 0 .timeout,
        .sourceRefresh .fetchFreshData ⟨"lock", 1⟩ 0 .timeout,
        .wholeRefresh .fetchFreshData 0 .timeout]) ∧
    z.1.state.store.hasError ⟨"lock", 1⟩ = true ∧
    ∃ changed v, (run diary setup (.setSourceData ⟨"lock", 1⟩ report (some "u_0"))).run z =
        (do notifyIf diary setup changed; return .flag changed : HubAct Diary Answer).run v ∧
      v.1.state.store.hasError ⟨"lock", 1⟩ = false := by
  intro wifi lock setup report w x z
  have orderly := diary_orderly setup True
  have reported : Reached diary setup True _ w :=
    (Reached.start (⟨[], [], []⟩ : Diary)).quietly 0 (by decide +kernel)
  obtain ⟨entries, reached⟩ := reported.next orderly (.refresh .rescanButton ⟨1, []⟩)
  change Reached diary setup True _ x at reached
  obtain ⟨-, handles⟩ := timeout_destroys_nothing (reached.execution orderly)
    (reached.free orderly) "u_0"
  obtain ⟨expired, later⟩ := handles _ diary_records
  obtain ⟨changed, events, y, handled, -, kept, expires⟩ := expired trivial
  obtain ⟨session, current⟩ : ∃ session, x.1.state.coordinator.current? "u_0" = some session :=
    Option.isSome_iff_exists.mp (by decide +kernel)
  have ended := expires.current session current
  have told : (x.1.state.coordinator.current? "u_0").map (fun session =>
      session.inFlight.values.map (fun a => TelemetryEvent.sourceRefresh
        session.reason.requestType a.key (0 - a.since) .timeout) ++
      [.wholeRefresh session.reason.requestType (0 - session.startedAt) .timeout]) =
      some [.sourceRefresh .fetchFreshData ⟨"wifi", 1⟩ 0 .timeout,
        .sourceRefresh .fetchFreshData ⟨"lock", 1⟩ 0 .timeout,
        .wholeRefresh .fetchFreshData 0 .timeout] := by decide +kernel
  have keys : (x.1.state.coordinator.current? "u_0").map Session.keys =
      some [⟨"wifi", 1⟩, ⟨"lock", 1⟩] := by decide +kernel
  rw [current, Option.map_some, Option.some_inj] at told keys
  have awaited : (⟨"lock", 1⟩ : SourceKey) ∈ session.keys := by
    rw [keys]
    exact List.mem_cons_of_mem _ List.mem_cons_self
  have before : emitted setup events = events := rfl
  have accepted : z.1.state.acceptPayload setup.registry ⟨"lock", 1⟩ report = .ok ⟨none, []⟩ := by
    decide +kernel
  obtain ⟨v, ⟨changed', ran, -⟩, -, cleared⟩ :=
    later z ⟨"lock", 1⟩ report (some "u_0") ⟨none, []⟩ (by decide +kernel) rfl accepted
  refine ⟨⟨changed, y, handled, expires.reports, ?_, ended.closed, ?_⟩, by decide +kernel,
    changed', v, ran, cleared⟩
  · exact (ended.errors _).mpr (Or.inr ⟨awaited, by decide +kernel⟩)
  · have none : x.2.events = [] := by decide +kernel
    rw [kept, none, before]
    exact ended.told.trans told

end Hub

end SafetyBoard
