import SafetyBoard.Proofs.Dismissal.Mirror
import SafetyBoard.Proofs.Hub.Restore
import SafetyBoard.Proofs.Hub.Silence

/-!
# Sending a report again

A report that is accepted leaves a state in which it is stored, nothing of its source is in flight
and its records are those of its issues. To send it once more finds all of that as it would make it,
at whatever time it comes.
-/

namespace SafetyBoard

namespace HubState

variable {setup : Setup} {s : HubState}

theorem Sound.acceptReport_again (sound : s.Sound setup) (key : SourceKey) {report : Report}
    (spelled : report.isSpelled = true) (now later : Number) : ∃ line,
      (s.withReport key report now).acceptReport key report none later =
        ⟨[(s.withReport key report now, .log line)], s.withReport key report now, false⟩ := by
  let t := s.withReport key report now
  have keyed : t.store.Keyed := sound.store.keyed.take key report
  have stored : t.store.set key report = (false, t.store) := by
    have unchanged : (t.store.set key report).1 = false := by
      rw [ReportStore.set_unchanged, s.withReport_hasError, s.withReport_get?]
      simp
    exact Prod.ext unchanged (keyed.set_of_unchanged key report unchanged)
  have cleared : t.store.clearActionsInFlight key = (false, t.store) := by
    have unchanged : (t.store.clearActionsInFlight key).1 = false := by
      rw [show t = _ from s.withReport_of_spelled key spelled now]
      exact (sound.store.keyed.set key report).clearActionsInFlight_again key
    exact Prod.ext unchanged (ReportStore.clearActionsInFlight_unchanged unchanged)
  have mirrored : t.ledger.sync key report.issueIds (.ofNumber later) = t.ledger := by
    rw [show t.ledger = s.ledger.sync key report.issueIds (.ofNumber now) from rfl,
      ← Text.spelledPrefix_of_all spelled]
    exact DismissalLedger.sync_again sound.ledger (.ofNumber later)
  refine ⟨.line .debug tag "Source data set"
    (some (keyContext key ++ ([("reportChanged", .bool false)] : LogContext))), ?_⟩
  change t.acceptReport key report none later = _
  rw [acceptReport, stored]
  dsimp only
  rw [cleared, mirrored]
  rfl

end HubState

def Host.OnlyLooks {σ : Type} (host : Host σ) : Prop :=
  ∀ listener view, Act.Moves (fun x y => y.1 = x.1) (host.listen listener view)

namespace Hub

open HubAct

variable {σ : Type} {host : Host σ} {setup : Setup} {x : Hub × σ} {key : SourceKey}
  {payload : Json} {report : Report}

/-- A report that is accepted makes its change, and then the listeners are told if it is one. -/
theorem run_setSourceData (host : Host σ) (enabled : setup.settings.enabled = true)
    (free : x.1.held = false)
    (accepted : x.1.state.acceptPayload setup.registry key payload = .ok report)
    (spelled : report.isSpelled = true) :
    let c := x.1.state.acceptReport key report none (host.now x.2)
    (run host setup (.setSourceData key payload none)).run x =
      (do notifyIf host setup c.result; return .flag c.result : HubAct σ Answer).run
        ({ x.1 with state := c.after }, host.heard c.signals x.2) := by
  intro c
  have entered : (gate.run (applyData host setup key payload none)).run x =
      (.ok c.result, { x.1 with state := c.after }, host.heard c.signals x.2) := by
    refine run_gate_of_ran free ?_
    rw [run_applyData host (x := ({ x.1 with held := true }, x.2)) accepted, if_pos spelled]
    exact run_perform_of_quiet host _ rfl
  rw [run, ← bind_pure_comp, setSourceData, bind_assoc, run_requireEnabled_bind x enabled,
    bind_assoc, Act.run_bind_ok entered, bind_assoc]
  rfl

theorem accepted_of_setSourceData {answer : Answer} {w : Hub × σ}
    (succeeded : (run host setup (.setSourceData key payload none)).run x = (.ok answer, w)) :
    setup.settings.enabled = true ∧ x.1.held = false ∧
      ∃ report, x.1.state.acceptPayload setup.registry key payload = .ok report ∧
        report.isSpelled = true := by
  obtain ⟨changed, ran, -⟩ := Act.run_map_eq_ok succeeded
  obtain ⟨enabled, ran⟩ := run_requireEnabled_eq_ok ran
  obtain ⟨_, _, entered, -⟩ := Act.run_bind_eq_ok ran
  obtain ⟨free, z, applied, -⟩ := run_gate_eq_ok entered
  obtain ⟨spelled, now, c, changes, -⟩ := applyData_made enabled applied
  cases HubState.accepts_of_messageChange? changes with
  | sourceData _ accepted => exact ⟨enabled, free, _, accepted, spelled _ accepted⟩

theorem view_keeps (host : Host σ) (setup : Setup) (group : UserGroup) :
    Act.Moves (fun x y => y.1 = x.1) (view host setup group) := by
  intro x
  by_cases enabled : setup.settings.enabled = true
  · cases free : x.1.held with
    | true =>
      rw [view, if_pos enabled, Gate.run_of_held gate _ free]
    | false => rw [run_view_of_free host enabled free group]
  · rw [view, if_neg enabled]
    rfl

theorem notifyIf_keeps (looks : host.OnlyLooks) (setup : Setup) (changed : Bool) :
    Act.Moves (fun x y => y.1 = x.1) (notifyIf host setup changed) := by
  have refl (x : Hub × σ) : x.1 = x.1 := rfl
  have trans (x y z : Hub × σ) (h : y.1 = x.1) (k : z.1 = y.1) : z.1 = x.1 := k.trans h
  rw [notifyIf]
  split
  · refine Act.moves_bind trans (Act.moves_get refl) fun _ => Act.moves_forM refl trans ?_
    intro subscription _
    refine Act.moves_tryCatch trans ?_ fun f _ => rfl
    exact Act.moves_bind trans (view_keeps host setup _) fun v => looks _ v
  · exact Act.moves_pure refl ()

/-- To send a report again is to do nothing. However the hub came to its state, if it accepts a
report then it makes one change, of which the listeners are told if it is one; and at any later
time, as long as nothing else has changed the state, it takes the same report for no change, tells
nobody and is in all of its parts what it was. Listeners that only look change nothing. -/
theorem resending_changes_nothing {faultless : Prop} {history : List Entered}
    (ran : Execution setup faultless (.initial setup.settings) history x.1.state)
    {answer : Answer} {w : Hub × σ}
    (succeeded : (run host setup (.setSourceData key payload none)).run x = (.ok answer, w)) :
    ∃ (changed : Bool) (y : Hub × σ), answer = .flag changed ∧
      (run host setup (.setSourceData key payload none)).run x =
        (do notifyIf host setup changed; return .flag changed : HubAct σ Answer).run y ∧
      y.1 = { x.1 with state := y.1.state } ∧
      (host.OnlyLooks → w.1 = y.1 ∧ w.1.held = false) ∧
      ∀ z : Hub × σ, z.1.state = y.1.state → z.1.held = false →
        ∃ line, (run host setup (.setSourceData key payload none)).run z =
          (.ok (.flag false), z.1, host.log line z.2) := by
  obtain ⟨enabled, free, report, accepted, spelled⟩ := accepted_of_setSourceData succeeded
  have sound := (HubState.sound_initial setup).execution ran
  have first := run_setSourceData host enabled free accepted spelled
  let c := x.1.state.acceptReport key report none (host.now x.2)
  let y : Hub × σ := ({ x.1 with state := c.after }, host.heard c.signals x.2)
  have made : c.after = x.1.state.withReport key report (host.now x.2) :=
    (x.1.state.withReport_of_spelled key spelled (host.now x.2)).symm
  obtain ⟨_, told, notified, ended⟩ := Act.run_bind_eq_ok (first.symm.trans succeeded)
  cases ended
  refine ⟨c.result, y, rfl, first, rfl, fun looks => ?_, fun z same released => ?_⟩
  · have kept := notifyIf_keeps looks setup c.result y
    rw [notified] at kept
    exact ⟨kept, (congrArg Hub.held kept).trans free⟩
  · have accepted_again : z.1.state.acceptPayload setup.registry key payload = .ok report := by
      rw [same]
      exact accepted
    obtain ⟨line, again⟩ :=
      sound.acceptReport_again key spelled (host.now x.2) (host.now z.2)
    have same : z.1.state = c.after := same
    rw [← made, ← same] at again
    refine ⟨line, (run_setSourceData host enabled released accepted_again spelled).trans ?_⟩
    rw [again]
    rfl

/-- A host like a diary, but its listener answers the first view that it gets with an operation. -/
def answering (setup : Setup) (operation : Operation) : Host Diary :=
  { diary with
    listen := fun listener view => do
      diary.listen listener view
      if (← get).2.views.length = 1 then discard (run diary setup operation) }

/-- A listener that answers with another report undoes the first one, and so it is a change to send
that again. -/
theorem resent_after_answer :
    let source : Source :=
      ⟨"wifi", .primary, false, .issueOnly ⟨"net", .criticalWarning, true, true⟩⟩
    let setup : Setup := ⟨⟨[⟨"network", .hidden, none, none, .none, [source]⟩]⟩, .configured,
      ⟨true, true, [], .default, false⟩⟩
    let issue : Json := .object [("id", .string "open"), ("typeId", .string "network"),
      ("severity", .string "recommendation"), ("title", .string "Open"),
      ("summary", .string "Anyone can listen")]
    let report (issues : List Json) : Operation :=
      .setSourceData ⟨"wifi", 1⟩ (.object [("issues", .array issues)]) none
    let host := answering setup (report [])
    let x := ((subscribe 7 ⟨1, []⟩).run (.initial setup.settings, (⟨[], [], []⟩ : Diary))).2
    let y := (run host setup (report [issue])).run x
    let z := (run host setup (report [issue])).run y.2
    Reached host setup True [] x ∧ y.1.toOption = some (.flag true) ∧
      z.1.toOption = some (.flag true) ∧ z.2.1.state ≠ y.2.1.state ∧
      y.2.2.views.length < z.2.2.views.length := by
  intro source setup issue report host x y z
  exact ⟨(Reached.start (⟨[], [], []⟩ : Diary)).subscribe 7 ⟨1, []⟩, by decide +kernel,
    by decide +kernel, by decide +kernel, by decide +kernel⟩

def clock : Host Number where
  now h := h
  unique h := ("u", h)
  log _ h := h
  cancel _ h := h
  schedule _ _ h := (0, h)
  emit _ := pure ()
  request _ := pure ()
  listen _ _ := pure ()
  onError _ _ := pure ()
  mayPost _ := 0

theorem clock_orderly (setup : Setup) (faultless : Prop) : clock.Orderly setup faultless where
  emit := fun _ => Act.moves_pure Stays.refl ()
  emit_ok := fun _ _ _ _ => rfl
  request := fun _ => Act.moves_pure Proceeds.refl ()
  listen := fun _ _ => Act.moves_pure Proceeds.refl ()
  onError := fun _ _ => Act.moves_pure Proceeds.refl ()

/-- A report comes a second time while its action is in flight and other records were imported, and
that changes something; then it comes once more, a while later. -/
theorem resending_changes_nothing_imported :
    let source : Source :=
      ⟨"wifi", .primary, false, .issueOnly ⟨"net", .criticalWarning, true, true⟩⟩
    let setup : Setup := ⟨⟨[⟨"network", .hidden, none, none, .none, [source]⟩]⟩, .configured,
      ⟨true, true, [], .default, false⟩⟩
    let payload : Json := .object [("issues", .array [.object [("id", .string "open"),
      ("typeId", .string "network"), ("severity", .string "recommendation"),
      ("title", .string "Open"), ("summary", .string "Anyone can listen"),
      ("actions", .array [.object [("id", .string "leave"), ("label", .string "Leave")]])]])]
    let report : Operation := .setSourceData ⟨"wifi", 1⟩ payload none
    let v := ((run clock setup report).run (.initial setup.settings, 1)).2
    let w := ((run clock setup (.executeIssueAction ⟨"wifi", "open", 1⟩ "leave")).run v).2
    let x := ((run clock setup (.importRecords [⟨"wifi/old@1", ⟨some 5⟩, none, 0, none⟩])).run w).2
    let y := (run clock setup report).run x
    x.1.state ≠ y.2.1.state ∧
      (run clock setup report).run (y.2.1, 7) = (.ok (.flag false), y.2.1, 7) := by
  intro source setup payload report v w x y
  have orderly := clock_orderly setup False
  obtain ⟨_, sent⟩ := (Reached.start 1).next orderly report
  obtain ⟨_, launched⟩ := sent.next orderly (.executeIssueAction ⟨"wifi", "open", 1⟩ "leave")
  obtain ⟨_, reached⟩ := launched.next orderly
    (.importRecords [⟨"wifi/old@1", ⟨some 5⟩, none, 0, none⟩])
  have reached : Reached clock setup False _ x := reached
  let issue : Issue := ⟨"open", "network", .recommendation, .general, "Open",
    "Anyone can listen", none, [⟨"leave", "Leave", false, none, none⟩]⟩
  have accepted : x.1.state.acceptPayload setup.registry ⟨"wifi", 1⟩ payload =
      .ok ⟨none, [issue]⟩ := by decide +kernel
  obtain ⟨changed, h, taken⟩ := run_setSourceData_unheard clock rfl (reached.free orderly)
    (by decide +kernel) x.1.state.unasked_none accepted rfl
  have changes : x.1.state ≠ y.2.1.state := by decide +kernel
  obtain ⟨after, taken⟩ : ∃ after, y = (.ok (.flag changed), after) := ⟨_, taken⟩
  obtain ⟨-, z, -, -, -, looks, again⟩ :=
    resending_changes_nothing (reached.execution orderly) taken
  obtain ⟨kept, released⟩ := looks fun _ _ _ => rfl
  obtain ⟨line, ran⟩ := again (after.1, 7) (congrArg Hub.state kept) released
  refine ⟨changes, ?_⟩
  rw [taken]
  exact ran

end Hub

end SafetyBoard
