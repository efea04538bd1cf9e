import SafetyBoard.Proofs.Hub.Onward
import SafetyBoard.Proofs.Hub.Reached

/-!
# Answers to a session that is over

An answer that names a session which is not the open one is taken like an answer that names none:
only the log tells the difference. So whatever the hub does with the two is the same as long as no
listener looks at the log, and a session that is over is never disturbed by its late answers, nor is
any other.
-/

namespace SafetyBoard

variable {σ α : Type}

def Hub.Alike (alike : σ → σ → Prop) (x y : Hub × σ) : Prop := x.1 = y.1 ∧ alike x.2 y.2

/-- Hosts that are alike may differ in their logs, and whatever their listeners do, they do it
alike. -/
structure Host.IgnoresLog (host : Host σ) (alike : σ → σ → Prop) : Prop where
  equivalence : Equivalence alike
  log : ∀ line h, alike h (host.log line h)
  listen : ∀ listener view x y, Hub.Alike alike x y →
    Act.Agree (Hub.Alike alike) (host.listen listener view) (host.listen listener view) x y

/-- Nothing but lines of log. -/
def Change.OnlyLogs (c : Change σ α) : Prop := ∀ m ∈ c.moments, ∃ line, m.2 = .log line

theorem Change.OnlyLogs.thenSay {c : Change σ α} (h : c.OnlyLogs) (line : LogLine) :
    (c.thenSay (.log line)).OnlyLogs := by
  intro m hm
  rcases List.mem_append.mp hm with before | last
  · exact h m before
  · obtain rfl := List.mem_singleton.mp last
    exact ⟨line, rfl⟩

namespace HubState

variable {s : HubState} {session : Option String}

def Unasked (s : HubState) (session : Option String) : Prop :=
  ∀ id, session = some id → s.coordinator.currentId? ≠ some id

theorem unasked_none (s : HubState) : s.Unasked none := nofun

theorem completeSource_of_unasked (unasked : s.Unasked session) (key : SourceKey)
    (success : Bool) (now : Number) :
    let c := s.completeSource key success session now
    c.OnlyLogs ∧ c.after = s ∧ c.result = false := by
  cases session with
  | none => exact ⟨fun m hm => (List.not_mem_nil hm).elim, rfl, rfl⟩
  | some id =>
    have stale := Coordinator.current?_eq_none.mpr (unasked id rfl)
    have complete : s.coordinator.complete id key success now =
        ⟨[(s.coordinator, .log (s.coordinator.staleLine "reportComplete" id))],
          s.coordinator, false⟩ := by
      rw [Coordinator.complete, stale]
    rw [completeSource, complete]
    refine ⟨fun m hm => ?_, rfl, rfl⟩
    obtain rfl := List.mem_singleton.mp hm
    exact ⟨_, rfl⟩

theorem acceptReport_of_unasked (unasked : s.Unasked session) (key : SourceKey) (report : Report)
    (now : Number) :
    let c := s.acceptReport key report session now
    let d := s.acceptReport key report none now
    c.OnlyLogs ∧ c.after = d.after ∧ c.result = d.result := by
  intro c d
  let stored := (s.store.set key report).2.clearActionsInFlight key
  let t : HubState :=
    { s with store := stored.2, ledger := s.ledger.sync key report.issueIds (.ofNumber now) }
  have still : t.Unasked session := unasked
  obtain ⟨logs, after, result⟩ := completeSource_of_unasked still key true now
  refine ⟨logs.thenSay _, after, ?_⟩
  change (_ || (t.completeSource key true session now).result) = _
  rw [result]
  rfl

theorem acceptError_of_unasked (unasked : s.Unasked session) (key : SourceKey) (now : Number) :
    let c := s.acceptError key session now
    let d := s.acceptError key none now
    c.OnlyLogs ∧ c.after = d.after ∧ c.result = d.result := by
  intro c d
  let t : HubState :=
    { s with store := ((s.store.markError key).2.clearActionsInFlight key).2 }
  have still : t.Unasked session := unasked
  obtain ⟨logs, after, result⟩ := completeSource_of_unasked still key false now
  refine ⟨logs.thenSay _, after, ?_⟩
  change (_ || (t.completeSource key false session now).result) = _
  rw [result]
  rfl

end HubState

namespace Hub

open HubAct

variable {host : Host σ} {setup : Setup} {alike : σ → σ → Prop}

/-- A change that only writes to the log cannot be stopped. -/
theorem run_perform_of_onlyLogs (host : Host σ) (setup : Setup) {c : Change HubState α}
    (logs : c.OnlyLogs) (x : Hub × σ) :
    ∃ lines, (perform host setup c).run x =
      (.ok c.result, { x.1 with state := c.after }, host.logged lines x.2) := by
  have logs : ∀ signal ∈ c.signals, ∃ line, signal = .log line := fun signal given => by
    obtain ⟨m, member, rfl⟩ := List.mem_map.mp given
    exact logs m member
  obtain ⟨h, ran, ⟨lines, logged⟩, -⟩ := run_perform_of_speaks host x setup (c := c)
    (P := fun signals h => (∃ lines, h = host.logged lines x.2) ∧
      ∀ signal ∈ signals, ∃ line, signal = .log line)
    (fun signal rest y ⟨⟨lines, logged⟩, logs⟩ => by
      obtain ⟨line, rfl⟩ := logs signal List.mem_cons_self
      refine ⟨host.log line y.2, rfl, ⟨lines ++ [line], ?_⟩, fun s later =>
        logs s (List.mem_cons_of_mem _ later)⟩
      rw [Host.logged_append, ← logged]
      rfl) ⟨⟨[], rfl⟩, logs⟩
  exact ⟨lines, logged ▸ ran⟩

/-- A report that is accepted while no session waits for it is stored, and that is all. -/
theorem run_applyData_unasked (host : Host σ) {x : Hub × σ} (free : x.1.held = false)
    {session : Option String} (unasked : x.1.state.Unasked session) {key : SourceKey}
    {payload : Json} {report : Report}
    (accepted : x.1.state.acceptPayload setup.registry key payload = .ok report)
    (spelled : report.isSpelled = true) :
    ∃ changed lines, (gate.run (applyData host setup key payload session)).run x =
      (.ok changed, { x.1 with state := x.1.state.withReport key report (host.now x.2) },
        host.logged lines x.2) := by
  let c := x.1.state.acceptReport key report session (host.now x.2)
  obtain ⟨logs, after, -⟩ :=
    HubState.acceptReport_of_unasked unasked key report (host.now x.2)
  have after : c.after = x.1.state.withReport key report (host.now x.2) := by
    rw [x.1.state.withReport_of_spelled key spelled]
    exact after
  obtain ⟨lines, performed⟩ :=
    run_perform_of_onlyLogs host setup logs ({ x.1 with held := true }, x.2)
  refine ⟨c.result, lines, run_gate_of_ran free ?_⟩
  rw [run_applyData host (x := ({ x.1 with held := true }, x.2)) accepted, if_pos spelled, ← after]
  exact performed

theorem run_applyData_garbled (host : Host σ) {x : Hub × σ} (free : x.1.held = false)
    (session : Option String) {key : SourceKey} {payload : Json} {report : Report}
    (accepted : x.1.state.acceptPayload setup.registry key payload = .ok report)
    (garbled : report.isSpelled ≠ true) :
    (gate.run (applyData host setup key payload session)).run x = (.error .malformedUri,
      { x.1 with state := x.1.state.withReport key report (host.now x.2) }, x.2) := by
  rw [x.1.state.withReport_of_garbled key garbled]
  refine run_gate_of_ran free ?_
  rw [run_applyData host (x := ({ x.1 with held := true }, x.2)) accepted, if_neg garbled]

section Alike

variable (ignores : host.IgnoresLog alike)
include ignores

theorem Alike.refl (x : Hub × σ) : Alike alike x x := ⟨rfl, ignores.equivalence.refl _⟩

theorem alike_logged (lines : List LogLine) (h : σ) : alike h (host.logged lines h) := by
  induction lines generalizing h with
  | nil => exact ignores.equivalence.refl h
  | cons line rest ih => exact ignores.equivalence.trans (ignores.log line h) (ih _)

/-- Hosts that are alike stay so, whatever each of them logs. -/
theorem Alike.logged {hub : Hub} {h h' : σ} (same : alike h h') (lines lines' : List LogLine) :
    Alike alike (hub, host.logged lines h) (hub, host.logged lines' h') := by
  refine ⟨rfl, ?_⟩
  have back := ignores.equivalence.symm (alike_logged ignores lines h)
  exact ignores.equivalence.trans back
    (ignores.equivalence.trans same (alike_logged ignores lines' h'))

theorem perform_agrees {c d : Change HubState α} (hc : c.OnlyLogs) (hd : d.OnlyLogs)
    (after : c.after = d.after) (result : c.result = d.result) {x y : Hub × σ}
    (same : Alike alike x y) :
    Act.Agree (Alike alike) (perform host setup c) (perform host setup d) x y := by
  obtain ⟨lines, ran⟩ := run_perform_of_onlyLogs host setup hc x
  obtain ⟨lines', ran'⟩ := run_perform_of_onlyLogs host setup hd y
  rw [Act.Agree, ran, ran', after, result, same.1]
  exact ⟨rfl, Alike.logged ignores same.2 lines lines'⟩

omit ignores in
theorem gate_agrees {body body' : HubAct σ α} {x y : Hub × σ} (same : Alike alike x y)
    (h : Act.Agree (Alike alike) body body' (gate.setHeld true x) (gate.setHeld true y)) :
    Act.Agree (Alike alike) (gate.run body) (gate.run body') x y := by
  cases held : x.1.held with
  | true =>
    rw [Act.Agree, Gate.run_of_held gate body held,
      Gate.run_of_held gate body' (show y.1.held = true from same.1 ▸ held)]
    exact ⟨rfl, same⟩
  | false =>
    rw [Act.Agree, Gate.run_of_free gate body held,
      Gate.run_of_free gate body' (show y.1.held = false from same.1 ▸ held)]
    exact ⟨h.1, congrArg (fun hub : Hub => { hub with held := false }) h.2.1, h.2.2⟩

theorem log_agrees (line : LogLine) {x y : Hub × σ} (same : Alike alike x y) :
    Act.Agree (Alike alike) (log host line) (log host line) x y := by
  obtain ⟨hub, h⟩ := x
  obtain ⟨_, h'⟩ := y
  obtain ⟨rfl, same⟩ := same
  exact ⟨rfl, Alike.logged ignores same [line] [line]⟩

theorem view_agrees (group : UserGroup) {x y : Hub × σ} (same : Alike alike x y) :
    Act.Agree (Alike alike) (view host setup group) (view host setup group) x y := by
  rw [view]
  split
  · apply gate_agrees same
    have looked : Act.Agree (Alike alike) getState getState (gate.setHeld true x)
        (gate.setHeld true y) := by
      obtain ⟨hub, h⟩ := x
      obtain ⟨_, h'⟩ := y
      obtain ⟨rfl, same⟩ := same
      exact ⟨rfl, rfl, same⟩
    refine Act.agree_bind looked fun s x y same => ?_
    refine Act.agree_bind (Act.agree_forM same ?_) fun _ x y same => ?_
    · exact fun line _ x y same => log_agrees ignores line same
    · cases s.draw setup group with
      | error f => exact ⟨rfl, same⟩
      | ok v => exact Act.agree_pure v same
  · exact Act.agree_pure _ same

theorem notify_agrees {x y : Hub × σ} (same : Alike alike x y) :
    Act.Agree (Alike alike) (notify host setup) (notify host setup) x y := by
  have round (x : Hub × σ) : (notify host setup).run x =
      (x.1.subscriptions.forM (notifyOne host setup) : HubAct σ PUnit).run x :=
    Act.run_bind_ok (Act.run_get x) _
  rw [Act.Agree, round, round, ← same.1]
  refine Act.agree_forM same fun subscription _ x y same => ?_
  refine Act.agree_tryCatch ?_ fun f x y same => log_agrees ignores _ same
  exact Act.agree_bind (view_agrees ignores subscription.group same) fun v x y same =>
    ignores.listen subscription.listener v x y same

theorem notifyIf_agrees (changed : Bool) {x y : Hub × σ} (same : Alike alike x y) :
    Act.Agree (Alike alike) (notifyIf host setup changed) (notifyIf host setup changed) x y := by
  rw [notifyIf]
  split
  · exact notify_agrees ignores same
  · exact Act.agree_pure _ same

theorem requireEnabled_agrees (operation : String) {next next' : Unit → HubAct σ α} {x : Hub × σ}
    (h : Act.Agree (Alike alike) (next ()) (next' ()) x x) :
    Act.Agree (Alike alike) (requireEnabled setup operation >>= next)
      (requireEnabled setup operation >>= next') x x := by
  by_cases enabled : setup.settings.enabled = true
  · rw [Act.Agree, run_requireEnabled_bind x enabled, run_requireEnabled_bind x enabled]
    exact h
  · rw [Act.Agree, run_requireEnabled_refused x enabled, run_requireEnabled_refused x enabled]
    exact ⟨rfl, Alike.refl ignores x⟩

variable {x : Hub × σ} {session : Option String} (unasked : x.1.state.Unasked session)
include unasked

theorem applyData_agrees (key : SourceKey) (payload : Json) :
    Act.Agree (Alike alike) (applyData host setup key payload session)
      (applyData host setup key payload none) x x := by
  rw [Act.Agree, applyData, applyData, run_getState_bind, run_getState_bind]
  cases x.1.state.acceptPayload setup.registry key payload with
  | error e => exact ⟨rfl, Alike.refl ignores x⟩
  | ok report =>
    dsimp only
    rw [run_now_bind, run_now_bind]
    split
    · obtain ⟨logs, after, result⟩ :=
        HubState.acceptReport_of_unasked unasked key report (host.now x.2)
      have unnamed :=
        HubState.acceptReport_of_unasked x.1.state.unasked_none key report (host.now x.2)
      exact perform_agrees ignores logs unnamed.1 after result (Alike.refl ignores x)
    · exact ⟨rfl, Alike.refl ignores _⟩

theorem applyError_agrees (key : SourceKey) :
    Act.Agree (Alike alike) (applyError host setup key session)
      (applyError host setup key none) x x := by
  rw [Act.Agree, applyError, applyError]
  cases setup.registry.source? key.sourceId with
  | none => exact ⟨rfl, Alike.refl ignores x⟩
  | some source =>
    dsimp only
    rw [run_getState_bind, run_getState_bind, run_now_bind, run_now_bind]
    obtain ⟨logs, after, result⟩ := HubState.acceptError_of_unasked unasked key (host.now x.2)
    have unnamed := HubState.acceptError_of_unasked x.1.state.unasked_none key (host.now x.2)
    exact perform_agrees ignores logs unnamed.1 after result (Alike.refl ignores x)

theorem setSourceData_agrees (key : SourceKey) (payload : Json) :
    Act.Agree (Alike alike) (setSourceData host setup key payload session)
      (setSourceData host setup key payload none) x x := by
  refine requireEnabled_agrees ignores _ ?_
  refine Act.agree_bind (gate_agrees (Alike.refl ignores x) ?_) fun changed x y same => ?_
  · exact applyData_agrees ignores (x := gate.setHeld true x) unasked key payload
  · exact Act.agree_bind (notifyIf_agrees ignores changed same) fun _ x y same =>
      Act.agree_pure changed same

theorem reportSourceError_agrees (key : SourceKey) :
    Act.Agree (Alike alike) (reportSourceError host setup key session)
      (reportSourceError host setup key none) x x := by
  refine requireEnabled_agrees ignores _ ?_
  refine Act.agree_bind (gate_agrees (Alike.refl ignores x) ?_) fun changed x y same => ?_
  · exact applyError_agrees ignores (x := gate.setHeld true x) unasked key
  · exact notifyIf_agrees ignores changed same

end Alike

/-- Nobody but a reader of the log can tell the operations apart: they give the same, a result or
an error, they leave the same hub in hosts that are alike, and every view is the same after them. -/
structure Indistinguishable (host : Host σ) (setup : Setup) (alike : σ → σ → Prop) (x : Hub × σ)
    (operation operation' : Operation) : Prop where
  outcome : Act.Agree (Alike alike) (run host setup operation) (run host setup operation') x x
  view : ∀ group,
    ((run host setup (.view group)).run ((run host setup operation).run x).2).1 =
      ((run host setup (.view group)).run ((run host setup operation').run x).2).1

theorem indistinguishable_of_agree (ignores : host.IgnoresLog alike) {x : Hub × σ}
    {operation operation' : Operation}
    (h : Act.Agree (Alike alike) (run host setup operation) (run host setup operation') x x) :
    Indistinguishable host setup alike x operation operation' where
  outcome := h
  view group := (Act.agree_map (view_agrees ignores group h.2) Answer.view).1

/-- The ids of sessions are all different, and one that names no open session does nothing: not to
a coordinator, now or, once its session is over, in any run of calls or whatever is done to the hub;
and an answer that bears it does to the hub what an answer without an id does. -/
theorem stale_ids_inert (ignores : host.IgnoresLog alike) (setup : Setup) :
    (∀ untracked calls, Coordinator.IdsRetire (.fresh untracked) calls) ∧
    (∀ faultless before s between t later u,
      Execution setup faultless (.initial setup.settings) before s →
      Execution setup faultless s between t → Execution setup faultless t later u →
      ∀ id, s.coordinator.currentId? = some id → t.coordinator.currentId? ≠ some id →
        u.coordinator.Ignores id) ∧
    ∀ (x : Hub × σ) id, x.1.state.coordinator.currentId? ≠ some id → ∀ key,
      (∀ payload, Indistinguishable host setup alike x (.setSourceData key payload (some id))
        (.setSourceData key payload none)) ∧
      Indistinguishable host setup alike x (.reportSourceError key (some id))
        (.reportSourceError key none) := by
  refine ⟨fun untracked calls => Coordinator.ids_retire _ calls, ?_, fun x id stale key => ?_⟩
  · intro faultless before s between t later u started ended h id opened stale
    exact HubState.ignores_of_ended started opened ended stale h
  have unasked : x.1.state.Unasked (some id) := by
    intro named same
    exact Option.some.inj same ▸ stale
  constructor
  · intro payload
    apply indistinguishable_of_agree ignores
    exact Act.agree_map (setSourceData_agrees ignores unasked key payload) Answer.flag
  · apply indistinguishable_of_agree ignores
    exact Act.agree_map (reportSourceError_agrees ignores unasked key) fun _ => Answer.nothing

def Diary.Alike (d d' : Diary) : Prop := d.events = d'.events ∧ d.views = d'.views

theorem diary_ignoresLog : diary.IgnoresLog Diary.Alike where
  equivalence := by
    refine ⟨fun d => ⟨rfl, rfl⟩, fun same => ⟨same.1.symm, same.2.symm⟩, fun same same' => ?_⟩
    exact ⟨same.1.trans same'.1, same.2.trans same'.2⟩
  log := fun _ _ => ⟨rfl, rfl⟩
  listen := fun listener view _ _ same =>
    ⟨rfl, same.1, same.2.1, congrArg (· ++ [(listener, view)]) same.2.2⟩

/-- A late answer to a refresh that another one replaced: the listener sees the new report, and the
other refresh still waits for its answer. -/
theorem stale_ids_inert_superseded :
    let source : Source :=
      ⟨"wifi", .primary, false, .issueOnly ⟨"net", .criticalWarning, true, true⟩⟩
    let setup : Setup := ⟨⟨[⟨"network", .hidden, none, none, .none, [source]⟩]⟩, .configured,
      ⟨true, true, [], .default, false⟩⟩
    let payload : Json := .object [("issues", .array [.object [("id", .string "open"),
      ("typeId", .string "network"), ("severity", .string "recommendation"),
      ("title", .string "Open"), ("summary", .string "Anyone can listen")]])]
    let w := ((subscribe 7 ⟨1, []⟩).run (.initial setup.settings, ⟨[], [], []⟩)).2
    let x := ((run diary setup (.refresh .pageOpen ⟨1, []⟩)).run w).2
    let y := ((run diary setup (.refresh .rescanButton ⟨1, []⟩)).run x).2
    let z := ((run diary setup (.setSourceData ⟨"wifi", 1⟩ payload (some "u_0"))).run y).2
    let z' := ((run diary setup (.setSourceData ⟨"wifi", 1⟩ payload none)).run y).2
    x.1.state.coordinator.currentId? = some "u_0" ∧
      z.1 = z'.1 ∧ z.2.events = z'.2.events ∧ z.2.views = z'.2.views ∧
      z.2.lines.length = z'.2.lines.length + 1 ∧ z.2.views.length = y.2.views.length + 1 ∧
      z.1.state.coordinator.inFlightKeys = [⟨"wifi", 1⟩] := by
  intro source setup payload w x y z z'
  have stale : y.1.state.coordinator.currentId? ≠ some "u_0" := by decide +kernel
  have inert := (stale_ids_inert diary_ignoresLog setup).2.2 y "u_0" stale ⟨"wifi", 1⟩
  have same : Alike Diary.Alike z z' := (inert.1 payload).outcome.2
  refine ⟨by decide +kernel, same.1, same.2.1, same.2.2, ?_, ?_, ?_⟩
  · decide +kernel
  · decide +kernel
  · decide +kernel

end Hub

end SafetyBoard
