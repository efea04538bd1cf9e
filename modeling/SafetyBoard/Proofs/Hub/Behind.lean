import SafetyBoard.Hub.Operations
import SafetyBoard.Proofs.Act
import SafetyBoard.Proofs.Hub.Execution
import SafetyBoard.Proofs.Refresh.Run

/-!
# What a body does behind the gate

A host acts on a hub by the hub's operations only, and its telemetry sink, which is called behind
the gate, does not even do that. So whatever the host does, a body that runs behind the gate makes
one step, and either its change comes to the end or a failing sink stops it on the way.
-/

namespace SafetyBoard

variable {σ α β : Type}

def Hub.Proceeds (setup : Setup) (faultless : Prop) (x y : Hub × σ) : Prop :=
  x.1.held = false →
    (∃ more, Execution setup faultless x.1.state more y.1.state) ∧ y.1.held = false

def Hub.Stays (x y : Hub × σ) : Prop :=
  x.1.held = true → y.1.state = x.1.state ∧ y.1.held = true

/-- What a hub relies on: its sink, which is called behind the gate, can do nothing to the state,
and its other collaborators act on it by its operations. They may fail; a faultless sink does
not. -/
structure Host.Orderly (host : Host σ) (setup : Setup) (faultless : Prop) : Prop where
  emit : ∀ e, Act.Moves Hub.Stays (host.emit e)
  emit_ok : faultless → setup.settings.telemetryEnabled = true →
    ∀ e x, ((host.emit e).run x).1 = .ok ()
  request : ∀ r, Act.Moves (Hub.Proceeds setup faultless) (host.request r)
  listen : ∀ listener view, Act.Moves (Hub.Proceeds setup faultless) (host.listen listener view)
  onError : ∀ f message, Act.Moves (Hub.Proceeds setup faultless) (host.onError f message)

def Host.logged (host : Host σ) (lines : List LogLine) (h : σ) : σ :=
  lines.foldl (fun h line => host.log line h) h

theorem Host.logged_append (host : Host σ) (lines more : List LogLine) (h : σ) :
    host.logged (lines ++ more) h = host.logged more (host.logged lines h) :=
  List.foldl_append

def Host.heed (host : Host σ) : Signal → σ → σ
  | .log line => host.log line
  | .cancel task => host.cancel task
  | .event _ => id

def Host.heard (host : Host σ) (signals : List Signal) (h : σ) : σ :=
  signals.foldl (fun h signal => host.heed signal h) h

theorem HubState.openRefresh_events (s : HubState) (registry : Registry) (reason : RefreshReason)
    (group : UserGroup) (unique : String) (startedAt markedAt : Number) :
    (s.openRefresh registry reason group unique startedAt markedAt).events = [] := by
  simp [openRefresh, Coordinator.openSession]

namespace Hub

open HubAct

section Run

variable (host : Host σ) {setup : Setup} (x : Hub × σ)

theorem run_getState_bind (next : HubState → HubAct σ α) :
    (getState >>= next).run x = (next x.1.state).run x :=
  Act.run_bind_ok (show getState.run x = _ from rfl) next

theorem run_now_bind (next : Number → HubAct σ α) :
    (now host >>= next).run x = (next (host.now x.2)).run x :=
  Act.run_bind_ok (show (now host).run x = _ from rfl) next

theorem run_ask_bind (f : σ → β × σ) (next : β → HubAct σ α) :
    (ask f >>= next).run x = (next (f x.2).1).run (x.1, (f x.2).2) :=
  Act.run_bind_ok (show (ask f).run x = _ from rfl) next

theorem run_setTimer_bind (setup : Setup) (reason : RefreshReason) (id : String)
    (next : Unit → HubAct σ α) :
    (setTimer host setup reason id >>= next).run x =
      let timer := host.schedule (setup.settings.timeouts.delay reason) id x.2
      (next ()).run
        ({ x.1 with state := { x.1.state with pending := some ⟨id, timer.1⟩ } }, timer.2) :=
  Act.run_bind_ok (show (setTimer host setup reason id).run x = _ from rfl) next

theorem run_forM_log (lines : List LogLine) :
    (lines.forM (log host) : HubAct σ PUnit).run x = (.ok (), x.1, host.logged lines x.2) := by
  induction lines generalizing x with
  | nil => rfl
  | cons line rest ih =>
    have first : (log host line).run x = (.ok (), x.1, host.log line x.2) := rfl
    exact (Act.run_bind_ok first _).trans (ih _)

theorem run_logs (lines : List LogLine) :
    ∃ h, (lines.forM (log host) : HubAct σ PUnit).run x = (.ok (), x.1, h) :=
  ⟨_, run_forM_log host x lines⟩

theorem run_gate_of_ran {x : Hub × σ} {body : HubAct σ α} (free : x.1.held = false)
    {result : Except Fault α} {state : HubState} {h : σ}
    (ran : body.run ({ x.1 with held := true }, x.2) =
      (result, { x.1 with state, held := true }, h)) :
    (gate.run body).run x = (result, { x.1 with state }, h) := by
  rw [Gate.run_of_free gate body free]
  obtain ⟨⟨state, held, mailbox, subscriptions⟩, h⟩ := x
  cases free
  have ran : body.run (gate.setHeld true (⟨state, false, mailbox, subscriptions⟩, h)) = _ := ran
  rw [ran]
  rfl

def moment (host : Host σ) (setup : Setup) (m : HubState × Signal) : HubAct σ Unit := do
  setState m.1
  speak host setup m.2

theorem perform_eq (c : Change HubState α) :
    perform host setup c = (do
      c.moments.forM (moment host setup)
      setState c.after
      return c.result) := rfl

theorem run_moment (setup : Setup) (m : HubState × Signal) :
    (moment host setup m).run x =
      (speak host setup m.2).run ({ x.1 with state := m.1 }, x.2) :=
  Act.run_bind_ok rfl _

/-- A change comes to its end if each of its signals can be given. `P` is what is known of the host
before the signals that are still to come. -/
theorem run_perform_of_speaks (setup : Setup) {c : Change HubState α} {P : List Signal → σ → Prop}
    (speaks : ∀ signal rest x, P (signal :: rest) x.2 →
      ∃ h, (speak host setup signal).run x = (.ok (), x.1, h) ∧ P rest h)
    (start : P c.signals x.2) :
    ∃ h, (perform host setup c).run x = (.ok c.result, { x.1 with state := c.after }, h) ∧
      P [] h := by
  have walk (moments : List (HubState × Signal)) (x : Hub × σ)
      (start : P (moments.map Prod.snd) x.2) :
      ∃ s h, (moments.forM (moment host setup) : HubAct σ PUnit).run x =
        (.ok (), { x.1 with state := s }, h) ∧ P [] h := by
    induction moments generalizing x with
    | nil => exact ⟨x.1.state, x.2, rfl, start⟩
    | cons m rest ih =>
      obtain ⟨h, spoken, next⟩ := speaks m.2 _ ({ x.1 with state := m.1 }, x.2) start
      obtain ⟨s, h', walked, last⟩ := ih ({ x.1 with state := m.1 }, h) next
      have first := (run_moment host x setup m).trans spoken
      exact ⟨s, h', (Act.run_bind_ok first _).trans walked, last⟩
  obtain ⟨s, h, walked, last⟩ := walk c.moments x start
  refine ⟨h, ?_, last⟩
  rw [perform_eq, Act.run_bind_ok walked]
  rfl

/-- A change that tells no event always comes to its end, whatever the sink is like. -/
theorem run_perform_of_quiet {c : Change HubState α} (quiet : c.events = []) :
    (perform host setup c).run x =
      (.ok c.result, { x.1 with state := c.after }, host.heard c.signals x.2) := by
  have silent (e : TelemetryEvent) : .event e ∉ c.signals := fun told => by
    obtain ⟨m, member, signal⟩ := List.mem_map.mp told
    have told : e ∈ c.events := Change.event_mem (s := m.1) (signal ▸ member)
    rw [quiet] at told
    cases told
  obtain ⟨h, ran, heard, -⟩ := run_perform_of_speaks host x setup (c := c)
    (P := fun signals h => host.heard signals h = host.heard c.signals x.2 ∧
      ∀ e, .event e ∉ signals) (fun signal rest y ⟨heard, silent⟩ => by
    refine ⟨host.heed signal y.2, ?_, heard, fun e later => silent e (List.mem_cons_of_mem _ later)⟩
    cases signal with
    | log line => rfl
    | cancel task => rfl
    | event e => exact absurd List.mem_cons_self (silent e)) ⟨rfl, silent⟩
  rw [ran, ← heard]
  rfl

theorem run_requireEnabled_bind (enabled : setup.settings.enabled = true) (operation : String)
    (next : Unit → HubAct σ α) :
    (requireEnabled setup operation >>= next).run x = (next ()).run x := by
  rw [requireEnabled, if_pos enabled]
  exact Act.run_bind_ok (Act.run_pure () x) next

theorem run_requireEnabled_refused (disabled : ¬setup.settings.enabled = true)
    (operation : String) (next : Unit → HubAct σ α) :
    (requireEnabled setup operation >>= next).run x =
      (.error (.hub (.featureDisabled operation)), x) := by
  rw [requireEnabled, if_neg disabled]
  exact Act.run_bind_error (Act.run_throw _ x) next

end Run

section Relations

variable {setup : Setup} {faultless : Prop}

theorem Stays.refl (x : Hub × σ) : Stays x x := fun held => ⟨rfl, held⟩

theorem Stays.trans (x y z : Hub × σ) (h : Stays x y) (k : Stays y z) : Stays x z := by
  intro held
  obtain ⟨same, held⟩ := h held
  obtain ⟨same', held⟩ := k held
  exact ⟨same'.trans same, held⟩

theorem Proceeds.of_same {x y : Hub × σ} (state : y.1.state = x.1.state)
    (held : y.1.held = x.1.held) : Proceeds setup faultless x y := by
  intro free
  refine ⟨⟨[], ?_⟩, held.trans free⟩
  rw [state]
  exact .refl _

theorem Proceeds.refl (x : Hub × σ) : Proceeds setup faultless x x := .of_same rfl rfl

theorem Proceeds.trans (x y z : Hub × σ) (h : Proceeds setup faultless x y)
    (k : Proceeds setup faultless y z) : Proceeds setup faultless x z := by
  intro free
  obtain ⟨⟨more, first⟩, free⟩ := h free
  obtain ⟨⟨rest, second⟩, free⟩ := k free
  exact ⟨⟨more ++ rest, first.trans second⟩, free⟩

end Relations

theorem getState_stays : Act.Moves Stays (getState : HubAct σ HubState) := Stays.refl

section Perform

variable {host : Host σ} {setup : Setup} {faultless : Prop} (orderly : host.Orderly setup faultless)
include orderly

theorem speak_stays (signal : Signal) : Act.Moves Stays (speak host setup signal) := by
  cases signal with
  | log line => exact fun x held => ⟨rfl, held⟩
  | cancel task => exact fun x held => ⟨rfl, held⟩
  | event e =>
    change Act.Moves Stays (if setup.settings.telemetryEnabled then host.emit e else pure ())
    split
    · exact orderly.emit e
    · exact Act.moves_pure Stays.refl ()

/-- Only an event can fail. -/
theorem speak_fails (signal : Signal) (x : Hub × σ) :
    ∀ f, ((speak host setup signal).run x).1 = .error f →
      ¬faultless ∧ ∃ e, signal = .event e := by
  intro f failed
  cases signal with
  | log line => cases failed
  | cancel task => cases failed
  | event e =>
    refine ⟨fun h => ?_, e, rfl⟩
    change ((if setup.settings.telemetryEnabled then host.emit e
      else pure ()).run x).1 = _ at failed
    split at failed
    · next telemetry =>
      rw [orderly.emit_ok h telemetry e x] at failed
      cases failed
    · cases failed

/-- What is known of the hub after some moments: the gate is held, and if one of them failed, it
told an event, the state is the one of that moment and the sink may fail. -/
theorem run_moments (moments : List (HubState × Signal)) (x : Hub × σ)
    (held : x.1.held = true) :
    let y := (moments.forM (moment host setup) : HubAct σ PUnit).run x
    y.2.1.held = true ∧
      ∀ f, y.1 = .error f → ¬faultless ∧ ∃ e, (y.2.1.state, .event e) ∈ moments := by
  induction moments generalizing x with
  | nil => exact ⟨held, nofun⟩
  | cons m rest ih =>
    have spoken := speak_stays orderly m.2 ({ x.1 with state := m.1 }, x.2) held
    have fails := speak_fails orderly m.2 ({ x.1 with state := m.1 }, x.2)
    have first := run_moment host x setup m
    rcases ran : (speak host setup m.2).run ({ x.1 with state := m.1 }, x.2) with ⟨f | u, t⟩
    · rw [ran] at spoken fails first
      intro y
      have hy : y = (.error f, t) := Act.run_bind_error first _
      obtain ⟨faulty, e, event⟩ := fails f rfl
      rw [hy]
      refine ⟨spoken.2, fun _ _ => ⟨faulty, e, ?_⟩⟩
      rw [spoken.1, ← event]
      exact List.mem_cons_self
    · rw [ran] at spoken first
      intro y
      have hy : y = _ := Act.run_bind_ok first _
      obtain ⟨held, failed⟩ := ih t spoken.2
      rw [hy]
      refine ⟨held, fun f hf => ?_⟩
      obtain ⟨faulty, e, member⟩ := failed f hf
      exact ⟨faulty, e, List.mem_cons_of_mem _ member⟩

theorem run_perform (change : Change HubState α) (x : Hub × σ) (held : x.1.held = true) :
    let y := (perform host setup change).run x
    y.2.1.held = true ∧ change.Stops faultless y.2.1.state ∧
      ((y.1 = .ok change.result ∧ y.2.1.state = change.after) ∨
        (∃ f, y.1 = .error f) ∧ ¬faultless ∧ change.events ≠ []) := by
  intro y
  obtain ⟨kept, failed⟩ := run_moments orderly change.moments x held
  rcases ran : (change.moments.forM (moment host setup) : HubAct σ PUnit).run x with ⟨f | u, t⟩
  · rw [ran] at kept failed
    have hy : y = (.error f, t) := Act.run_bind_error ran _
    obtain ⟨faulty, e, member⟩ := failed f rfl
    rw [hy]
    refine ⟨kept, Or.inr ⟨faulty, List.mem_map.mpr ⟨_, member, rfl⟩⟩, Or.inr ⟨⟨f, rfl⟩, faulty, ?_⟩⟩
    exact List.ne_nil_of_mem (Change.event_mem member)
  · rw [ran] at kept
    have hy : y = (.ok change.result, { t.1 with state := change.after }, t.2) :=
      Act.run_bind_ok ran _
    rw [hy]
    exact ⟨kept, Or.inl rfl, Or.inl ⟨rfl, rfl⟩⟩

end Perform

def Enters (setup : Setup) (faultless : Prop) (operation : Operation) (x y : Hub × σ) : Prop :=
  x.1.held = true → Step setup faultless x.1.state operation y.1.state ∧ y.1.held = true

section Behind

variable {setup : Setup} {faultless : Prop} {operation : Operation} {s s' : HubState}

theorem step_of_message {message : Message} (h : operation.message? = some message) {now : Number}
    {c : Change HubState Bool} (changes : s.messageChange? setup now message = some c)
    (stops : c.Stops faultless s') : Step setup faultless s operation s' := by
  have changes : s.change? setup now operation = some c.forget := by
    rw [HubState.change?_of_message h, changes]
    rfl
  exact .change now changes stops

theorem step_of_refused {message : Message} (h : operation.message? = some message) (now : Number)
    (refused : s.messageChange? setup now message = none) :
    Step setup faultless s operation s := by
  have idle : s.change? setup now operation = none := by
    rw [HubState.change?_of_message h, refused]
    rfl
  refine .idle now idle ?_
  rintro - reason group rfl
  cases h

variable {host : Host σ} (orderly : host.Orderly setup faultless)
include orderly

theorem perform_enters {x : Hub × σ} (now : Number) {c : Change HubState α}
    (changes : x.1.state.change? setup now operation = some c.forget) :
    Enters setup faultless operation x ((perform host setup c).run x).2 := by
  intro held
  obtain ⟨kept, stops, -⟩ := run_perform orderly c x held
  exact ⟨.change now changes stops, kept⟩

theorem perform_message_enters {message : Message} (h : operation.message? = some message)
    {x : Hub × σ} (now : Number) {c : Change HubState Bool}
    (changes : x.1.state.messageChange? setup now message = some c) :
    Enters setup faultless operation x ((perform host setup c).run x).2 := by
  intro held
  obtain ⟨kept, stops, -⟩ := run_perform orderly c x held
  exact ⟨step_of_message h changes stops, kept⟩

omit orderly in
/-- A report with a garbled issue id is stored all the same. -/
theorem run_applyData (host : Host σ) {key : SourceKey} {payload : Json} {report : Report}
    {x : Hub × σ} (accepted : x.1.state.acceptPayload setup.registry key payload = .ok report)
    (session : Option String) : (applyData host setup key payload session).run x =
      if report.isSpelled then
        (perform host setup (x.1.state.acceptReport key report session (host.now x.2))).run x
      else (.error .malformedUri,
        { x.1 with state := x.1.state.keepGarbled key report (host.now x.2) }, x.2) := by
  rw [applyData, run_getState_bind, accepted]
  dsimp only
  rw [run_now_bind]
  split <;> rfl

theorem applyData_enters {key : SourceKey} {payload : Json} {session : Option String}
    (h : operation.message? = some (.sourceData key payload session))
    (enabled : setup.settings.enabled = true) :
    Act.Moves (Enters setup faultless operation) (applyData host setup key payload session) := by
  intro x
  cases accepted : x.1.state.acceptPayload setup.registry key payload with
  | error e =>
    rw [applyData, run_getState_bind, accepted]
    intro held
    refine ⟨step_of_refused h .undefined ?_, held⟩
    rw [HubState.messageChange?, if_pos enabled, accepted]
  | ok report =>
    rw [run_applyData host accepted]
    have changes : x.1.state.messageChange? setup (host.now x.2) (.sourceData key payload session) =
        some (x.1.state.takeReport key report session (host.now x.2)) := by
      rw [HubState.messageChange?, if_pos enabled, accepted]
    rw [HubState.takeReport] at changes
    split
    · next spelled =>
      rw [if_pos spelled] at changes
      exact perform_message_enters orderly h (host.now x.2) changes
    · next garbled =>
      rw [if_neg garbled] at changes
      exact fun held => ⟨step_of_message h changes (.inl rfl), held⟩

theorem applyError_enters {key : SourceKey} {session : Option String}
    (h : operation.message? = some (.sourceError key session))
    (enabled : setup.settings.enabled = true) :
    Act.Moves (Enters setup faultless operation) (applyError host setup key session) := by
  intro x
  rw [applyError]
  cases known : setup.registry.source? key.sourceId with
  | none =>
    intro held
    refine ⟨step_of_refused h .undefined ?_, held⟩
    rw [HubState.messageChange?, known]
    simp
  | some source =>
    dsimp only
    rw [run_getState_bind, run_now_bind]
    refine perform_message_enters orderly h (host.now x.2) (if_pos ?_)
    rw [known]
    exact ⟨enabled, rfl⟩

theorem applyMessage_enters {message : Message} (h : operation.message? = some message) :
    Act.Moves (Enters setup faultless operation) (applyMessage host setup message) := by
  intro x
  cases message with
  | sourceData key payload session =>
    by_cases enabled : setup.settings.enabled = true
    · rw [applyMessage, run_requireEnabled_bind x enabled]
      exact applyData_enters orderly h enabled x
    · rw [applyMessage, run_requireEnabled_refused x enabled]
      exact fun held => ⟨step_of_refused h .undefined (if_neg enabled), held⟩
  | sourceError key session =>
    by_cases enabled : setup.settings.enabled = true
    · rw [applyMessage, run_requireEnabled_bind x enabled]
      exact applyError_enters orderly h enabled x
    · rw [applyMessage, run_requireEnabled_refused x enabled]
      exact fun held => ⟨step_of_refused h .undefined (if_neg fun e => enabled e.1), held⟩
  | refreshTimeout id =>
    rw [applyMessage, run_getState_bind, run_now_bind]
    exact perform_message_enters orderly h (host.now x.2) rfl
  | userRemoved user =>
    rw [applyMessage, applyClearForUser, run_getState_bind]
    exact perform_message_enters orderly h .undefined rfl

theorem performOk_enters {x : Hub × σ} (now : Number) {c : Except HubError (Change HubState α)}
    (plain : ∀ reason group, operation ≠ .refresh reason group)
    (changes : x.1.state.change? setup now operation = c.toOption.map (·.forget)) :
    Enters setup faultless operation x ((performOk host setup c).run x).2 := by
  cases c with
  | error e => exact fun held => ⟨.idle now changes fun _ => plain, held⟩
  | ok c => exact perform_enters orderly now changes

end Behind

end Hub

end SafetyBoard
