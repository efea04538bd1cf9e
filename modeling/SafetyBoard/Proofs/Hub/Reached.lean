import SafetyBoard.Proofs.Hub.Behind

/-!
# What running an operation does to a hub

Running an operation is an execution: it starts with the operation's own entry of the gate and goes
on with the entries that the listeners, the transport and the error callback make before it returns.
-/

namespace SafetyBoard

namespace HubState

variable {s : HubState} {setup : Setup} {group : UserGroup}

theorem draw_of_drawable (drawable : s.isDrawable setup group = true) :
    s.draw setup group = .ok (s.view setup group) := if_pos drawable

theorem draw_of_garbled (garbled : s.isDrawable setup group = false) :
    s.draw setup group = .error .malformedUri := if_neg (Bool.eq_false_iff.mp garbled)

end HubState

namespace Hub

open HubAct

variable {σ α β : Type}

/-- From outside the gate to outside the gate: first the entry of an operation, then others. -/
def Begins (setup : Setup) (faultless : Prop) (operation : Operation) (x y : Hub × σ) : Prop :=
  x.1.held = false →
    (∃ more, Execution setup faultless x.1.state (⟨x.1.state, operation⟩ :: more) y.1.state) ∧
      y.1.held = false

section Outside

variable {setup : Setup} {faultless : Prop} {operation : Operation}

theorem Begins.proceeds {x y : Hub × σ} (h : Begins setup faultless operation x y) :
    Proceeds setup faultless x y := by
  intro free
  obtain ⟨⟨more, first⟩, free⟩ := h free
  exact ⟨⟨_, first⟩, free⟩

theorem Begins.trans {x y z : Hub × σ} (h : Begins setup faultless operation x y)
    (k : Proceeds setup faultless y z) : Begins setup faultless operation x z := by
  intro free
  obtain ⟨⟨more, first⟩, free⟩ := h free
  obtain ⟨⟨rest, second⟩, free⟩ := k free
  exact ⟨⟨more ++ rest, first.trans second⟩, free⟩

theorem Begins.of_same {x y z : Hub × σ} (state : y.1.state = x.1.state)
    (held : y.1.held = x.1.held) (h : Begins setup faultless operation y z) :
    Begins setup faultless operation x z := by
  intro free
  rw [← state]
  exact h (held.trans free)

theorem Begins.of_step {x y : Hub × σ}
    (h : x.1.held = false → Step setup faultless x.1.state operation y.1.state ∧
      y.1.held = false) : Begins setup faultless operation x y := by
  intro free
  obtain ⟨step, free⟩ := h free
  exact ⟨⟨[], .single step⟩, free⟩

theorem Begins.bind {act : HubAct σ α} {x : Hub × σ}
    (first : Begins setup faultless operation x (act.run x).2) {next : α → HubAct σ β}
    (k : ∀ a, Act.Moves (Proceeds setup faultless) (next a)) :
    Begins setup faultless operation x ((act >>= next).run x).2 := by
  rcases ran : act.run x with ⟨f | a, t⟩
  · rw [Act.run_bind_error ran]
    rw [ran] at first
    exact first
  · rw [Act.run_bind_ok ran]
    rw [ran] at first
    exact first.trans (k a t)

theorem begins_bind {act : HubAct σ α} (h : Act.Moves (Begins setup faultless operation) act)
    {next : α → HubAct σ β} (k : ∀ a, Act.Moves (Proceeds setup faultless) (next a)) :
    Act.Moves (Begins setup faultless operation) (act >>= next) :=
  fun x => (h x).bind k

theorem begins_map {act : HubAct σ α} (h : Act.Moves (Begins setup faultless operation) act)
    (f : α → β) : Act.Moves (Begins setup faultless operation) (f <$> act) := by
  rw [← bind_pure_comp]
  exact begins_bind h fun a => Act.moves_pure Proceeds.refl (f a)

theorem begins_tryCatch {act : HubAct σ α}
    (h : Act.Moves (Begins setup faultless operation) act) {handler : Fault → HubAct σ α}
    (k : ∀ f, Act.Moves (Proceeds setup faultless) (handler f)) :
    Act.Moves (Begins setup faultless operation) (tryCatch act handler) := by
  intro x
  have first := h x
  rcases ran : act.run x with ⟨f | a, t⟩
  · rw [Act.run_tryCatch_error ran]
    rw [ran] at first
    exact first.trans (k f t)
  · rw [Act.run_tryCatch_ok ran]
    rw [ran] at first
    exact first

theorem begins_gate {body : HubAct σ α}
    (h : Act.Moves (Enters setup faultless operation) body) :
    Act.Moves (Begins setup faultless operation) (gate.run body) := by
  intro x
  refine .of_step ?_
  intro free
  rw [Gate.run_of_free gate body free]
  exact ⟨(h (gate.setHeld true x) rfl).1, rfl⟩

theorem step_of_look (looks : ∀ s, HubState.change? s setup .undefined operation = none)
    (plain : ∀ reason group, operation ≠ .refresh reason group) (s : HubState) :
    Step setup faultless s operation s :=
  .idle .undefined (looks s) fun _ => plain

/-- An operation that only looks, or is refused, is an entry that changes nothing. -/
theorem begins_idle {act : HubAct σ α} (idle : ∀ s, Step setup faultless s operation s)
    (h : Act.Moves (Proceeds setup faultless) act) :
    Act.Moves (Begins setup faultless operation) act :=
  fun x => (Begins.of_step (y := x) fun free => ⟨idle _, free⟩).trans (h x)

theorem begins_requireEnabled {name : String} {next : Unit → HubAct σ α}
    (idle : ¬setup.settings.enabled = true → ∀ s, Step setup faultless s operation s)
    (h : setup.settings.enabled = true →
      Act.Moves (Begins setup faultless operation) (next ())) :
    Act.Moves (Begins setup faultless operation) (requireEnabled setup name >>= next) := by
  by_cases enabled : setup.settings.enabled = true
  · intro x
    rw [run_requireEnabled_bind x enabled]
    exact h enabled x
  · apply begins_idle (idle enabled)
    intro x
    rw [run_requireEnabled_refused x enabled]
    exact .refl x

theorem proceeds_gate {body : HubAct σ α} (h : Act.Moves Stays body) :
    Act.Moves (Proceeds setup faultless) (gate.run body) := by
  intro x free
  refine Proceeds.of_same ?_ ?_ free
  · rw [Gate.run_of_free gate body free]
    exact (h (gate.setHeld true x) rfl).1
  · rw [Gate.run_of_free gate body free]
    exact free.symm

theorem proceeds_change (host : Host σ) (f : Mailbox Message → Mailbox Message) :
    Act.Moves (Proceeds setup faultless) (modify ((inbox host setup).change f)) :=
  fun _ => .of_same rfl rfl

theorem proceeds_log (host : Host σ) (line : LogLine) :
    Act.Moves (Proceeds setup faultless) (log host line) :=
  fun _ => .of_same rfl rfl

theorem logs_stays (host : Host σ) (lines : List LogLine) :
    Act.Moves Stays (lines.forM (log host) : HubAct σ PUnit) :=
  Act.moves_forM Stays.refl Stays.trans fun _ _ _ held => ⟨rfl, held⟩

theorem proceeds_view (host : Host σ) (group : UserGroup) :
    Act.Moves (Proceeds setup faultless) (view host setup group) := by
  rw [view]
  split
  · refine proceeds_gate (Act.moves_bind Stays.trans getState_stays fun s => ?_)
    refine Act.moves_bind Stays.trans (logs_stays host _) fun _ => ?_
    cases s.draw setup group with
    | error f => exact Act.moves_throw Stays.refl f
    | ok v => exact Act.moves_pure Stays.refl v
  · exact Act.moves_pure Proceeds.refl _

variable {host : Host σ} (orderly : host.Orderly setup faultless)
include orderly

theorem proceeds_notify : Act.Moves (Proceeds setup faultless) (notify host setup) := by
  apply Act.moves_bind Proceeds.trans (Act.moves_get Proceeds.refl)
  intro x
  apply Act.moves_forM Proceeds.refl Proceeds.trans
  intro subscription _
  refine Act.moves_tryCatch Proceeds.trans ?_ fun f => proceeds_log host _
  exact Act.moves_bind Proceeds.trans (proceeds_view host subscription.group) fun v =>
    orderly.listen subscription.listener v

theorem proceeds_notifyIf (changed : Bool) :
    Act.Moves (Proceeds setup faultless) (notifyIf host setup changed) := by
  rw [notifyIf]
  split
  · exact proceeds_notify orderly
  · exact Act.moves_pure Proceeds.refl ()

/-- Opening a refresh, up to its timer: it is interrupted while the old session is told off, or
comes to the end. -/
theorem run_openRefresh (enabled : setup.settings.enabled = true) (reason : RefreshReason)
    (group : UserGroup) (x : Hub × σ) (free : x.1.held = false) :
    let y := (openRefresh host setup reason group).run x
    y.2.1.held = false ∧
      (((∃ f, y.1 = .error f) ∧
        Step setup faultless x.1.state (.refresh reason group) y.2.1.state) ∨
      ∃ unique startedAt markedAt,
        let opening := (x.1.state.beginRefresh group startedAt).after.openRefresh setup.registry
          reason group unique startedAt markedAt
        y.1 = .ok opening.result ∧ y.2.1.state = opening.after) := by
  intro y
  have hy : y = _ := Gate.run_of_free gate _ free
  obtain ⟨z, hz⟩ : ∃ z, z = gate.setHeld true x := ⟨_, rfl⟩
  have state : x.1.state = z.1.state := hz ▸ rfl
  have held : z.1.held = true := hz ▸ rfl
  rw [hy, ← hz, state, run_now_bind, run_getState_bind]
  refine ⟨rfl, ?_⟩
  obtain ⟨-, stops, ended⟩ := run_perform orderly
    (z.1.state.beginRefresh group (host.now z.2)) z held
  rcases ran : (perform host setup (z.1.state.beginRefresh group (host.now z.2))).run z
    with ⟨f | u, t⟩
  · rw [ran] at stops ended
    rw [Act.run_bind_error ran]
    refine Or.inl ⟨⟨f, rfl⟩, .interrupted enabled stops ?_⟩
    rcases ended with ⟨ok, -⟩ | ⟨-, faulty, -⟩
    · cases ok
    · exact faulty
  · rw [ran] at ended
    have after : t.1.state = (z.1.state.beginRefresh group (host.now z.2)).after := by
      rcases ended with ⟨-, after⟩ | ⟨⟨f, failed⟩, -⟩
      · exact after
      · cases failed
    rw [Act.run_bind_ok ran, run_ask_bind, run_now_bind, run_getState_bind, after]
    have quiet := HubState.openRefresh_events (z.1.state.beginRefresh group (host.now z.2)).after
      setup.registry reason group (host.unique t.2).1 (host.now z.2)
      (host.now (host.unique t.2).2)
    refine Or.inr ⟨(host.unique t.2).1, host.now z.2, host.now (host.unique t.2).2, ?_⟩
    rw [run_perform_of_quiet host (t.1, (host.unique t.2).2) quiet]
    exact ⟨rfl, rfl⟩

theorem proceeds_requests (id : String) (requests : List RefreshRequest) :
    Act.Moves (Proceeds setup faultless) (do
      requests.forM host.request
      notify host setup
      return id : HubAct σ String) := by
  refine Act.moves_bind Proceeds.trans ?_ fun _ => ?_
  · exact Act.moves_forM Proceeds.refl Proceeds.trans fun r _ => orderly.request r
  · exact Act.moves_bind Proceeds.trans (proceeds_notify orderly) fun _ =>
      Act.moves_pure Proceeds.refl id

theorem refresh_begins (reason : RefreshReason) (group : UserGroup) :
    Act.Moves (Begins setup faultless (.refresh reason group))
      (refresh host setup reason group) := by
  refine begins_requireEnabled ?_ fun enabled x free => ?_
  · intro disabled s
    exact .idle .undefined rfl fun enabled => absurd enabled disabled
  obtain ⟨opened, ended⟩ := run_openRefresh orderly enabled reason group x free
  rcases ran : (openRefresh host setup reason group).run x with ⟨f | opening, t⟩
  · rw [ran] at opened ended
    rw [Act.run_bind_error ran]
    rcases ended with ⟨-, step⟩ | ⟨_, _, _, ok, -⟩
    · exact Begins.of_step (fun _ => ⟨step, opened⟩) free
    · cases ok
  · rw [ran] at opened ended
    rw [Act.run_bind_ok ran]
    rcases ended with ⟨⟨f, failed⟩, -⟩ | ⟨unique, startedAt, markedAt, ok, after⟩
    · cases failed
    have step (task : Nat) : Step setup faultless x.1.state (.refresh reason group) _ :=
      .refreshed reason group unique startedAt markedAt task enabled
    dsimp only [HubState.refreshed] at ok after step opened ⊢
    rw [← after, ← Except.ok.inj ok] at step
    by_cases awaiting : opening.awaiting = true
    · rw [if_pos awaiting, run_setTimer_bind]
      simp only [if_pos awaiting] at step
      refine Begins.trans ?_ (proceeds_requests orderly opening.id opening.requests _) free
      exact .of_step fun _ => ⟨step _, opened⟩
    · rw [if_neg awaiting]
      simp only [if_neg awaiting] at step
      refine Begins.trans ?_ (proceeds_requests orderly opening.id opening.requests t) free
      exact .of_step fun _ => ⟨step 0, opened⟩

theorem setSourceData_begins (key : SourceKey) (payload : Json) (session : Option String) :
    Act.Moves (Begins setup faultless (.setSourceData key payload session))
      (setSourceData host setup key payload session) := by
  refine begins_requireEnabled (fun disabled s => ?_) fun enabled => ?_
  · exact step_of_refused rfl .undefined (if_neg disabled)
  · apply begins_bind (begins_gate (applyData_enters orderly rfl enabled))
    intro changed
    exact Act.moves_bind Proceeds.trans (proceeds_notifyIf orderly changed) fun _ =>
      Act.moves_pure Proceeds.refl changed

theorem reportSourceError_begins (key : SourceKey) (session : Option String) :
    Act.Moves (Begins setup faultless (.reportSourceError key session))
      (reportSourceError host setup key session) := by
  refine begins_requireEnabled (fun disabled s => ?_) fun enabled => ?_
  · exact step_of_refused rfl .undefined (if_neg fun e => disabled e.1)
  · apply begins_bind (begins_gate (applyError_enters orderly rfl enabled))
    exact proceeds_notifyIf orderly

theorem dismissIssue_begins (key : IssueKey) :
    Act.Moves (Begins setup faultless (.dismissIssue key)) (dismissIssue host setup key) := by
  refine begins_requireEnabled (fun disabled s => ?_) fun enabled => ?_
  · exact .idle .undefined (if_neg disabled) fun enabled => absurd enabled disabled
  · refine begins_bind (begins_gate fun x => ?_) fun _ => proceeds_notify orderly
    rw [run_getState_bind, run_now_bind]
    exact performOk_enters orderly (host.now x.2) (by simp) (if_pos enabled)

theorem executeIssueAction_begins (key : IssueKey) (actionId : String) :
    Act.Moves (Begins setup faultless (.executeIssueAction key actionId))
      (executeIssueAction host setup key actionId) := by
  refine begins_requireEnabled (fun disabled s => ?_) fun enabled => ?_
  · exact .idle .undefined (if_neg disabled) fun enabled => absurd enabled disabled
  · refine begins_bind (begins_gate fun x => ?_) fun action => ?_
    · rw [run_getState_bind]
      exact performOk_enters orderly .undefined (by simp) (if_pos enabled)
    · exact Act.moves_bind Proceeds.trans (proceeds_notifyIf orderly _) fun _ =>
        Act.moves_pure Proceeds.refl action

theorem clearAllData_begins :
    Act.Moves (Begins setup faultless .clearAllData) (clearAllData host setup) := by
  refine begins_bind (begins_gate fun x => ?_) fun _ => ?_
  · rw [run_getState_bind]
    exact perform_enters orderly .undefined rfl
  · exact Act.moves_bind Proceeds.trans (proceeds_log host _) fun _ => proceeds_notify orderly

theorem clearForUser_begins (user : UserId) :
    Act.Moves (Begins setup faultless (.clearForUser user)) (clearForUser host setup user) := by
  refine begins_bind (begins_gate fun x => ?_) (proceeds_notifyIf orderly)
  rw [applyClearForUser, run_getState_bind]
  exact perform_message_enters orderly rfl .undefined rfl

theorem exportRecords_begins :
    Act.Moves (Begins setup faultless .exportRecords) (exportRecords host setup) := by
  apply begins_gate
  intro x
  rw [run_getState_bind]
  exact perform_enters orderly .undefined rfl

theorem importRecords_begins (records : List PersistedRecord) :
    Act.Moves (Begins setup faultless (.importRecords records))
      (importRecords host setup records) := by
  refine begins_bind (begins_gate fun x held => ?_) fun _ => proceeds_notify orderly
  obtain ⟨h, logged⟩ := run_logs host x (DismissalLedger.loadLines records)
  rw [applyImport, Act.run_bind_ok logged, run_getState_bind]
  cases imported : x.1.state.importRecords records with
  | error f =>
    have idle : x.1.state.change? setup .undefined (.importRecords records) = none := by
      rw [HubState.change?, imported]
      rfl
    exact ⟨.idle .undefined idle fun _ => by simp, held⟩
  | ok c =>
    have changes : x.1.state.change? setup .undefined (.importRecords records) =
        some c.forget := by
      rw [HubState.change?, imported]
      rfl
    exact perform_enters (x := (x.1, h)) orderly .undefined changes held

theorem handle_begins (message : Message) :
    Act.Moves (Begins setup faultless (.receive message)) ((inbox host setup).handle message) :=
  begins_bind (begins_gate (applyMessage_enters orderly rfl)) (proceeds_notifyIf orderly)

theorem report_proceeds (f : Fault) (message : Message) :
    Act.Moves (Proceeds setup faultless) ((inbox host setup).report f message) :=
  Act.moves_bind Proceeds.trans (proceeds_log host _) fun _ => orderly.onError f message

theorem drain_proceeds (turns : Nat) :
    Act.Moves (Proceeds setup faultless) ((inbox host setup).drain turns) := by
  induction turns with
  | zero => exact Act.moves_pure Proceeds.refl ()
  | succ turns ih =>
    rw [Inbox.drain]
    apply Act.moves_bind Proceeds.trans (Act.moves_get Proceeds.refl)
    intro x
    split
    · exact Act.moves_pure Proceeds.refl ()
    · next message rest _ =>
      refine Act.moves_bind Proceeds.trans (proceeds_change host _) fun _ => ?_
      refine Act.moves_bind Proceeds.trans ?_ fun _ => ih
      refine Act.moves_tryCatch Proceeds.trans ?_ fun f => report_proceeds orderly f message
      exact fun x => (handle_begins orderly message x).proceeds

theorem drainAll_proceeds : Act.Moves (Proceeds setup faultless) (inbox host setup).drainAll := by
  intro x
  have drained := drain_proceeds orderly ((inbox host setup).turns x)
    ((inbox host setup).setDraining true x)
  refine Proceeds.trans _ _ _ ?_ (Proceeds.trans _ _ _ drained ?_)
  · exact .of_same rfl rfl
  · exact .of_same rfl rfl

theorem receive_proceeds (message : Message) :
    Act.Moves (Proceeds setup faultless) (receive host setup message) := by
  rw [receive, Inbox.post]
  refine Act.moves_bind Proceeds.trans (proceeds_change host _) fun _ => ?_
  apply Act.moves_bind Proceeds.trans (Act.moves_get Proceeds.refl)
  intro x
  split
  · exact Act.moves_pure Proceeds.refl ()
  · exact Act.moves_bind Proceeds.trans (drainAll_proceeds orderly) fun _ x => .of_same rfl rfl

theorem drain_begins {message : Message} {rest : List Message} (turns : Nat) (x : Hub × σ)
    (waiting : x.1.mailbox.queue = message :: rest) :
    Begins setup faultless (.receive message) x
      (((inbox host setup).drain (turns + 1)).run x).2 := by
  rw [Inbox.drain, Act.run_bind_ok (Act.run_get x)]
  have waiting : ((inbox host setup).box x).queue = message :: rest := waiting
  rw [waiting]
  dsimp only
  rw [Act.run_bind_ok (Act.run_modify _ x)]
  refine Begins.of_same ?_ ?_ (begins_bind (begins_tryCatch (handle_begins orderly message)
    fun f => report_proceeds orderly f message) (fun _ => drain_proceeds orderly turns) _)
  · rfl
  · rfl

theorem receive_begins (message : Message) (x : Hub × σ) (empty : x.1.mailbox = .empty) :
    Begins setup faultless (.receive message) x ((receive host setup message).run x).2 := by
  have box : ((inbox host setup).change (·.push message) x).1.mailbox = ⟨[message], false⟩ := by
    change x.1.mailbox.push message = _
    rw [empty]
    rfl
  rw [receive, Inbox.post, Act.run_bind_ok (Act.run_modify _ x), Act.run_bind_ok (Act.run_get _)]
  obtain ⟨z, hz⟩ : ∃ z, z = (inbox host setup).change (·.push message) x := ⟨_, rfl⟩
  rw [← hz] at box ⊢
  have idle : ((inbox host setup).box z).draining = false := congrArg Mailbox.draining box
  have turns : (inbox host setup).turns z = host.mayPost z.2 + 1 := by
    change z.1.mailbox.queue.length + host.mayPost z.2 = _
    rw [box]
    exact Nat.add_comm _ _
  rw [idle]
  refine Begins.of_same (y := z) ?_ ?_ (Begins.bind ?_ fun _ y => .of_same rfl rfl)
  · exact hz ▸ rfl
  · exact hz ▸ rfl
  · have waiting : ((inbox host setup).setDraining true z).1.mailbox.queue = message :: [] :=
      congrArg Mailbox.queue box
    rw [Inbox.run_drainAll, turns]
    refine Begins.trans (Begins.of_same ?_ ?_ (drain_begins orderly _ _ waiting)) (.of_same rfl rfl)
    · rfl
    · rfl

theorem look_stays (groups : List UserGroup)
    (x : Hub × σ) :
    Stays x ((perform host setup (x.1.state.pullSafetyState setup groups)).run x).2 := by
  intro held
  obtain ⟨kept, stops, -⟩ := run_perform orderly (x.1.state.pullSafetyState setup groups) x held
  have looks : (x.1.state.pullSafetyState setup groups).Throughout (· = x.1.state) := by
    refine ⟨fun m hm => ?_, rfl⟩
    obtain ⟨signal, -, rfl⟩ := List.mem_map.mp hm
    rfl
  exact ⟨looks.stops stops, kept⟩

theorem pullSafetyState_proceeds (groups : List UserGroup) :
    Act.Moves (Proceeds setup faultless) (pullSafetyState host setup groups) := by
  rw [pullSafetyState]
  split
  · apply proceeds_gate
    intro x
    rw [run_getState_bind]
    refine Act.moves_bind_at Stays.trans (look_stays orderly _ x) fun snapshots => ?_
    cases groups.dropWhile (x.1.state.isDrawable setup) with
    | nil => exact Act.moves_pure Stays.refl _
    | cons group rest =>
      exact Act.moves_bind Stays.trans (logs_stays host _) fun _ =>
        Act.moves_throw Stays.refl .malformedUri
  · exact Act.moves_pure Proceeds.refl _

/-- Running an operation starts with its entry of the gate, and what follows are the entries that
callbacks of the host make. -/
theorem run_begins (operation : Operation) (x : Hub × σ)
    (empty : ∀ message, operation = .receive message → x.1.mailbox = .empty) :
    Begins setup faultless operation x ((run host setup operation).run x).2 := by
  cases operation with
  | refresh reason group => exact begins_map (refresh_begins orderly reason group) _ x
  | receive message =>
    have begins := receive_begins orderly message x (empty message rfl)
    rw [run, ← bind_pure_comp]
    exact begins.bind fun _ => Act.moves_pure Proceeds.refl _
  | setSourceData key payload session =>
    exact begins_map (setSourceData_begins orderly key payload session) _ x
  | reportSourceError key session =>
    exact begins_map (reportSourceError_begins orderly key session) _ x
  | dismissIssue issue => exact begins_map (dismissIssue_begins orderly issue) _ x
  | executeIssueAction issue actionId =>
    exact begins_map (executeIssueAction_begins orderly issue actionId) _ x
  | clearAllData => exact begins_map (clearAllData_begins orderly) _ x
  | clearForUser user => exact begins_map (clearForUser_begins orderly user) _ x
  | exportRecords => exact begins_map (exportRecords_begins orderly) _ x
  | importRecords records => exact begins_map (importRecords_begins orderly records) _ x
  | view group =>
    refine begins_idle (step_of_look (fun _ => rfl) (by simp)) ?_ x
    exact Act.moves_map Proceeds.refl Proceeds.trans (proceeds_view host group) _
  | pullSafetyState groups =>
    refine begins_idle (step_of_look (fun _ => rfl) (by simp)) ?_ x
    exact Act.moves_map Proceeds.refl Proceeds.trans (pullSafetyState_proceeds orderly groups) _
  | refreshStatus =>
    refine begins_idle (step_of_look (fun _ => rfl) (by simp)) ?_ x
    refine Act.moves_map Proceeds.refl Proceeds.trans (proceeds_gate ?_) _
    exact Act.moves_bind Stays.trans getState_stays fun s => Act.moves_pure Stays.refl _
  | isEnabled =>
    exact begins_idle (step_of_look (fun _ => rfl) (by simp)) (Act.moves_pure Proceeds.refl _) x

theorem run_proceeds (operation : Operation) :
    Act.Moves (Proceeds setup faultless) (run host setup operation) := by
  intro x
  by_cases received : ∃ message, operation = .receive message
  · obtain ⟨message, rfl⟩ := received
    exact Act.moves_map Proceeds.refl Proceeds.trans (receive_proceeds orderly message) _ x
  · exact (run_begins orderly operation x fun message h => absurd ⟨message, h⟩ received).proceeds

end Outside

theorem run_subscribe (listener : Nat) (group : UserGroup) {x : Hub × σ}
    (free : x.1.held = false) :
    ((subscribe listener group).run x).2.1.state = x.1.state.rememberGroup group ∧
      ((subscribe listener group).run x).2.1.held = false := by
  have entered : (gate.run do setState ((← getState).rememberGroup group)).run x =
      (.ok (), { x.1 with state := x.1.state.rememberGroup group, held := false }, x.2) :=
    Gate.run_of_free gate _ free
  rw [subscribe, Act.run_bind_ok entered]
  exact ⟨rfl, rfl⟩

theorem run_view_of_free (host : Host σ) {setup : Setup} (enabled : setup.settings.enabled = true)
    {x : Hub × σ} (free : x.1.held = false) (group : UserGroup) :
    (view host setup group).run x = (x.1.state.draw setup group, x.1,
      host.logged (x.1.state.viewLines setup group) x.2) := by
  rw [view, if_pos enabled]
  refine run_gate_of_ran free ?_
  rw [run_getState_bind, Act.run_bind_ok (run_forM_log host _ _)]
  cases x.1.state.draw setup group <;> rfl

theorem run_view (host : Host σ) {setup : Setup} (enabled : setup.settings.enabled = true)
    {x : Hub × σ} (free : x.1.held = false) (group : UserGroup) :
    ∃ h, (run host setup (.view group)).run x =
      ((x.1.state.draw setup group).map .view, x.1, h) := by
  refine ⟨host.logged (x.1.state.viewLines setup group) x.2, ?_⟩
  rw [run, Act.run_map, run_view_of_free host enabled free group]

theorem run_view_of_drawable (host : Host σ) {setup : Setup}
    (enabled : setup.settings.enabled = true) {x : Hub × σ} (free : x.1.held = false)
    {group : UserGroup} (drawable : x.1.state.isDrawable setup group = true) :
    ∃ h, (run host setup (.view group)).run x =
      (.ok (.view (x.1.state.view setup group)), x.1, h) := by
  obtain ⟨h, viewed⟩ := run_view host enabled free group
  rw [HubState.draw_of_drawable drawable] at viewed
  exact ⟨h, viewed⟩

/-- What a look at a group gives, unless it fails; a disabled hub shows nothing. -/
def shown (setup : Setup) (s : HubState) (group : UserGroup) : Except Fault View :=
  if setup.settings.enabled then s.draw setup group else .ok .disabled

theorem run_look (host : Host σ) (setup : Setup) {x : Hub × σ} (free : x.1.held = false)
    (group : UserGroup) : ∃ h, (run host setup (.view group)).run x =
      ((shown setup x.1.state group).map .view, x.1, h) := by
  rw [shown]
  split
  · next enabled => exact run_view host enabled free group
  · next disabled =>
    refine ⟨x.2, Act.run_map_ok ?_ Answer.view⟩
    rw [view, if_neg disabled]
    rfl

/-- A look at a group leaves the hub as it is. It gives a view, of which `P` holds, unless a garbled
text would have to be encoded for it. -/
def LooksAt (host : Host σ) (setup : Setup) (x : Hub × σ) (group : UserGroup)
    (P : View → Prop) : Prop :=
  ∃ h, if setup.settings.enabled && !x.1.state.isDrawable setup group then
      (run host setup (.view group)).run x = (.error .malformedUri, x.1, h)
    else ∃ v, (run host setup (.view group)).run x = (.ok (.view v), x.1, h) ∧ P v

theorem looksAt (host : Host σ) (setup : Setup) {x : Hub × σ} (free : x.1.held = false)
    (group : UserGroup) {P : View → Prop}
    (holds : ∀ v, shown setup x.1.state group = .ok v → P v) : LooksAt host setup x group P := by
  obtain ⟨h, viewed⟩ := run_look host setup free group
  refine ⟨h, ?_⟩
  rw [shown] at viewed holds
  cases enabled : setup.settings.enabled with
  | false =>
    rw [enabled] at viewed holds
    exact ⟨_, viewed, holds _ rfl⟩
  | true =>
    rw [enabled, if_pos rfl] at viewed holds
    cases drawable : x.1.state.isDrawable setup group with
    | true =>
      rw [HubState.draw_of_drawable drawable] at viewed holds
      exact ⟨_, viewed, holds _ rfl⟩
    | false =>
      rw [HubState.draw_of_garbled drawable] at viewed
      exact viewed

theorem looksAt_view (host : Host σ) {setup : Setup} (enabled : setup.settings.enabled = true)
    {x : Hub × σ} (free : x.1.held = false) {group : UserGroup} {P : View → Prop}
    (holds : x.1.state.isDrawable setup group = true → P (x.1.state.view setup group)) :
    LooksAt host setup x group P := by
  refine looksAt host setup free group fun v drawn => ?_
  rw [shown, if_pos enabled, HubState.draw, View.draw] at drawn
  split at drawn
  · next drawable =>
    cases drawn
    exact holds drawable
  · cases drawn

theorem LooksAt.of_drawable {host : Host σ} {setup : Setup} {x : Hub × σ} {group : UserGroup}
    {P : View → Prop} (h : LooksAt host setup x group P)
    (drawable : x.1.state.isDrawable setup group = true) :
    ∃ v h, (run host setup (.view group)).run x = (.ok (.view v), x.1, h) ∧ P v := by
  obtain ⟨h, looks⟩ := h
  rw [drawable, Bool.not_true, Bool.and_false] at looks
  obtain ⟨v, viewed, holds⟩ := looks
  exact ⟨v, h, viewed, holds⟩

theorem run_refreshStatus (host : Host σ) (setup : Setup) {x : Hub × σ}
    (free : x.1.held = false) :
    (run host setup .refreshStatus).run x = (.ok (.status x.1.state.coordinator.status), x) := by
  refine Act.run_map_ok ?_ Answer.status
  have looked : refreshStatus.run x = (.ok x.1.state.coordinator.status, _) :=
    Gate.run_of_free HubAct.gate _ free
  rw [looked]
  obtain ⟨⟨state, held, mailbox, subscriptions⟩, h⟩ := x
  cases free
  rfl

/-- A hub after a sequence of operations, with a history that accounts for its state: to each
operation its own entry, and after it the entries that callbacks of the host made before the
operation returned. A message that comes while others are waiting is handled after them. Between
operations the host goes on by itself. -/
inductive Reached (host : Host σ) (setup : Setup) (faultless : Prop) :
    List Entered → Hub × σ → Prop where
  | start (h : σ) : Reached host setup faultless [] (.initial setup.settings, h)
  | run {history x} (operation more) : Reached host setup faultless history x →
      Execution setup faultless x.1.state (⟨x.1.state, operation⟩ :: more)
        ((run host setup operation).run x).2.1.state →
      Reached host setup faultless (history ++ ⟨x.1.state, operation⟩ :: more)
        ((run host setup operation).run x).2
  | deliver {history x} (message entries) : Reached host setup faultless history x →
      x.1.mailbox ≠ .empty →
      Execution setup faultless x.1.state entries
        ((run host setup (.receive message)).run x).2.1.state →
      Reached host setup faultless (history ++ entries)
        ((run host setup (.receive message)).run x).2
  | subscribe {history x} (listener group) : Reached host setup faultless history x →
      Reached host setup faultless history ((subscribe listener group).run x).2
  | unsubscribe {history x} (listener) : Reached host setup faultless history x →
      Reached host setup faultless history ((unsubscribe listener).run x).2
  | elapse {history hub h} (h') : Reached host setup faultless history (hub, h) →
      Reached host setup faultless history (hub, h')

namespace Reached

variable {host : Host σ} {setup : Setup} {faultless : Prop} (orderly : host.Orderly setup faultless)
  {history : List Entered} {x : Hub × σ}
include orderly

theorem free (h : Reached host setup faultless history x) : x.1.held = false := by
  induction h with
  | start h => rfl
  | run operation more _ _ ih => exact (run_proceeds orderly operation _ ih).2
  | deliver message entries _ _ _ ih => exact (run_proceeds orderly (.receive message) _ ih).2
  | subscribe listener group _ ih => exact (run_subscribe listener group ih).2
  | unsubscribe listener _ ih => exact ih
  | elapse h' _ ih => exact ih

theorem execution (h : Reached host setup faultless history x) :
    Execution setup faultless (.initial setup.settings) history x.1.state := by
  induction h with
  | start h => exact .refl _
  | run operation more _ entries ih => exact ih.trans entries
  | deliver message entries _ _ handled ih => exact ih.trans handled
  | subscribe listener group reached ih =>
    rw [(run_subscribe listener group (reached.free orderly)).1]
    exact ih.subscribe group
  | unsubscribe listener _ ih => exact ih
  | elapse h' _ ih => exact ih

theorem next (h : Reached host setup faultless history x) (operation : Operation) :
    ∃ entries, Reached host setup faultless (history ++ entries)
      ((Hub.run host setup operation).run x).2 := by
  have free := h.free orderly
  by_cases waiting : ∃ message, operation = .receive message ∧ x.1.mailbox ≠ .empty
  · obtain ⟨message, rfl, waiting⟩ := waiting
    obtain ⟨entries, handled⟩ := (run_proceeds orderly (.receive message) x free).1
    exact ⟨entries, h.deliver message entries waiting handled⟩
  · have empty : ∀ message, operation = .receive message → x.1.mailbox = .empty := by
      intro message received
      by_contra full
      exact waiting ⟨message, received, full⟩
    obtain ⟨more, entered⟩ := (run_begins orderly operation x empty free).1
    exact ⟨_, h.run operation more entered⟩

omit orderly in
/-- An operation after which the state is just what its own entry leaves. -/
theorem quietly (h : Reached host setup faultless history x) {operation : Operation} (now : Number)
    (changes : (x.1.state.change? setup now operation).map (·.after) =
      some ((Hub.run host setup operation).run x).2.1.state) :
    Reached host setup faultless (history ++ [⟨x.1.state, operation⟩])
      ((Hub.run host setup operation).run x).2 := by
  obtain ⟨c, made, after⟩ := Option.map_eq_some_iff.mp changes
  exact h.run operation [] (.single (.change now made (Or.inl after.symm)))

end Reached

def silent : Host Unit where
  now _ := 0
  unique _ := ("u", ())
  log _ _ := ()
  cancel _ _ := ()
  schedule _ _ _ := (0, ())
  emit _ := pure ()
  request _ := pure ()
  listen _ _ := pure ()
  onError _ _ := pure ()
  mayPost _ := 0

theorem silent_orderly (setup : Setup) (faultless : Prop) : silent.Orderly setup faultless where
  emit := fun _ => Act.moves_pure Stays.refl ()
  emit_ok := fun _ _ _ _ => rfl
  request := fun _ => Act.moves_pure Proceeds.refl ()
  listen := fun _ _ => Act.moves_pure Proceeds.refl ()
  onError := fun _ _ => Act.moves_pure Proceeds.refl ()

/-- A report of one issue, the id of which is an unpaired surrogate. -/
def garbledReport : Operation :=
  .setSourceData ⟨"wifi", 1⟩ (.object [("issues", .array [.object [
    ("id", .string (.ofUnits [0xD800])), ("typeId", .string "network"),
    ("severity", .string "recommendation"), ("title", .string "Open"),
    ("summary", .string "Anyone can listen")]])]) none

structure Diary where
  lines : List LogLine
  events : List TelemetryEvent
  views : List (Nat × View)

/-- A host that only remembers what it is told. -/
def diary : Host Diary where
  now _ := 0
  unique d := ("u", d)
  log line d := { d with lines := d.lines ++ [line] }
  cancel _ d := d
  schedule _ _ d := (0, d)
  emit e := tell fun d => { d with events := d.events ++ [e] }
  request _ := pure ()
  listen listener view := tell fun d => { d with views := d.views ++ [(listener, view)] }
  onError _ _ := pure ()
  mayPost _ := 0

theorem diary_orderly (setup : Setup) (faultless : Prop) : diary.Orderly setup faultless where
  emit := fun _ _ held => ⟨rfl, held⟩
  emit_ok := fun _ _ _ _ => rfl
  request := fun _ => Act.moves_pure Proceeds.refl ()
  listen := fun _ _ _ => .of_same rfl rfl
  onError := fun _ _ => Act.moves_pure Proceeds.refl ()

end Hub

end SafetyBoard
