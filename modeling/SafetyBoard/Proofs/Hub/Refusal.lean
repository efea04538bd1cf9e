import SafetyBoard.Proofs.Hub.Reached

/-!
# What a refusal leaves behind

Whatever an operation may be refused for is checked before it changes anything or speaks to anybody,
so an operation that fails has written to the log at most. A message whose handling fails is taken
out of the inbox, and for the rest it is as if it had not come. Both rely on a sink and a transport
that do not fail; a listener may. Only a text that has no encoding is met on the way.
-/

namespace SafetyBoard

variable {σ α : Type}

/-- A host whose sink and transport do not fail. Its clock and its timers have no way to. -/
structure Host.Steady (host : Host σ) : Prop where
  emit : ∀ e, Act.Sure (host.emit e)
  request : ∀ r, Act.Sure (host.request r)

namespace Hub

open HubAct

variable {host : Host σ} {setup : Setup}

/-- The hub is as it was, and of the host at most the log was used: no event was told, no listener
called, nothing sent and no timer touched. -/
def Untouched (host : Host σ) (x y : Hub × σ) : Prop :=
  y.1 = x.1 ∧ ∃ lines, y.2 = host.logged lines x.2

theorem Untouched.refl (x : Hub × σ) : Untouched host x x := ⟨rfl, [], rfl⟩

theorem Untouched.log {x y : Hub × σ} (h : Untouched host x y) (line : LogLine) :
    Untouched host x (y.1, host.log line y.2) := by
  obtain ⟨same, lines, logged⟩ := h
  refine ⟨same, lines ++ [line], ?_⟩
  rw [logged, Host.logged_append]
  rfl

/-- Whatever fails but for a text that has no encoding. -/
def IsRefusal (f : Fault) : Prop := f ≠ .malformedUri

/-- The hub is untouched, unless a text without an encoding is met in a state that `Q` rules out. -/
def Keeps (Q : HubState → Prop) (host : Host σ) (f : Fault) (x y : Hub × σ) : Prop :=
  (f = .malformedUri → Q x.1.state) → Untouched host x y

theorem Keeps.refl (Q : HubState → Prop) (f : Fault) (x : Hub × σ) : Keeps Q host f x x :=
  fun _ => .refl x

def queued (queue : List Message) (x : Hub × σ) : Hub × σ :=
  ({ x.1 with mailbox := { x.1.mailbox with queue } }, x.2)

theorem sure_getState : Act.Sure (getState : HubAct σ HubState) := fun x => ⟨_, x, rfl⟩

theorem sure_now : Act.Sure (now host) := fun x => ⟨_, x, rfl⟩

theorem sure_log (line : LogLine) : Act.Sure (log host line) := fun _ => ⟨(), _, rfl⟩

theorem sure_notify (host : Host σ) (setup : Setup) : Act.Sure (notify host setup) := by
  apply Act.sure_bind Act.sure_get
  intro x
  exact Act.sure_forM fun subscription => Act.sure_tryCatch fun f => sure_log _

theorem sure_notifyIf (host : Host σ) (setup : Setup) (changed : Bool) :
    Act.Sure (notifyIf host setup changed) := by
  rw [notifyIf]
  split
  · exact sure_notify host setup
  · exact Act.sure_pure ()

section Steady

variable (steady : host.Steady)
include steady

theorem sure_speak (signal : Signal) : Act.Sure (speak host setup signal) := by
  cases signal with
  | log line => exact sure_log line
  | cancel task => exact fun _ => ⟨(), _, rfl⟩
  | event e =>
    change Act.Sure (if setup.settings.telemetryEnabled then host.emit e else pure ())
    split
    · exact steady.emit e
    · exact Act.sure_pure ()

theorem sure_perform (change : Change HubState α) : Act.Sure (perform host setup change) := by
  refine Act.sure_bind (Act.sure_forM fun m => ?_) fun _ x => ⟨change.result, _, rfl⟩
  exact Act.sure_bind (fun _ => ⟨(), _, rfl⟩) fun _ => sure_speak steady m.2

end Steady

variable {Q : HubState → Prop}

theorem fails_gate {body : HubAct σ α} (h : Act.Fails (Keeps Q host) body) :
    Act.Fails (Keeps Q host) (gate.run body) := by
  intro x f y failed counts
  cases held : x.1.held with
  | true =>
    cases (Gate.run_of_held gate body held).symm.trans failed
    exact .refl x
  | false =>
    rw [Gate.run_of_free gate body held] at failed
    rcases ran : body.run (gate.setHeld true x) with ⟨g | a, z⟩
    · rw [ran] at failed
      cases failed
      obtain ⟨same, lines, logged⟩ := h _ _ _ ran counts
      refine ⟨?_, lines, logged⟩
      obtain ⟨⟨state, _, mailbox, subscriptions⟩, h⟩ := x
      cases held
      change { z.1 with held := false } = _
      rw [same]
      rfl
    · rw [ran] at failed
      cases failed

/-- A body that starts from the state and cannot fail is only refused at the gate. -/
theorem fails_gate_of_sure {next : HubState → HubAct σ α} (h : ∀ s, Act.Sure (next s)) :
    Act.Fails (Keeps Q host) (gate.run (getState >>= next)) :=
  fails_gate (Act.sure_bind sure_getState h).fails

theorem fails_requireEnabled (operation : String) {next : Unit → HubAct σ α}
    (h : Act.Fails (Keeps Q host) (next ())) :
    Act.Fails (Keeps Q host) (requireEnabled setup operation >>= next) := by
  intro x f y failed counts
  by_cases enabled : setup.settings.enabled = true
  · rw [run_requireEnabled_bind x enabled] at failed
    exact h x f y failed counts
  · rw [run_requireEnabled_refused x enabled] at failed
    cases failed
    exact .refl x

section Steady

variable (steady : host.Steady)
include steady

theorem fails_performOk (c : Except HubError (Change HubState α)) :
    Act.Fails (Keeps Q host) (performOk host setup c) := by
  cases c with
  | error e => exact Act.fails_throw (Keeps.refl Q _)
  | ok change => exact (sure_perform steady change).fails

theorem fails_applyData {key : SourceKey} {payload : Json} {session : Option String}
    (spelled : ∀ s, Q s → s.Spells setup (.sourceData key payload session)) :
    Act.Fails (Keeps Q host) (applyData host setup key payload session) := by
  intro x f y failed counts
  cases accepted : x.1.state.acceptPayload setup.registry key payload with
  | error e =>
    rw [applyData, run_getState_bind, accepted] at failed
    exact Act.fails_throw (Keeps.refl Q (.hub e)) x f y failed counts
  | ok report =>
    rw [run_applyData host accepted] at failed
    split at failed
    · exact (sure_perform steady _).fails (R := Keeps Q host) x f y failed counts
    · next garbled =>
      cases failed
      exact absurd (spelled _ (counts rfl) report accepted) garbled

theorem fails_applyError (key : SourceKey) (session : Option String) :
    Act.Fails (Keeps Q host) (applyError host setup key session) := by
  rw [applyError]
  cases setup.registry.source? key.sourceId with
  | none => exact Act.fails_throw (Keeps.refl Q _)
  | some source =>
    refine Act.Sure.fails (Act.sure_bind sure_getState fun s => ?_)
    exact Act.sure_bind sure_now fun _ => sure_perform steady _

theorem sure_applyClearForUser (user : UserId) :
    Act.Sure (applyClearForUser host setup user) :=
  Act.sure_bind sure_getState fun _ => sure_perform steady _

theorem fails_applyMessage {message : Message} (spelled : ∀ s, Q s → s.Spells setup message) :
    Act.Fails (Keeps Q host) (applyMessage host setup message) := by
  cases message with
  | sourceData key payload session =>
    exact fails_requireEnabled _ (fails_applyData steady spelled)
  | sourceError key session =>
    exact fails_requireEnabled _ (fails_applyError steady key session)
  | refreshTimeout id =>
    refine Act.Sure.fails (Act.sure_bind sure_getState fun s => ?_)
    exact Act.sure_bind sure_now fun _ => sure_perform steady _
  | userRemoved user => exact (sure_applyClearForUser steady user).fails

theorem fails_handle {message : Message} (spelled : ∀ s, Q s → s.Spells setup message) :
    Act.Fails (Keeps Q host) ((inbox host setup).handle message) :=
  Act.fails_bind (fails_gate (fails_applyMessage steady spelled)) (sure_notifyIf host setup)

theorem fails_refresh (reason : RefreshReason) (group : UserGroup) :
    Act.Fails (Keeps Q host) (refresh host setup reason group) := by
  refine fails_requireEnabled _ (Act.fails_bind (fails_gate (Act.Sure.fails ?_)) fun opened => ?_)
  · refine Act.sure_bind sure_now fun startedAt => Act.sure_bind sure_getState fun s => ?_
    refine Act.sure_bind (sure_perform steady _) fun _ => ?_
    refine Act.sure_bind (fun x => ⟨_, _, rfl⟩) fun unique => Act.sure_bind sure_now fun _ => ?_
    exact Act.sure_bind sure_getState fun s => sure_perform steady _
  · have asked : Act.Sure (do
        opened.requests.forM host.request
        notify host setup
        return opened.id : HubAct σ String) := by
      refine Act.sure_bind (Act.sure_forM steady.request) fun _ => ?_
      exact Act.sure_bind (sure_notify host setup) fun _ => Act.sure_pure opened.id
    dsimp only
    split
    · exact Act.sure_bind (fun x => ⟨(), _, rfl⟩) fun _ => asked
    · exact asked

theorem fails_setSourceData {key : SourceKey} {payload : Json} {session : Option String}
    (spelled : ∀ s, Q s → s.Spells setup (.sourceData key payload session)) :
    Act.Fails (Keeps Q host) (setSourceData host setup key payload session) := by
  apply fails_requireEnabled
  refine Act.fails_bind (fails_gate (fails_applyData steady spelled)) ?_
  exact fun changed => Act.sure_bind (sure_notifyIf host setup changed) fun _ => Act.sure_pure changed

theorem fails_reportSourceError (key : SourceKey) (session : Option String) :
    Act.Fails (Keeps Q host) (reportSourceError host setup key session) := by
  apply fails_requireEnabled
  exact Act.fails_bind (fails_gate (fails_applyError steady key session))
    (sure_notifyIf host setup)

theorem fails_dismissIssue (key : IssueKey) :
    Act.Fails (Keeps Q host) (dismissIssue host setup key) := by
  apply fails_requireEnabled
  refine Act.fails_bind (fails_gate fun x f y failed counts => ?_) fun _ => sure_notify host setup
  rw [run_getState_bind, run_now_bind] at failed
  exact fails_performOk steady _ x f y failed counts

theorem fails_executeIssueAction (key : IssueKey) (actionId : String) :
    Act.Fails (Keeps Q host) (executeIssueAction host setup key actionId) := by
  apply fails_requireEnabled
  refine Act.fails_bind (fails_gate fun x f y failed counts => ?_) fun action => ?_
  · rw [run_getState_bind] at failed
    exact fails_performOk steady _ x f y failed counts
  · exact Act.sure_bind (sure_notifyIf host setup _) fun _ => Act.sure_pure action

theorem fails_importRecords (records : List PersistedRecord) :
    Act.Fails (Keeps Q host) (importRecords host setup records) := by
  refine Act.fails_bind (fails_gate fun x f y failed counts => ?_) fun _ => sure_notify host setup
  rw [applyImport, Act.run_bind_ok (run_forM_log host x _), run_getState_bind] at failed
  let z : Hub × σ := (x.1, host.logged (DismissalLedger.loadLines records) x.2)
  have kept : Keeps Q host f z y := by
    cases imported : x.1.state.importRecords records with
    | error g =>
      rw [imported] at failed
      exact Act.fails_throw (Keeps.refl Q g) z f y failed
    | ok change =>
      rw [imported] at failed
      exact (sure_perform steady change).fails z f y failed
  obtain ⟨same, lines, logged⟩ := kept counts
  refine ⟨same, DismissalLedger.loadLines records ++ lines, ?_⟩
  rw [logged, Host.logged_append]

theorem fails_clearAllData : Act.Fails (Keeps Q host) (clearAllData host setup) := by
  refine Act.fails_bind (fails_gate_of_sure fun _ => sure_perform steady _) fun _ => ?_
  exact Act.sure_bind (sure_log _) fun _ => sure_notify host setup

theorem fails_clearForUser (user : UserId) :
    Act.Fails (Keeps Q host) (clearForUser host setup user) :=
  Act.fails_bind (fails_gate_of_sure fun _ => sure_perform steady _) (sure_notifyIf host setup)

/-- Before a garbled text is met, the events of the groups before it have been told. -/
theorem fails_pullSafetyState (never : ∀ s, ¬Q s) (groups : List UserGroup) :
    Act.Fails (Keeps Q host) (pullSafetyState host setup groups) := by
  rw [pullSafetyState]
  split
  · refine fails_gate fun x f y failed counts => ?_
    let drawn := groups.takeWhile (x.1.state.isDrawable setup)
    have performs : Act.Sure (perform host setup (x.1.state.pullSafetyState setup drawn)) :=
      sure_perform steady _
    obtain ⟨snapshots, z, performed⟩ := performs x
    rw [run_getState_bind, Act.run_bind_ok performed] at failed
    split at failed
    · cases failed
    · rw [Act.run_bind_ok (run_forM_log host z _)] at failed
      cases failed
      exact absurd (counts rfl) (never _)
  · exact (Act.sure_pure _).fails

omit steady in
theorem fails_view (group : UserGroup) :
    Act.Fails (Keeps Q host) (view host setup group) := by
  rw [view]
  split
  · refine fails_gate fun x f y failed _ => ?_
    rw [run_getState_bind, Act.run_bind_ok (run_forM_log host x _)] at failed
    cases drawn : x.1.state.draw setup group with
    | error f =>
      rw [drawn] at failed
      cases failed
      exact ⟨rfl, _, rfl⟩
    | ok v =>
      rw [drawn] at failed
      cases failed
  · exact (Act.sure_pure _).fails

/-- An operation that fails leaves no trace but in the log. -/
theorem fails_run {operation : Operation} (direct : ∀ message, operation ≠ .receive message)
    (spelled : ∀ s, Q s → ∀ message, operation.message? = some message → s.Spells setup message)
    (pulls : ∀ groups, operation = .pullSafetyState groups → ∀ s, ¬Q s) :
    Act.Fails (Keeps Q host) (run host setup operation) := by
  cases operation with
  | refresh reason group => exact Act.fails_map (fails_refresh steady reason group) _
  | receive message => exact absurd rfl (direct message)
  | setSourceData key payload session =>
    exact Act.fails_map (fails_setSourceData steady fun s holds => spelled s holds _ rfl) _
  | reportSourceError key session =>
    exact Act.fails_map (fails_reportSourceError steady key session) _
  | dismissIssue issue => exact Act.fails_map (fails_dismissIssue steady issue) _
  | executeIssueAction issue actionId =>
    exact Act.fails_map (fails_executeIssueAction steady issue actionId) _
  | clearAllData => exact Act.fails_map (fails_clearAllData steady) _
  | clearForUser user => exact Act.fails_map (fails_clearForUser steady user) _
  | exportRecords => exact Act.fails_map (fails_gate_of_sure fun _ => sure_perform steady _) _
  | importRecords records => exact Act.fails_map (fails_importRecords steady records) _
  | view group => exact Act.fails_map (fails_view group) _
  | pullSafetyState groups =>
    exact Act.fails_map (fails_pullSafetyState steady (pulls groups rfl) groups) _
  | refreshStatus => exact Act.fails_map (fails_gate_of_sure fun s => Act.sure_pure _) _
  | isEnabled => exact (Act.sure_pure _).fails

end Steady

theorem drain_of_empty {x : Hub × σ} (empty : x.1.mailbox.queue = []) (turns : Nat) :
    ((inbox host setup).drain turns).run x = (.ok (), x) := by
  have empty : ((inbox host setup).box x).queue = [] := empty
  cases turns with
  | zero => rfl
  | succ turns =>
    rw [Inbox.drain, Act.run_bind_ok (Act.run_get x), empty]
    rfl

/-- A message that comes while nothing is waiting is drained at once. -/
theorem run_post {message : Message} {x y : Hub × σ} (empty : x.1.mailbox = .empty)
    {result : Except Fault Unit}
    (drained : ((inbox host setup).drain (host.mayPost x.2 + 1)).run
      ({ x.1 with mailbox := ⟨[message], true⟩ }, x.2) = (result, y)) :
    (receive host setup message).run x =
      (do
        (ExceptT.mk fun _ => (result, (inbox host setup).setDraining false y) : HubAct σ Unit)
        modify (inbox host setup).drained : HubAct σ Unit).run x := by
  obtain ⟨⟨state, held, mailbox, subscriptions⟩, h⟩ := x
  cases empty
  rw [receive, Inbox.post, Act.run_bind_ok (Act.run_modify _ _), Act.run_bind_ok (Act.run_get _)]
  have turns : (inbox host setup).turns (⟨state, held, ⟨[message], false⟩, subscriptions⟩, h) =
      host.mayPost h + 1 := Nat.add_comm _ _
  have all : (inbox host setup).drainAll.run
      (⟨state, held, ⟨[message], false⟩, subscriptions⟩, h) =
        (result, (inbox host setup).setDraining false y) := by
    rw [Inbox.run_drainAll, turns]
    exact congrArg (Prod.map id ((inbox host setup).setDraining false)) drained
  exact Act.run_bind_congr all _

theorem run_receive {message : Message} {x y : Hub × σ} (empty : x.1.mailbox = .empty)
    (drained : ((inbox host setup).drain (host.mayPost x.2 + 1)).run
      ({ x.1 with mailbox := ⟨[message], true⟩ }, x.2) = (.ok (), y)) :
    (receive host setup message).run x =
      (.ok (), { y.1 with mailbox := { y.1.mailbox with draining := false } },
        host.log (.line .debug "SerialInbox" "Inbox drained" none) y.2) :=
  (run_post empty drained).trans (Act.run_bind_ok rfl _)

/-- If the one to whom a failure is reported fails as well, so does the call. -/
theorem run_receive_failed {message : Message} {x y : Hub × σ} (empty : x.1.mailbox = .empty)
    {f : Fault} (drained : ((inbox host setup).drain (host.mayPost x.2 + 1)).run
      ({ x.1 with mailbox := ⟨[message], true⟩ }, x.2) = (.error f, y)) :
    (receive host setup message).run x =
      (.error f, { y.1 with mailbox := { y.1.mailbox with draining := false } }, y.2) :=
  (run_post empty drained).trans (Act.run_bind_error rfl _)

theorem drain_of_handled {message : Message} {rest : List Message} {x y : Hub × σ}
    (waiting : x.1.mailbox.queue = message :: rest)
    (handled : ((inbox host setup).handle message).run (queued rest x) = (.ok (), y))
    (turns : Nat) :
    ((inbox host setup).drain (turns + 1)).run x = ((inbox host setup).drain turns).run y := by
  have waiting : ((inbox host setup).box x).queue = message :: rest := waiting
  rw [Inbox.drain, Act.run_bind_ok (Act.run_get x), waiting]
  dsimp only
  rw [Act.run_bind_ok (Act.run_modify _ x)]
  exact Act.run_bind_ok (Act.run_tryCatch_ok handled _) _

/-- A message whose handling fails is taken from the inbox, and the failure is reported. -/
theorem drain_of_failed {message : Message} {rest : List Message} {x : Hub × σ}
    (waiting : x.1.mailbox.queue = message :: rest) {f : Fault} {y : Hub × σ}
    (failed : ((inbox host setup).handle message).run (queued rest x) = (.error f, y))
    (turns : Nat) : ∃ line, ((inbox host setup).drain (turns + 1)).run x =
      (host.onError f message >>= fun _ => (inbox host setup).drain turns).run
        (y.1, host.log line y.2) := by
  refine ⟨.ofFault f [("component", .string "SerialInbox")], ?_⟩
  have waiting : ((inbox host setup).box x).queue = message :: rest := waiting
  rw [Inbox.drain, Act.run_bind_ok (Act.run_get x), waiting]
  dsimp only
  rw [Act.run_bind_ok (Act.run_modify _ x)]
  apply Act.run_bind_congr
  refine (Act.run_tryCatch_error failed _).trans ?_
  exact Act.run_bind_ok (show (log host _).run y = _ from rfl) _

theorem drain_of_refused {message : Message} {rest : List Message} {x : Hub × σ}
    (waiting : x.1.mailbox.queue = message :: rest) {f : Fault} {y : Hub × σ}
    (failed : ((inbox host setup).handle message).run (queued rest x) = (.error f, y))
    (untouched : Untouched host (queued rest x) y) (turns : Nat) :
    ∃ z, Untouched host (queued rest x) z ∧
      ((inbox host setup).drain (turns + 1)).run x =
        (host.onError f message >>= fun _ => (inbox host setup).drain turns).run z := by
  obtain ⟨line, drained⟩ := drain_of_failed waiting failed turns
  exact ⟨_, untouched.log line, drained⟩

/-- With nothing else waiting, it is as if the message had not come, unless the one to whom the
failure is reported does something about it. -/
theorem receive_of_refused {message : Message} {x : Hub × σ} (empty : x.1.mailbox = .empty)
    {f : Fault} {y : Hub × σ}
    (failed : ((inbox host setup).handle message).run
      ({ x.1 with mailbox := ⟨[], true⟩ }, x.2) = (.error f, y))
    (untouched : Untouched host ({ x.1 with mailbox := ⟨[], true⟩ }, x.2) y)
    (unheard : host.onError f message = pure ()) :
    ∃ z, Untouched host x z ∧ (receive host setup message).run x = (.ok (), z) := by
  obtain ⟨z, ⟨same, lines, logged⟩, drained⟩ := drain_of_refused
    (x := ({ x.1 with mailbox := ⟨[message], true⟩ }, x.2)) rfl failed untouched (host.mayPost x.2)
  have gone : z.1.mailbox.queue = [] := congrArg (·.mailbox.queue) same
  rw [unheard, Act.run_bind_ok (Act.run_pure () z), drain_of_empty gone] at drained
  have ended : { z.1 with mailbox := { z.1.mailbox with draining := false } } = x.1 := by
    rw [same]
    change { x.1 with mailbox := Mailbox.empty } = x.1
    rw [← empty]
  have untouched : Untouched host x (_, z.2) := ⟨ended, lines, logged⟩
  exact ⟨_, untouched.log _, run_receive empty drained⟩

/-- Operations are atomic: one that is refused leaves the hub as it was and has told nobody, and a
message whose handling is refused is taken from the inbox with no other effect, so that the source
that sent it is awaited as before. -/
theorem refused_leaves_no_trace (steady : host.Steady) (setup : Setup) (x : Hub × σ) :
    (∀ operation, (∀ message, operation ≠ .receive message) →
      ∀ f, IsRefusal f → ((run host setup operation).run x).1 = .error f →
        Untouched host x ((run host setup operation).run x).2) ∧
    (∀ message rest, x.1.mailbox.queue = message :: rest →
      ∀ f, IsRefusal f → (((inbox host setup).handle message).run (queued rest x)).1 = .error f →
        ∀ turns, ∃ z, Untouched host (queued rest x) z ∧
          ((inbox host setup).drain (turns + 1)).run x =
            (host.onError f message >>= fun _ => (inbox host setup).drain turns).run z) ∧
    ∀ message, x.1.mailbox = .empty →
      ∀ f, IsRefusal f → (((inbox host setup).handle message).run
          ({ x.1 with mailbox := ⟨[], true⟩ }, x.2)).1 = .error f →
        host.onError f message = pure () →
        ((run host setup (.receive message)).run x).1 = .ok .nothing ∧
          Untouched host x ((run host setup (.receive message)).run x).2 := by
  have refused {message : Message} {y : Hub × σ} {f : Fault} (counts : IsRefusal f)
      (failed : (((inbox host setup).handle message).run y).1 = .error f) :
      Untouched host y (((inbox host setup).handle message).run y).2 :=
    fails_handle (Q := fun _ => False) steady (fun _ => False.elim) y f _ (Prod.ext failed rfl)
      counts
  refine ⟨fun operation direct f counts failed => ?_,
    fun message rest waiting f counts failed => ?_, ?_⟩
  · exact fails_run (Q := fun _ => False) steady direct (fun _ => False.elim) (fun _ _ _ => id) x f
      _ (Prod.ext failed rfl) counts
  · exact drain_of_refused waiting (Prod.ext failed rfl) (refused counts failed)
  · intro message empty f counts failed unheard
    obtain ⟨z, untouched, received⟩ :=
      receive_of_refused empty (Prod.ext failed rfl) (refused counts failed) unheard
    have ran : (run host setup (.receive message)).run x = (.ok .nothing, z) :=
      Act.run_map_ok received _
    rw [ran]
    exact ⟨rfl, untouched⟩

/-- What an answer is refused for, if it is. -/
def refusal? {β : Type} : Except Fault β → Option ErrorCategory
  | .error f => some f.category
  | .ok _ => none

theorem exists_refusal {β : Type} {result : Except Fault β} {category : ErrorCategory}
    (refused : refusal? result = some category) (known : category ≠ .unknown) :
    ∃ f, IsRefusal f ∧ result = .error f := by
  cases result with
  | error f =>
    refine ⟨f, ?_, rfl⟩
    rintro rfl
    cases refused
    exact known rfl
  | ok a => cases refused

theorem diary_steady : diary.Steady where
  emit := fun _ _ => ⟨(), _, rfl⟩
  request := fun _ => Act.sure_pure ()

theorem diary_logged (lines : List LogLine) (d : Diary) :
    diary.logged lines d = { d with lines := d.lines ++ lines } := by
  induction lines generalizing d with
  | nil => simp [Host.logged]
  | cons line rest ih =>
    rw [Host.logged, List.foldl_cons, ← Host.logged, ih]
    simp [diary]

theorem diary_untouched {x y : Hub × Diary} (h : Untouched diary x y) :
    y.1 = x.1 ∧ y.2.events = x.2.events ∧ y.2.views = x.2.views := by
  obtain ⟨same, lines, logged⟩ := h
  rw [logged, diary_logged]
  exact ⟨same, rfl, rfl⟩

/-- An answer without anything in it is refused, and the refresh waits for its source as before. -/
theorem refused_leaves_no_trace_awaited :
    let source : Source :=
      ⟨"wifi", .primary, false, .issueOnly ⟨"net", .criticalWarning, true, true⟩⟩
    let setup : Setup := ⟨⟨[⟨"network", .hidden, none, none, .none, [source]⟩]⟩, .configured,
      ⟨true, true, [], .default, false⟩⟩
    let w := ((subscribe 7 ⟨1, []⟩).run (.initial setup.settings, ⟨[], [], []⟩)).2
    let x := ((run diary setup (.refresh .pageOpen ⟨1, []⟩)).run w).2
    let message : Message := .sourceData ⟨"wifi", 1⟩ .null (some "u_0")
    let y := (run diary setup (.receive message)).run x
    let z := (run diary setup (.dismissIssue ⟨"wifi", "open", 1⟩)).run x
    x.1.state.coordinator.inFlightKeys = [⟨"wifi", 1⟩] ∧
      (y.1 = .ok .nothing ∧ y.2.1 = x.1 ∧ y.2.2.events = x.2.events ∧ y.2.2.views = x.2.views) ∧
      z.1.isOk = false ∧ z.2.1 = x.1 ∧ z.2.2.events = x.2.events ∧ z.2.2.views = x.2.views := by
  intro source setup w x message y z
  obtain ⟨atomic, -, received⟩ := refused_leaves_no_trace diary_steady setup x
  refine ⟨by decide +kernel, ?_, ?_⟩
  · have idle : x.1.mailbox.queue.isEmpty = true ∧ x.1.mailbox.draining = false := by
      decide +kernel
    have empty : x.1.mailbox = .empty := by
      generalize x.1.mailbox = box at idle
      obtain ⟨_ | _, _ | _⟩ := box <;> simp_all [Mailbox.empty]
    have refused : refusal? (((inbox diary setup).handle message).run
        ({ x.1 with mailbox := ⟨[], true⟩ }, x.2)).1 = some .invalidSourceData := by
      decide +kernel
    obtain ⟨f, counts, failed⟩ := exists_refusal refused (by decide)
    obtain ⟨taken, left⟩ := received message empty f counts failed rfl
    exact ⟨taken, diary_untouched left⟩
  · have refused : refusal? z.1 = some .unknownIssue := by decide +kernel
    obtain ⟨f, counts, failed⟩ := exists_refusal refused (by decide)
    have left : Untouched diary x z.2 :=
      atomic (.dismissIssue ⟨"wifi", "open", 1⟩) (by simp) f counts failed
    rw [failed]
    exact ⟨rfl, diary_untouched left⟩

end Hub

end SafetyBoard
