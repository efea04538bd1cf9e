import SafetyBoard.Proofs.Hub.Refusal
import SafetyBoard.Proofs.Hub.Sound
import SafetyBoard.Proofs.View.Reads

/-!
# No view changes in silence

Listeners are told of a change if the store, the actions in flight or the session says that there
was one, and none of these looks at views. Yet when all of them are silent, views read what they
read before: the records that a report adds or drops are of issues that are not dismissed or not
reported, and a session that still awaits an answer shows as it did. Only a report with a garbled
issue id, over which the call fails, is left out of this.
-/

namespace SafetyBoard

namespace Coordinator

variable {c : Coordinator} {id : String}

theorem complete_status {key : SourceKey} {success : Bool} {now : Number}
    (silent : (c.complete id key success now).result = false) :
    (c.complete id key success now).after.status = c.status := by
  cases current : c.current? id with
  | none => rw [(complete_of_stale current now key success).1]
  | some s =>
    obtain ⟨open_, -⟩ := current?_eq_some.mp current
    obtain ⟨after, -, ended⟩ := complete_of_current current now key success
    have awaits := ended.symm.trans silent
    have awaited : s.inFlight.isEmpty = false := by
      rw [Bool.eq_false_iff, ne_eq, Table.isEmpty_iff]
      intro nothing
      rw [Bool.eq_false_iff, ne_eq, Table.isEmpty_iff] at awaits
      apply awaits
      intro text
      rw [Session.get?_answered, nothing, ite_self]
    rw [after, if_neg (Bool.eq_false_iff.mp awaits), status, status, open_]
    dsimp only
    rw [awaits, awaited]
    rfl

/-- A session that awaits nothing does not show, so its timeout does not either. -/
theorem timeout_status {now : Number} (silent : (c.timeout id now).result = []) :
    (c.timeout id now).after.status = c.status := by
  cases current : c.current? id with
  | none => rw [(timeout_of_stale current now).1]
  | some s =>
    obtain ⟨open_, -⟩ := current?_eq_some.mp current
    rw [(timeout_of_current current now).1, status, status, open_]
    dsimp only
    by_cases awaits : s.inFlight.isEmpty = true
    · rw [if_pos awaits]
    · rw [timeout, current] at silent
      dsimp only at silent
      rw [if_neg awaits] at silent
      exact absurd (s.keys_eq_nil.mp silent) awaits

end Coordinator

namespace HubState

structure ShowsAs (s t : HubState) : Prop where
  data : ∀ users : UserGroup, View.SameFor users s.store t.store s.ledger t.ledger
  status : t.coordinator.status = s.coordinator.status

variable {s t : HubState}

theorem ShowsAs.draw (h : s.ShowsAs t) (setup : Setup) (group : UserGroup) :
    t.draw setup group = s.draw setup group := by
  rw [HubState.draw, HubState.draw, h.status]
  refine ((h.data group).toSameReports.sameReadings _).draw_congr (fun action readable => ?_) _
  exact (h.data group).inFlight action (View.mem_users_of_readable readable)

/-- Views read reports, error flags and actions in flight as the store answers, and of the records
only whether an issue that is reported is dismissed. -/
theorem showsAs_of_answers (report : ∀ key, t.store.get? key = s.store.get? key)
    (error : ∀ key, t.store.hasError key = s.store.hasError key)
    (inFlight : ∀ action, t.store.isActionInFlight action = s.store.isActionInFlight action)
    (dismissed : ∀ key report issue, s.store.get? key.source = some report →
      issue ∈ report.issues → issue.id = key.issueId →
        t.ledger.isDismissed key issue.severity = s.ledger.isDismissed key issue.severity)
    (status : t.coordinator.status = s.coordinator.status) : s.ShowsAs t where
  data := fun _ =>
    { report := fun key _ => report key
      error := fun key _ => error key
      dismissed := fun key r issue _ => dismissed key r issue
      inFlight := fun action _ => inFlight action }
  status := status

theorem showsAs_of_sameData (same : s.SameData t)
    (status : t.coordinator.status = s.coordinator.status) : s.ShowsAs t :=
  showsAs_of_answers (fun _ => by rw [same.store]) (fun _ => by rw [same.store])
    (fun _ => by rw [same.store]) (fun _ _ _ _ _ _ => by rw [same.ledger]) status

theorem ShowsAs.refl (s : HubState) : s.ShowsAs s := showsAs_of_sameData (.refl s) rfl

section Changes

variable {key : SourceKey} {session : Option String} {now : Number}

theorem completeSource_status {success : Bool}
    (silent : (s.completeSource key success session now).result = false) :
    (s.completeSource key success session now).after.coordinator.status =
      s.coordinator.status := by
  cases session with
  | none => rfl
  | some id =>
    have silent : (s.coordinator.complete id key success now).result = false := by
      rw [← silent]
      dsimp only [completeSource, Change.andThen, Change.within]
      split <;> rfl
    rw [completeSource_after]
    dsimp only
    rw [silent]
    exact Coordinator.complete_status silent

/-- A report that was stored before is no news, even if it comes after other records were loaded:
the issues in it keep their records, and a new record dismisses nothing. -/
theorem takeReport_silent (ledger : s.ledger.Sound) {report : Report}
    (spelled : report.isSpelled = true)
    (silent : (s.takeReport key report session now).result = false) :
    s.ShowsAs (s.takeReport key report session now).after := by
  have same := (s.takeReport_sameData key report session now).2
  rw [s.withReport_of_spelled key spelled] at same
  rw [takeReport, if_pos spelled] at same silent ⊢
  obtain ⟨quiet, incomplete⟩ := Bool.or_eq_false_iff.mp silent
  obtain ⟨unchanged, kept⟩ := Bool.or_eq_false_iff.mp quiet
  obtain ⟨faultless, stored⟩ := (s.store.set_unchanged key report).mp unchanged
  have store : (s.acceptReport key report session now).after.store =
      (s.store.set key report).2 :=
    same.store.trans (ReportStore.clearActionsInFlight_unchanged kept)
  refine showsAs_of_answers (fun k => ?_) (fun k => ?_) (fun action => ?_) ?_
    (completeSource_status incomplete)
  · rw [store, ReportStore.get?_set]
    split
    · next own => rw [← own, stored]
    · rfl
  · rw [store, ReportStore.hasError_set]
    by_cases own : key = k
    · rw [← own, faultless, Bool.and_false]
    · rw [decide_eq_true own, Bool.true_and]
  · rw [store]
    rfl
  · intro issueKey r issue found member named
    have synced : (s.acceptReport key report session now).after.ledger =
        s.ledger.sync key report.issueIds (.ofNumber now) := same.ledger
    rw [synced, Bool.eq_iff_iff, DismissalLedger.isDismissed_sync ledger]
    apply and_iff_left
    intro own
    obtain rfl := (SourceKey.same_iff.mp own).1
    obtain rfl := Option.some.inj (stored.symm.trans found)
    exact named ▸ List.mem_map.mpr ⟨issue, member, rfl⟩

theorem acceptError_silent (silent : (s.acceptError key session now).result = false) :
    s.ShowsAs (s.acceptError key session now).after := by
  obtain ⟨quiet, incomplete⟩ := Bool.or_eq_false_iff.mp silent
  obtain ⟨unchanged, kept⟩ := Bool.or_eq_false_iff.mp quiet
  obtain ⟨missing, faulty⟩ := (s.store.markError_unchanged key).mp unchanged
  have same := (s.acceptError_sameData key session now).2
  have store : (s.acceptError key session now).after.store = (s.store.markError key).2 :=
    same.store.trans (ReportStore.clearActionsInFlight_unchanged kept)
  refine showsAs_of_answers (fun k => ?_) (fun k => ?_) (fun action => ?_) ?_
    (completeSource_status incomplete)
  · rw [store, ReportStore.get?_markError]
    split
    · next own => rw [← own, missing]
    · rfl
  · rw [store, ReportStore.hasError_markError]
    by_cases own : key = k
    · rw [← own, faulty, Bool.or_true]
    · rw [decide_eq_false own, Bool.false_or]
  · rw [store]
    rfl
  · intro issueKey r issue _ _ _
    have ledger : (s.acceptError key session now).after.ledger = s.ledger := same.ledger
    rw [ledger]

theorem applyTimeout_silent {id : String} (silent : (s.applyTimeout id now).result = false) :
    s.ShowsAs (s.applyTimeout id now).after := by
  have nobody : (s.coordinator.timeout id now).result = [] := by
    rw [← List.isEmpty_iff, ← Bool.not_eq_false', ← silent]
    dsimp only [applyTimeout, Change.andThen, Change.within]
    split <;> rfl
  have same := (s.applyTimeout_sameData id now).2
  rw [nobody] at same
  apply showsAs_of_sameData same
  rw [(applyTimeout_after s id now).1]
  exact Coordinator.timeout_status nobody

theorem messageChange_silent {setup : Setup} (ledger : s.ledger.Sound) {message : Message}
    (spelled : s.Spells setup message) {c : Change HubState Bool}
    (changes : s.messageChange? setup now message = some c) (silent : c.result = false) :
    s.ShowsAs c.after := by
  cases accepts_of_messageChange? changes with
  | sourceData _ accepted => exact takeReport_silent ledger (spelled _ accepted) silent
  | sourceError _ _ => exact acceptError_silent silent
  | refreshTimeout id => exact applyTimeout_silent silent
  | userRemoved user => cases silent

theorem executeAction_silent {issue : IssueKey} {actionId : String}
    {c : Change HubState (Option IssueAction)} (changes : s.executeAction issue actionId = .ok c)
    (silent : c.result = none) : c.after = s := by
  rw [executeAction] at changes
  split at changes
  · cases changes
  · split at changes
    · cases changes
    · split at changes
      · cases changes
        rfl
      · cases changes
        cases silent

end Changes

end HubState

namespace Hub

open HubAct

variable {σ α : Type} (host : Host σ) (setup : Setup)

/-- What an operation does before it notifies the listeners, and whether it is going to; the last
ones notify nobody, save that a message that is received may in its turn. -/
def toNotice : Operation → HubAct σ (Bool × Answer)
  | .refresh reason group => do
    requireEnabled setup "refreshSources"
    let opened ← openRefresh host setup reason group
    if opened.awaiting then setTimer host setup reason opened.id else pure ()
    opened.requests.forM host.request
    return (true, .session opened.id)
  | .setSourceData key payload session => do
    requireEnabled setup "setSourceData"
    let changed ← gate.run (applyData host setup key payload session)
    return (changed, .flag changed)
  | .reportSourceError key session => do
    requireEnabled setup "reportSourceError"
    let changed ← gate.run (applyError host setup key session)
    return (changed, .nothing)
  | .dismissIssue key => do
    requireEnabled setup "dismissIssue"
    gate.run do performOk host setup ((← getState).dismissIssue key (← now host))
    return (true, .nothing)
  | .executeIssueAction key actionId => do
    requireEnabled setup "executeIssueAction"
    let action ← gate.run do performOk host setup ((← getState).executeAction key actionId)
    return (action.isSome, .action action)
  | .clearAllData => do
    gate.run do perform host setup (← getState).clearAll
    log host (.line .info HubState.tag "Cleared all data" none)
    return (true, .nothing)
  | .clearForUser user => do
    let changed ← gate.run (applyClearForUser host setup user)
    return (changed, .nothing)
  | .importRecords records => do
    gate.run (applyImport host setup records)
    return (true, .nothing)
  | operation => (false, ·) <$> run host setup operation

theorem run_eq_toNotice (operation : Operation) :
    run host setup operation = (do
      let (changed, answer) ← toNotice host setup operation
      notifyIf host setup changed
      return answer) := by
  cases operation with
  | refresh reason group =>
    simp only [run, toNotice, refresh, notifyIf, ← bind_pure_comp, bind_assoc]
    refine bind_congr fun _ => bind_congr fun opened => ?_
    split <;> simp only [bind_assoc, pure_bind, if_true]
  | setSourceData | reportSourceError | executeIssueAction | clearForUser =>
    simp only [run, toNotice, setSourceData, reportSourceError, executeIssueAction, clearForUser,
      ← bind_pure_comp, bind_assoc, pure_bind]
  | dismissIssue | clearAllData | importRecords =>
    simp only [run, toNotice, dismissIssue, clearAllData, importRecords, notifyIf, ← bind_pure_comp,
      bind_assoc, pure_bind, if_true]
  | receive | exportRecords | view | pullSafetyState | refreshStatus | isEnabled =>
    simp only [toNotice, notifyIf, ← bind_pure_comp, bind_assoc, pure_bind, Bool.false_eq_true,
      if_false, bind_pure]

/-- Handling the message fails or finds no change, so that the listeners are told nothing. -/
def Unannounced (message : Message) (x : Hub × σ) : Prop :=
  ((gate.run (applyMessage host setup message)).run x).1 ≠ .ok true

/-- The operation fails or finds no change, so that the listeners are told nothing. -/
def Silent (operation : Operation) (x : Hub × σ) : Prop :=
  ∀ answer, ((toNotice host setup operation).run x).1 ≠ .ok (true, answer)

/-- Whatever group is looked at, the same is shown. -/
def ShownAlike (x y : Hub × σ) : Prop :=
  ∀ group, ((run host setup (.view group)).run y).1 = ((run host setup (.view group)).run x).1

variable {host setup} {x y : Hub × σ}

theorem shownAlike_of_shows (held : y.1.held = x.1.held) (shows : x.1.state.ShowsAs y.1.state) :
    ShownAlike host setup x y := by
  intro group
  cases free : x.1.held with
  | false =>
    obtain ⟨h, before⟩ := run_look host setup free group
    obtain ⟨h', after⟩ := run_look host setup (held.trans free) group
    rw [before, after, shown, shown, shows.draw]
  | true =>
    by_cases enabled : setup.settings.enabled = true
    · have refused {z : Hub × σ} (held : z.1.held = true) :
          (view host setup group).run z = (.error (.hub .reentrant), z) := by
        rw [view, if_pos enabled]
        exact Gate.run_of_held gate _ held
      have failed {z : Hub × σ} (held : z.1.held = true) :
          (run host setup (.view group)).run z = (.error (.hub .reentrant), z) := by
        rw [run, ← bind_pure_comp]
        exact Act.run_bind_error (refused held) _
      rw [failed free, failed (held.trans free)]
    · rw [run, view, if_neg enabled]
      rfl

theorem ShownAlike.trans {z : Hub × σ} (h : ShownAlike host setup x y)
    (k : ShownAlike host setup y z) : ShownAlike host setup x z :=
  fun group => (k group).trans (h group)

theorem shownAlike_of_same (same : y.1 = x.1) : ShownAlike host setup x y :=
  shownAlike_of_shows (congrArg Hub.held same) (same ▸ .refl _)

theorem run_gate_eq_ok {body : HubAct σ α} {a : α} (ran : (gate.run body).run x = (.ok a, y)) :
    x.1.held = false ∧ ∃ z, body.run ({ x.1 with held := true }, x.2) = (.ok a, z) ∧
      y.1 = { z.1 with held := false } := by
  cases free : x.1.held with
  | true => cases (Gate.run_of_held gate body free).symm.trans ran
  | false =>
    rw [Gate.run_of_free gate body free] at ran
    rcases hz : body.run (gate.setHeld true x) with ⟨result, z⟩
    rw [hz] at ran
    cases ran
    exact ⟨rfl, z, hz, rfl⟩

theorem shownAlike_of_left {z : Hub × σ} (free : x.1.held = false)
    (left : y.1 = { z.1 with held := false }) (shows : x.1.state.ShowsAs z.1.state) :
    ShownAlike host setup x y := by
  apply shownAlike_of_shows
  · rw [left, free]
  · rw [left]
    exact shows

theorem run_perform_eq_ok {c : Change HubState α} {a : α}
    (ran : (perform host setup c).run x = (.ok a, y)) : c.result = a ∧ y.1.state = c.after := by
  obtain ⟨u, z, -, ended⟩ := Act.run_bind_eq_ok ran
  cases ended
  exact ⟨rfl, rfl⟩

theorem run_requireEnabled_eq_ok {operation : String} {next : Unit → HubAct σ α} {a : α}
    (ran : (requireEnabled setup operation >>= next).run x = (.ok a, y)) :
    setup.settings.enabled = true ∧ (next ()).run x = (.ok a, y) := by
  by_cases enabled : setup.settings.enabled = true
  · exact ⟨enabled, (run_requireEnabled_bind x enabled operation next).symm.trans ran⟩
  · cases (run_requireEnabled_refused x enabled operation next).symm.trans ran

def Made (setup : Setup) (message : Message) (s : HubState) (changed : Bool) (t : HubState) :
    Prop :=
  s.Spells setup message ∧
    ∃ now c, s.messageChange? setup now message = some c ∧ c.result = changed ∧ t = c.after

theorem applyData_made (enabled : setup.settings.enabled = true) {key : SourceKey}
    {payload : Json} {session : Option String} {changed : Bool}
    (ran : (applyData host setup key payload session).run x = (.ok changed, y)) :
    Made setup (.sourceData key payload session) x.1.state changed y.1.state := by
  cases accepted : x.1.state.acceptPayload setup.registry key payload with
  | error e =>
    rw [applyData, run_getState_bind, accepted] at ran
    cases ran
  | ok report =>
    rw [run_applyData host accepted] at ran
    split at ran
    · next spelled =>
      obtain ⟨result, after⟩ := run_perform_eq_ok ran
      constructor
      · intro report' accepted'
        cases accepted.symm.trans accepted'
        exact spelled
      · refine ⟨host.now x.2, _, ?_, result, after⟩
        rw [HubState.messageChange?, if_pos enabled, accepted]
        dsimp only
        rw [HubState.takeReport, if_pos spelled]
    · cases ran

theorem applyError_made (enabled : setup.settings.enabled = true) {key : SourceKey}
    {session : Option String} {changed : Bool}
    (ran : (applyError host setup key session).run x = (.ok changed, y)) :
    Made setup (.sourceError key session) x.1.state changed y.1.state := by
  rw [applyError] at ran
  cases known : setup.registry.source? key.sourceId with
  | none =>
    rw [known] at ran
    cases ran
  | some source =>
    rw [known] at ran
    dsimp only at ran
    rw [run_getState_bind, run_now_bind] at ran
    obtain ⟨result, after⟩ := run_perform_eq_ok ran
    refine ⟨trivial, host.now x.2, _, if_pos ⟨enabled, ?_⟩, result, after⟩
    rw [known]
    rfl

theorem applyClearForUser_made {user : UserId} {changed : Bool}
    (ran : (applyClearForUser host setup user).run x = (.ok changed, y)) :
    Made setup (.userRemoved user) x.1.state changed y.1.state := by
  rw [applyClearForUser, run_getState_bind] at ran
  obtain ⟨result, after⟩ := run_perform_eq_ok ran
  exact ⟨trivial, .undefined, _, rfl, result, after⟩

theorem applyMessage_made {message : Message} {changed : Bool}
    (ran : (applyMessage host setup message).run x = (.ok changed, y)) :
    Made setup message x.1.state changed y.1.state := by
  cases message with
  | sourceData key payload session =>
    obtain ⟨enabled, ran⟩ := run_requireEnabled_eq_ok ran
    exact applyData_made enabled ran
  | sourceError key session =>
    obtain ⟨enabled, ran⟩ := run_requireEnabled_eq_ok ran
    exact applyError_made enabled ran
  | refreshTimeout id =>
    rw [applyMessage, run_getState_bind, run_now_bind] at ran
    obtain ⟨result, after⟩ := run_perform_eq_ok ran
    exact ⟨trivial, host.now x.2, _, rfl, result, after⟩
  | userRemoved user => exact applyClearForUser_made ran

theorem shownAlike_of_made (ledger : x.1.state.ledger.Sound) {message : Message}
    {body : HubAct σ Bool} (ran : (gate.run body).run x = (.ok false, y))
    (made : ∀ w z, body.run w = (.ok false, z) → Made setup message w.1.state false z.1.state) :
    ShownAlike host setup x y := by
  obtain ⟨free, z, ran, left⟩ := run_gate_eq_ok ran
  obtain ⟨spelled, now, c, changes, silent, after⟩ := made _ z ran
  have shows := HubState.messageChange_silent ledger spelled changes silent
  rw [← after] at shows
  exact shownAlike_of_left free left shows

theorem shownAlike_of_executeAction {issue : IssueKey} {actionId : String}
    (ran : (gate.run do performOk host setup ((← getState).executeAction issue actionId)).run x =
      (.ok none, y)) : ShownAlike host setup x y := by
  obtain ⟨free, z, ran, left⟩ := run_gate_eq_ok ran
  rw [run_getState_bind] at ran
  cases changes : x.1.state.executeAction issue actionId with
  | error e =>
    rw [changes] at ran
    cases ran
  | ok c =>
    rw [changes] at ran
    obtain ⟨silent, after⟩ := run_perform_eq_ok ran
    have same : z.1.state = x.1.state :=
      after.trans (HubState.executeAction_silent changes silent)
    exact shownAlike_of_left free left (same ▸ .refl _)

theorem shownAlike_of_perform {c : HubState → Change HubState α} {a : α}
    (ran : (gate.run do perform host setup (c (← getState))).run x = (.ok a, y))
    (shows : x.1.state.ShowsAs (c x.1.state).after) : ShownAlike host setup x y := by
  obtain ⟨free, z, ran, left⟩ := run_gate_eq_ok ran
  rw [run_getState_bind] at ran
  obtain ⟨-, after⟩ := run_perform_eq_ok ran
  exact shownAlike_of_left free left (after ▸ shows)

theorem shownAlike_of_exportRecords {records : List PersistedRecord}
    (ran : (exportRecords host setup).run x = (.ok records, y)) : ShownAlike host setup x y := by
  refine shownAlike_of_perform ran ?_
  exact HubState.showsAs_of_answers (fun _ => rfl) (fun _ => rfl) (fun _ => rfl)
    (fun _ _ _ _ _ _ => rfl) rfl

theorem shownAlike_of_view {group : UserGroup} {v : View}
    (ran : (view host setup group).run x = (.ok v, y)) : ShownAlike host setup x y := by
  rw [view] at ran
  split at ran
  · obtain ⟨free, z, ran, left⟩ := run_gate_eq_ok ran
    rw [run_getState_bind, Act.run_bind_ok (run_forM_log host _ _)] at ran
    split at ran
    · cases ran
    · cases ran
      exact shownAlike_of_left free left (.refl _)
  · cases ran
    exact shownAlike_of_same rfl

theorem shownAlike_of_refreshStatus {status : RefreshStatus}
    (ran : (refreshStatus : HubAct σ RefreshStatus).run x = (.ok status, y)) :
    ShownAlike host setup x y := by
  obtain ⟨free, z, ran, left⟩ := run_gate_eq_ok ran
  cases ran
  exact shownAlike_of_left free left (.refl _)

theorem refresh_notifies {reason : RefreshReason} {group : UserGroup} {answer : Answer} :
    (toNotice host setup (.refresh reason group)).run x ≠ (.ok (false, answer), y) := by
  intro ran
  obtain ⟨-, ran⟩ := run_requireEnabled_eq_ok ran
  obtain ⟨opened, z, -, ran⟩ := Act.run_bind_eq_ok ran
  have sends {z : Hub × σ} : (do
      opened.requests.forM host.request
      return (true, Answer.session opened.id) : HubAct σ (Bool × Answer)).run z ≠
        (.ok (false, answer), y) := by
    intro ran
    obtain ⟨_, _, -, ended⟩ := Act.run_bind_eq_ok ran
    cases ended
  dsimp only at ran
  split at ran
  · obtain ⟨_, _, -, ran⟩ := Act.run_bind_eq_ok ran
    exact sends ran
  · exact sends ran

theorem shownAlike_of_ok (ledger : x.1.state.ledger.Sound) {operation : Operation}
    (direct : ∀ message, operation ≠ .receive message)
    (pulls : ∀ groups, operation ≠ .pullSafetyState groups) {answer : Answer}
    (ran : (toNotice host setup operation).run x = (.ok (false, answer), y)) :
    ShownAlike host setup x y := by
  cases operation with
  | receive message => exact absurd rfl (direct message)
  | refresh reason group => exact absurd ran refresh_notifies
  | setSourceData key payload session =>
    obtain ⟨enabled, ran⟩ := run_requireEnabled_eq_ok ran
    obtain ⟨changed, z, ran, ended⟩ := Act.run_bind_eq_ok ran
    cases ended
    exact shownAlike_of_made ledger ran fun _ _ => applyData_made enabled
  | reportSourceError key session =>
    obtain ⟨enabled, ran⟩ := run_requireEnabled_eq_ok ran
    obtain ⟨changed, z, ran, ended⟩ := Act.run_bind_eq_ok ran
    cases ended
    exact shownAlike_of_made ledger ran fun _ _ => applyError_made enabled
  | dismissIssue key =>
    obtain ⟨-, ran⟩ := run_requireEnabled_eq_ok ran
    obtain ⟨_, _, -, ended⟩ := Act.run_bind_eq_ok ran
    cases ended
  | executeIssueAction key actionId =>
    obtain ⟨-, ran⟩ := run_requireEnabled_eq_ok ran
    obtain ⟨action, z, ran, ended⟩ := Act.run_bind_eq_ok ran
    cases action with
    | none =>
      cases ended
      exact shownAlike_of_executeAction ran
    | some action => cases ended
  | clearAllData =>
    obtain ⟨_, _, -, ran⟩ := Act.run_bind_eq_ok ran
    obtain ⟨_, _, -, ended⟩ := Act.run_bind_eq_ok ran
    cases ended
  | clearForUser user =>
    obtain ⟨changed, z, ran, ended⟩ := Act.run_bind_eq_ok ran
    cases ended
    exact shownAlike_of_made ledger ran fun _ _ => applyClearForUser_made
  | importRecords records =>
    obtain ⟨_, _, -, ended⟩ := Act.run_bind_eq_ok ran
    cases ended
  | exportRecords =>
    obtain ⟨answer, ran, -⟩ := Act.run_map_eq_ok ran
    obtain ⟨records, ran, -⟩ := Act.run_map_eq_ok ran
    exact shownAlike_of_exportRecords ran
  | view group =>
    obtain ⟨answer, ran, -⟩ := Act.run_map_eq_ok ran
    obtain ⟨v, ran, -⟩ := Act.run_map_eq_ok ran
    exact shownAlike_of_view ran
  | pullSafetyState groups => exact absurd rfl (pulls groups)
  | refreshStatus =>
    obtain ⟨answer, ran, -⟩ := Act.run_map_eq_ok ran
    obtain ⟨status, ran, -⟩ := Act.run_map_eq_ok ran
    exact shownAlike_of_refreshStatus ran
  | isEnabled =>
    obtain ⟨answer, ran, -⟩ := Act.run_map_eq_ok ran
    cases ran
    exact shownAlike_of_same rfl

theorem shownAlike_of_handled (ledger : x.1.state.ledger.Sound) {message : Message}
    (silent : Unannounced host setup message x)
    (handled : ((inbox host setup).handle message).run x = (.ok (), y)) :
    ShownAlike host setup x y := by
  obtain ⟨_ | _, z, ran, told⟩ := Act.run_bind_eq_ok handled
  · cases told
    exact shownAlike_of_made ledger ran fun _ _ => applyMessage_made
  · exact absurd (congrArg Prod.fst ran) silent

theorem shownAlike_of_subscribe (listener : Nat) (group : UserGroup) :
    ShownAlike host setup x ((subscribe listener group).run x).2 := by
  cases held : x.1.held with
  | false =>
    obtain ⟨state, free⟩ := run_subscribe listener group held
    refine shownAlike_of_shows (free.trans held.symm) ?_
    rw [state]
    exact HubState.showsAs_of_answers (fun _ => rfl) (fun _ => rfl) (fun _ => rfl)
      (fun _ _ _ _ _ _ => rfl) rfl
  | true =>
    have refused : (gate.run do setState ((← getState).rememberGroup group) :
        HubAct σ Unit).run x = (.error (.hub .reentrant), x) := Gate.run_of_held gate _ held
    rw [subscribe, Act.run_bind_error refused]
    exact shownAlike_of_same rfl

/-- While the inbox is being drained, a message that comes only waits for its turn. -/
theorem shownAlike_of_posted (draining : x.1.mailbox.draining = true) (message : Message) :
    ShownAlike host setup x ((run host setup (.receive message)).run x).2 := by
  have posted : (receive host setup message).run x =
      (.ok (), { x.1 with mailbox := x.1.mailbox.push message }, x.2) := by
    rw [receive, Inbox.post, Act.run_bind_ok (Act.run_modify _ x),
      Act.run_bind_ok (Act.run_get _)]
    have draining : ((inbox host setup).box
        ((inbox host setup).change (·.push message) x)).draining = true := draining
    rw [if_pos draining]
    rfl
  rw [run, Act.run_map_ok posted]
  exact shownAlike_of_shows rfl (.refl _)

section Steady

variable (steady : host.Steady)
include steady

/-- Also if no view can be made for one of the groups. -/
theorem shownAlike_of_pullSafetyState (groups : List UserGroup) :
    ShownAlike host setup x ((pullSafetyState host setup groups).run x).2 := by
  rw [pullSafetyState]
  split
  · cases held : x.1.held with
    | true =>
      rw [Gate.run_of_held gate _ held]
      exact shownAlike_of_same rfl
    | false =>
      let w := gate.setHeld true x
      obtain ⟨snapshots, z, performed⟩ : ∃ snapshots z, (perform host setup
          (w.1.state.pullSafetyState setup (groups.takeWhile (w.1.state.isDrawable setup)))).run w =
            (.ok snapshots, z) := sure_perform steady _ w
      have after : z.1.state = x.1.state := (run_perform_eq_ok performed).2
      rw [Gate.run_of_free gate _ held, run_getState_bind, Act.run_bind_ok performed]
      refine shownAlike_of_left (z := z) held ?_ (after ▸ .refl _)
      cases groups.dropWhile ((gate.setHeld true x).1.state.isDrawable setup) with
      | nil => rfl
      | cons group rest =>
        dsimp only
        rw [Act.run_bind_ok (run_forM_log host z _)]
        rfl
  · exact shownAlike_of_same rfl

theorem shownAlike_of_silent (ledger : x.1.state.ledger.Sound) {operation : Operation}
    (direct : ∀ message, operation ≠ .receive message)
    (spelled : ∀ message, operation.message? = some message → x.1.state.Spells setup message)
    (silent : Silent host setup operation x) :
    ShownAlike host setup x ((run host setup operation).run x).2 := by
  by_cases pulls : ∃ groups, operation = .pullSafetyState groups
  · obtain ⟨groups, rfl⟩ := pulls
    rw [run, Act.run_map]
    exact shownAlike_of_pullSafetyState steady groups
  have pulls (groups) : operation ≠ .pullSafetyState groups := fun pull => pulls ⟨groups, pull⟩
  have split := run_eq_toNotice host setup operation
  rcases ran : (toNotice host setup operation).run x with ⟨f | ⟨changed, answer⟩, y⟩
  · have failed : (run host setup operation).run x = (.error f, y) := by
      rw [split]
      exact Act.run_bind_error ran _
    rw [failed]
    exact shownAlike_of_same (fails_run steady direct (fun _ spells => spells)
      (fun groups pull => absurd pull (pulls groups)) x f y failed fun _ => spelled).1
  · cases changed with
    | true => exact absurd (congrArg Prod.fst ran) (silent answer)
    | false =>
      have ended : (run host setup operation).run x = (.ok answer, y) := by
        rw [split, Act.run_bind_ok ran]
        rfl
      rw [ended]
      exact shownAlike_of_ok ledger direct pulls ran

/-- A message whose handling fails leaves the hub as it is. -/
theorem untouched_of_handle {message : Message} (spelled : x.1.state.Spells setup message)
    {f : Fault} (failed : ((inbox host setup).handle message).run x = (.error f, y)) :
    Untouched host x y :=
  fails_handle (Q := fun s => s.Spells setup message) steady (fun _ => id) x f y failed
    fun _ => spelled

theorem shownAlike_of_unannounced (ledger : x.1.state.ledger.Sound) {message : Message}
    (spelled : x.1.state.Spells setup message) (silent : Unannounced host setup message x) :
    ShownAlike host setup x (((inbox host setup).handle message).run x).2 := by
  rcases handled : ((inbox host setup).handle message).run x with ⟨f | _, y⟩
  · exact shownAlike_of_same (untouched_of_handle steady spelled handled).1
  · exact shownAlike_of_handled ledger silent handled

/-- A message is taken from the inbox: it found no change, or it failed and that is reported. -/
theorem drain_unannounced (ledger : x.1.state.ledger.Sound) {message : Message}
    {rest : List Message} (waiting : x.1.mailbox.queue = message :: rest)
    (spelled : x.1.state.Spells setup message)
    (silent : Unannounced host setup message (queued rest x)) (turns : Nat) :
    ∃ y, ShownAlike host setup x y ∧
      (((inbox host setup).drain (turns + 1)).run x = ((inbox host setup).drain turns).run y ∨
        ∃ f, ((inbox host setup).drain (turns + 1)).run x =
          (host.onError f message >>= fun _ => (inbox host setup).drain turns).run y) := by
  have taken : ShownAlike host setup x (queued rest x) := shownAlike_of_shows rfl (.refl _)
  rcases handled : ((inbox host setup).handle message).run (queued rest x) with ⟨f | _, y⟩
  · have untouched := untouched_of_handle (x := queued rest x) steady spelled handled
    obtain ⟨z, untouched, drained⟩ := drain_of_refused waiting handled untouched turns
    exact ⟨z, taken.trans (shownAlike_of_same untouched.1), Or.inr ⟨f, drained⟩⟩
  · have alike := shownAlike_of_handled (x := queued rest x) ledger silent handled
    exact ⟨y, taken.trans alike, Or.inl (drain_of_handled waiting handled turns)⟩

/-- A message comes while nothing is waiting, and no other comes while it is handled. -/
theorem receive_unannounced (ledger : x.1.state.ledger.Sound) {message : Message}
    (empty : x.1.mailbox = .empty) (spelled : x.1.state.Spells setup message)
    (silent : Unannounced host setup message ({ x.1 with mailbox := ⟨[], true⟩ }, x.2))
    (unheard : ∀ f, host.onError f message = pure ())
    (alone : (((inbox host setup).handle message).run
      ({ x.1 with mailbox := ⟨[], true⟩ }, x.2)).2.1.mailbox.queue = []) :
    ShownAlike host setup x ((run host setup (.receive message)).run x).2 := by
  let w : Hub × σ := ({ x.1 with mailbox := ⟨[message], true⟩ }, x.2)
  obtain ⟨y, alike, drained⟩ : ∃ y, ShownAlike host setup x y ∧
      ((inbox host setup).drain (host.mayPost x.2 + 1)).run w = (.ok (), y) := by
    have taken : ShownAlike host setup x (queued [] w) := shownAlike_of_shows rfl (.refl _)
    rcases handled : ((inbox host setup).handle message).run (queued [] w) with ⟨f | _, y⟩
    · have untouched := untouched_of_handle (x := queued [] w) steady spelled handled
      obtain ⟨z, ⟨same, -⟩, drained⟩ :=
        drain_of_refused (x := w) rfl handled untouched (host.mayPost x.2)
      have gone : z.1.mailbox.queue = [] := congrArg (·.mailbox.queue) same
      rw [unheard, Act.run_bind_ok (Act.run_pure () z), drain_of_empty gone] at drained
      exact ⟨z, taken.trans (shownAlike_of_same same), drained⟩
    · have alike := shownAlike_of_handled (x := queued [] w) ledger silent handled
      have gone : y.1.mailbox.queue = [] := by
        rw [← alone]
        exact congrArg (·.2.1.mailbox.queue) handled.symm
      refine ⟨y, taken.trans alike, ?_⟩
      rw [drain_of_handled (x := w) rfl handled, drain_of_empty gone]
  have received : (run host setup (.receive message)).run x = (.ok .nothing, _, _) :=
    Act.run_map_ok (run_receive empty drained) _
  rw [received]
  exact alike.trans (shownAlike_of_shows rfl (.refl _))

end Steady

def Uneventful : Operation → Except Fault Answer → Prop
  | _, .error _ => True
  | .setSourceData .., .ok answer => answer = .flag false
  | .executeIssueAction .., .ok answer => answer = .action none
  | .exportRecords, .ok _ | .view _, .ok _ | .pullSafetyState _, .ok _ | .refreshStatus, .ok _
  | .isEnabled, .ok _ => True
  | _, .ok _ => False

theorem eventful_of_notice {operation : Operation} (direct : ∀ message, operation ≠ .receive message)
    {answer : Answer} (ran : (toNotice host setup operation).run x = (.ok (true, answer), y)) :
    ¬Uneventful operation (.ok answer) := by
  intro uneventful
  cases operation with
  | receive message => exact direct message rfl
  | refresh | reportSourceError | dismissIssue | clearAllData | clearForUser | importRecords =>
    exact uneventful
  | setSourceData key payload session =>
    obtain ⟨-, ran⟩ := run_requireEnabled_eq_ok ran
    obtain ⟨changed, z, -, ended⟩ := Act.run_bind_eq_ok ran
    cases ended
    cases uneventful
  | executeIssueAction key actionId =>
    obtain ⟨-, ran⟩ := run_requireEnabled_eq_ok ran
    obtain ⟨action, z, -, ended⟩ := Act.run_bind_eq_ok ran
    obtain rfl : answer = .action none := uneventful
    cases action <;> cases ended
  | exportRecords | view | pullSafetyState | refreshStatus | isEnabled =>
    obtain ⟨answer, -, told⟩ := Act.run_map_eq_ok ran
    cases told

theorem silent_of_uneventful {operation : Operation}
    (direct : ∀ message, operation ≠ .receive message)
    (uneventful : Uneventful operation ((run host setup operation).run x).1) :
    Silent host setup operation x := by
  intro answer told
  obtain ⟨_, z, notified⟩ := sure_notify host setup
    ((toNotice host setup operation).run x).2
  have ended : (run host setup operation).run x = (.ok answer, z) := by
    rw [run_eq_toNotice, Act.run_bind_ok (Prod.ext told rfl)]
    exact Act.run_bind_ok notified _
  rw [ended] at uneventful
  exact eventful_of_notice direct (Prod.ext told rfl) uneventful

/-- What is shown of any group changes only where the listeners are told of a change, unless that
comes of a report with a garbled issue id. -/
structure TellsChanges (host : Host σ) (setup : Setup) (x : Hub × σ) : Prop where
  /-- An operation that is not a message tells them at its end or not at all. -/
  notice : ∀ operation, run host setup operation = (do
    let (changed, answer) ← toNotice host setup operation
    notifyIf host setup changed
    return answer)
  uneventful : ∀ operation, (∀ message, operation ≠ .receive message) →
    Uneventful operation ((run host setup operation).run x).1 → Silent host setup operation x
  operation : ∀ operation, (∀ message, operation ≠ .receive message) →
    (∀ message, operation.message? = some message → x.1.state.Spells setup message) →
    Silent host setup operation x →
      ShownAlike host setup x ((run host setup operation).run x).2
  handled : ∀ message, x.1.state.Spells setup message → Unannounced host setup message x →
    ShownAlike host setup x (((inbox host setup).handle message).run x).2
  drained : ∀ message rest, x.1.mailbox.queue = message :: rest → x.1.state.Spells setup message →
    Unannounced host setup message (queued rest x) → ∀ turns, ∃ y, ShownAlike host setup x y ∧
      (((inbox host setup).drain (turns + 1)).run x = ((inbox host setup).drain turns).run y ∨
        ∃ f, ((inbox host setup).drain (turns + 1)).run x =
          (host.onError f message >>= fun _ => (inbox host setup).drain turns).run y)
  posted : x.1.mailbox.draining = true → ∀ message,
    ShownAlike host setup x ((run host setup (.receive message)).run x).2
  received : ∀ message, x.1.mailbox = .empty → x.1.state.Spells setup message →
    Unannounced host setup message ({ x.1 with mailbox := ⟨[], true⟩ }, x.2) →
    (∀ f, host.onError f message = pure ()) →
    (((inbox host setup).handle message).run
      ({ x.1 with mailbox := ⟨[], true⟩ }, x.2)).2.1.mailbox.queue = [] →
      ShownAlike host setup x ((run host setup (.receive message)).run x).2
  subscribed : ∀ listener group,
    ShownAlike host setup x ((subscribe listener group).run x).2
  unsubscribed : ∀ listener, ShownAlike host setup x ((unsubscribe listener).run x).2

/-- No view changes in silence: however the hub came to its state, an operation or a message that
does not make it notify the listeners leaves every view as it was, the status of the refresh
included, unless it brings a report with a garbled issue id. -/
theorem no_silent_change (steady : host.Steady) {faultless : Prop} {history : List Entered}
    (ran : Execution setup faultless (.initial setup.settings) history x.1.state) :
    TellsChanges host setup x := by
  have ledger := ((HubState.sound_initial setup).execution ran).ledger
  constructor
  · exact run_eq_toNotice host setup
  · exact fun operation direct uneventful => silent_of_uneventful direct uneventful
  · exact fun operation direct spelled silent =>
      shownAlike_of_silent steady ledger direct spelled silent
  · exact fun message spelled silent => shownAlike_of_unannounced steady ledger spelled silent
  · exact fun message rest waiting spelled silent =>
      drain_unannounced steady ledger waiting spelled silent
  · exact shownAlike_of_posted
  · exact fun message empty spelled silent unheard alone =>
      receive_unannounced steady ledger empty spelled silent unheard alone
  · exact shownAlike_of_subscribe
  · exact fun listener => shownAlike_of_shows rfl (.refl _)

/-- An answer is taken off a refresh that goes on, with a report that was there before; the caller
is told of no change and nothing else shows. -/
theorem no_silent_change_repeated :
    let wifi : Source :=
      ⟨"wifi", .primary, false, .issueOnly ⟨"net", .criticalWarning, true, true⟩⟩
    let bluetooth : Source :=
      ⟨"bluetooth", .primary, false, .issueOnly ⟨"net", .criticalWarning, true, true⟩⟩
    let setup : Setup := ⟨⟨[⟨"network", .hidden, none, none, .none, [wifi, bluetooth]⟩]⟩,
      .configured, ⟨true, true, [], .default, false⟩⟩
    let report (session : Option String) : Operation :=
      .setSourceData ⟨"wifi", 1⟩ (.object []) session
    let w := ((run diary setup (report none)).run (.initial setup.settings, ⟨[], [], []⟩)).2
    let x := ((run diary setup (.refresh .rescanButton ⟨1, []⟩)).run w).2
    let y := (run diary setup (report (some "u_0"))).run x
    x.1.state.coordinator.inFlightKeys = [⟨"wifi", 1⟩, ⟨"bluetooth", 1⟩] ∧
      y.2.1.state.coordinator.inFlightKeys = [⟨"bluetooth", 1⟩] ∧
      y.1 = .ok (.flag false) ∧ ShownAlike diary setup x y.2 := by
  intro wifi bluetooth setup report w x y
  have orderly : diary.Orderly setup False := diary_orderly setup False
  have reported : Reached diary setup False _ w :=
    (Reached.start (⟨[], [], []⟩ : Diary)).quietly 0 (by decide +kernel)
  obtain ⟨entries, reached⟩ := reported.next orderly (.refresh .rescanButton ⟨1, []⟩)
  change Reached diary setup False _ x at reached
  have tells := no_silent_change diary_steady (reached.execution orderly)
  have answered : y.1 = .ok (.flag false) := by
    have flagged : y.1.toOption = some (.flag false) := by decide +kernel
    generalize y.1 = outcome at flagged
    cases outcome with
    | error f => cases flagged
    | ok answer => exact congrArg _ (Option.some.inj flagged)
  refine ⟨by decide +kernel, by decide +kernel, answered, ?_⟩
  have direct : ∀ message, report (some "u_0") ≠ .receive message := by simp [report]
  have spelled : ∀ message, (report (some "u_0")).message? = some message →
      x.1.state.Spells setup message := by
    rintro message ⟨⟩ report accepted
    have taken : x.1.state.acceptPayload setup.registry ⟨"wifi", 1⟩ (.object []) =
        .ok ⟨none, []⟩ := by decide +kernel
    cases taken.symm.trans accepted
    rfl
  refine tells.operation _ direct spelled (tells.uneventful _ direct ?_)
  change Uneventful (report (some "u_0")) y.1
  rw [answered]
  rfl

def unreachable : Host Diary := { diary with request := fun _ => throw (.foreign "no route") }

/-- A transport that fails cuts a refresh short: the session is open and shows, though the call
failed and no listener was told. A report with a garbled id fails too, and tells nobody that no view
can be made from then on. -/
theorem view_changes_silently :
    let source : Source :=
      ⟨"wifi", .primary, false, .issueOnly ⟨"net", .criticalWarning, true, true⟩⟩
    let setup : Setup := ⟨⟨[⟨"network", .hidden, none, none, .none, [source]⟩]⟩, .configured,
      ⟨true, true, [], .default, false⟩⟩
    let refresh : Operation := .refresh .rescanButton ⟨1, []⟩
    let x := ((subscribe 7 ⟨1, []⟩).run (.initial setup.settings, (⟨[], [], []⟩ : Diary))).2
    let y := (run unreachable setup refresh).run x
    let stuck := (run diary setup garbledReport).run x
    Reached unreachable setup True [] x ∧ y.1.isOk = false ∧
      x.1.subscriptions = [⟨7, ⟨1, []⟩⟩] ∧ y.2.2.views = [] ∧
      Silent unreachable setup refresh x ∧ ¬ShownAlike unreachable setup x y.2 ∧
      stuck.1.isOk = false ∧ stuck.2.2.views = [] ∧ ¬ShownAlike diary setup x stuck.2 := by
  intro source setup refresh x y stuck
  have failed : y.1.isOk = false := by decide +kernel
  refine ⟨(Reached.start (⟨[], [], []⟩ : Diary)).subscribe 7 ⟨1, []⟩, failed, by decide +kernel,
    by decide +kernel, ?_, ?_, by decide +kernel, by decide +kernel, ?_⟩
  · apply silent_of_uneventful (by simp [refresh])
    change Uneventful refresh y.1
    cases outcome : y.1 with
    | error f => exact trivial
    | ok answer =>
      rw [outcome] at failed
      cases failed
  · intro alike
    have same := congrArg (fun outcome => match outcome with
      | .ok (.view v) => some v.refreshStatus
      | _ => none) (alike ⟨1, []⟩)
    revert same
    decide +kernel
  · intro alike
    have same := congrArg Except.isOk (alike ⟨1, []⟩)
    revert same
    decide +kernel

end Hub

end SafetyBoard
