import SafetyBoard.Proofs.Hub.Reached

/-!
# Sessions and their timers

The coordinator knows the session, the hub the timer. Between operations both know the same: a
session is open exactly while a timer is pending for it, and exactly while it awaits an answer. Each
operation that opens or ends a session has to keep this on both sides.
-/

namespace SafetyBoard

namespace HubState

inductive Coupled (s : HubState) : Prop where
  | idle : s.coordinator.session = none → s.pending = none → Coupled s
  | waiting {session p} : s.coordinator.session = some session → s.pending = some p →
      p.sessionId = session.id → session.inFlight.isEmpty = false → Coupled s

variable {s : HubState}

theorem Coupled.congr {t : HubState} (h : s.Coupled) (coordinator : t.coordinator = s.coordinator)
    (pending : t.pending = s.pending) : t.Coupled := by
  rcases h with ⟨closed, none_pending⟩ | ⟨hs, hp, same, awaits⟩
  · exact .idle (coordinator ▸ closed) (pending ▸ none_pending)
  · exact .waiting (coordinator ▸ hs) (pending ▸ hp) same awaits

theorem cancelPending_after (s : HubState) :
    s.cancelPending.after = { s with pending := none } := by
  unfold cancelPending
  split
  · next h =>
    obtain ⟨store, ledger, coordinator, pending, groups⟩ := s
    change pending = none at h
    rw [h]
  · rfl

theorem completeSource_after (s : HubState) (key : SourceKey) (success : Bool) (id : String)
    (now : Number) :
    (s.completeSource key success (some id) now).after =
      let completed := s.coordinator.complete id key success now
      if completed.result && s.pending.any (·.sessionId = id) then
        { s with coordinator := completed.after, pending := none }
      else { s with coordinator := completed.after } := by
  dsimp only [completeSource, Change.andThen, Change.within, withCoordinator]
  split
  · exact cancelPending_after _
  · rfl

theorem coupled_completeSource (h : s.Coupled) (key : SourceKey) (success : Bool)
    (session : Option String) (now : Number) :
    (s.completeSource key success session now).after.Coupled := by
  cases session with
  | none => exact h
  | some id =>
    rw [completeSource_after]
    cases current : s.coordinator.current? id with
    | none =>
      obtain ⟨after, -, result⟩ := Coordinator.complete_of_stale current now key success
      dsimp only
      rw [after, result]
      exact h
    | some session =>
      obtain ⟨after, -, result⟩ := Coordinator.complete_of_current current now key success
      obtain ⟨open_, own⟩ := Coordinator.current?_eq_some.mp current
      rcases h with ⟨closed, -⟩ | ⟨hs, hp, same, -⟩
      · rw [open_] at closed
        cases closed
      · obtain rfl := Option.some.inj (open_.symm.trans hs)
        dsimp only
        have ours : s.pending.any (·.sessionId = id) = true := by
          rw [hp]
          exact decide_eq_true (same.trans own)
        rw [result, ours, Bool.and_true]
        by_cases empty : (session.answered key
            (s.coordinator.isTracked key.sourceId && !success)).inFlight.isEmpty = true
        · rw [if_pos empty]
          refine .idle ?_ rfl
          rw [after, if_pos empty]
        · rw [if_neg empty]
          have kept : (session.answered key
              (s.coordinator.isTracked key.sourceId && !success)).id = session.id := rfl
          refine .waiting ?_ hp (same.trans kept.symm) (Bool.eq_false_iff.mpr empty)
          rw [after, if_neg empty]

theorem coupled_takeReport (h : s.Coupled) (key : SourceKey) (report : Report)
    (session : Option String) (now : Number) :
    (s.takeReport key report session now).after.Coupled := by
  rw [takeReport]
  split
  · refine coupled_completeSource ?_ key true session now
    exact h.congr rfl rfl
  · exact h.congr rfl rfl

theorem coupled_acceptError (h : s.Coupled) (key : SourceKey) (session : Option String)
    (now : Number) : (s.acceptError key session now).after.Coupled := by
  refine coupled_completeSource ?_ key false session now
  exact h.congr rfl rfl

theorem applyTimeout_after (s : HubState) (id : String) (now : Number) :
    (s.applyTimeout id now).after.coordinator = (s.coordinator.timeout id now).after ∧
      (s.applyTimeout id now).after.pending =
        if s.pending.any (·.sessionId = id) then none else s.pending := by
  dsimp only [applyTimeout, Change.andThen, Change.within, withCoordinator]
  split <;> exact ⟨rfl, rfl⟩

theorem coupled_applyTimeout (h : s.Coupled) (id : String) (now : Number) :
    (s.applyTimeout id now).after.Coupled := by
  obtain ⟨coordinator, pending⟩ := applyTimeout_after s id now
  rcases h with ⟨closed, none_pending⟩ | ⟨hs, hp, same, awaits⟩
  · rw [(Coordinator.timeout_of_stale (Coordinator.current?_of_closed closed id) now).1]
      at coordinator
    rw [none_pending] at pending
    exact .idle (coordinator ▸ closed) pending
  · cases current : s.coordinator.current? id with
    | none =>
      rw [(Coordinator.timeout_of_stale current now).1] at coordinator
      rw [hp, if_neg] at pending
      · exact .waiting (coordinator ▸ hs) pending same awaits
      · have other := Coordinator.ne_of_stale hs current
        simp [same, other]
    | some session =>
      obtain ⟨open_, own⟩ := Coordinator.current?_eq_some.mp current
      obtain rfl := Option.some.inj (open_.symm.trans hs)
      rw [(Coordinator.timeout_of_current current now).1] at coordinator
      rw [hp, if_pos] at pending
      · exact .idle (congrArg _ coordinator) pending
      · simp [same, own]

theorem clearForUser_after (s : HubState) (user : UserId) :
    (s.clearForUser user).after.coordinator = (s.coordinator.clearForUser user).2 ∧
      (s.clearForUser user).after.pending =
        if (s.coordinator.clearForUser user).1 then none else s.pending := by
  dsimp only [clearForUser, Change.andThen]
  split
  · rw [cancelPending_after]
    exact ⟨rfl, rfl⟩
  · exact ⟨rfl, rfl⟩

theorem coupled_clearForUser (h : s.Coupled) (user : UserId) :
    (s.clearForUser user).after.Coupled := by
  obtain ⟨coordinator, pending⟩ := clearForUser_after s user
  rcases h with ⟨closed, none_pending⟩ | ⟨hs, hp, same, awaits⟩
  · rw [Coordinator.clearForUser_of_closed closed] at coordinator pending
    exact .idle (coordinator ▸ closed) (pending.trans none_pending)
  · rcases Coordinator.clearForUser_cases s.coordinator hs user with ended | ⟨kept, left⟩
    · rw [ended] at coordinator pending
      exact .idle (congrArg _ coordinator) pending
    · rw [kept] at coordinator pending
      exact .waiting (congrArg _ coordinator) (pending.trans hp) same left

theorem coupled_clearAll (s : HubState) : s.clearAll.after.Coupled := by
  rw [clearAll, cancelPending_after]
  exact .idle rfl rfl

theorem beginRefresh_after (s : HubState) (group : UserGroup) (now : Number) :
    (s.beginRefresh group now).after = { s.rememberGroup group with pending := none } := by
  dsimp only [beginRefresh, Change.andThen, Change.within]
  rw [Coordinator.supersede_after, cancelPending_after]
  rfl

def opened (s : HubState) (registry : Registry) (reason : RefreshReason) (group : UserGroup)
    (unique : String) (startedAt markedAt : Number) : Coordinator :=
  let opening := s.coordinator.openSession unique reason group startedAt
  let requests := (s.withCoordinator opening.after).requests registry reason group opening.result
  (opening.after.mark opening.result (requests.map (·.key)) markedAt).after

theorem opened_session (s : HubState) (registry : Registry) (reason : RefreshReason)
    (group : UserGroup) (unique : String) (startedAt markedAt : Number) :
    ∃ session, (s.opened registry reason group unique startedAt markedAt).session = some session ∧
      session.id = Coordinator.sessionId unique s.coordinator.opened := by
  have current : (s.coordinator.openSession unique reason group startedAt).after.current?
      (Coordinator.sessionId unique s.coordinator.opened) = some _ :=
    Coordinator.current?_eq_some.mpr ⟨rfl, rfl⟩
  have marked := fun keys => (Coordinator.mark_of_current current markedAt keys).1
  refine ⟨_, congrArg Coordinator.session (marked _), ?_⟩
  rw [Session.foldl_markOne]

/-- A session is opened, and closed again at once if there is nothing to await. -/
theorem openRefresh_cases (s : HubState) (registry : Registry) (reason : RefreshReason)
    (group : UserGroup) (unique : String) (startedAt markedAt : Number) :
    let opening := s.openRefresh registry reason group unique startedAt markedAt
    opening.after.pending = s.pending ∧
      ((opening.result.awaiting = false ∧ opening.after.coordinator.session = none) ∨
        ∃ session, opening.result.awaiting = true ∧
          opening.after.coordinator.session = some session ∧
          session.id = opening.result.id ∧ session.inFlight.isEmpty = false) := by
  intro opening
  obtain ⟨session, hs, own⟩ := s.opened_session registry reason group unique startedAt markedAt
  have awaiting : opening.result.awaiting = !session.inFlight.isEmpty := by
    change (!(s.opened registry reason group unique startedAt markedAt).inFlightKeys.isEmpty) = _
    rw [Coordinator.inFlightKeys, hs, ← Session.isEmpty_keys]
  have after : opening.after = if opening.result.awaiting then
      s.withCoordinator (s.opened registry reason group unique startedAt markedAt)
    else s.withCoordinator ((s.opened registry reason group unique startedAt markedAt).clear
      (some opening.result.id)) := rfl
  cases empty : session.inFlight.isEmpty with
  | true =>
    rw [empty] at awaiting
    rw [awaiting, if_neg (by simp)] at after
    rw [after]
    refine ⟨rfl, Or.inl ⟨awaiting, ?_⟩⟩
    change (Coordinator.clear _ _).session = none
    rw [Coordinator.clear, if_pos]
    apply Or.inr
    rw [Coordinator.currentId?, hs, Option.map_some, own]
    rfl
  | false =>
    rw [empty] at awaiting
    rw [awaiting, if_pos (by simp)] at after
    rw [after]
    exact ⟨rfl, Or.inr ⟨session, awaiting, hs, own, empty⟩⟩

theorem coupled_refreshed (s : HubState) (setup : Setup) (reason : RefreshReason)
    (group : UserGroup) (unique : String) (startedAt markedAt : Number) (task : Nat) :
    (s.refreshed setup reason group unique startedAt markedAt task).Coupled := by
  obtain ⟨pending, ended⟩ := openRefresh_cases (s.beginRefresh group startedAt).after
    setup.registry reason group unique startedAt markedAt
  dsimp only [refreshed]
  rcases ended with ⟨awaiting, closed⟩ | ⟨session, awaiting, hs, own, awaits⟩
  · rw [awaiting, if_neg (by simp)]
    refine .idle closed (pending.trans ?_)
    rw [beginRefresh_after]
  · rw [awaiting, if_pos rfl]
    exact .waiting hs rfl own.symm awaits

theorem coupled_accepts (h : s.Coupled) {setup : Setup} {now : Number} {message : Message}
    {c : Change HubState Bool} (accepts : Accepts setup s now message c) : c.after.Coupled := by
  cases accepts with
  | sourceData _ _ => exact coupled_takeReport h _ _ _ now
  | sourceError _ _ => exact coupled_acceptError h _ _ now
  | refreshTimeout id => exact coupled_applyTimeout h id now
  | userRemoved user => exact coupled_clearForUser h user

theorem coupled_change (h : s.Coupled) {setup : Setup} {now : Number} {operation : Operation}
    {c : Change HubState Unit} (makes : Makes setup s now operation c) : c.after.Coupled := by
  cases makes with
  | message _ accepts => exact coupled_accepts h accepts
  | dismissal _ _ after => exact after ▸ h.congr rfl rfl
  | launch | saving | loading => exact h.congr rfl rfl
  | relaunch => exact h
  | clearing => exact coupled_clearAll s

theorem coupled_step {setup : Setup} {operation : Operation} {t : HubState} (h : s.Coupled)
    (step : Step setup True s operation t) : t.Coupled := by
  cases step with
  | change now changes stops =>
    rcases stops with rfl | ⟨faulty, -⟩
    · exact coupled_change h (makes_of_change? changes)
    · exact absurd trivial faulty
  | idle now _ _ => exact h
  | interrupted _ _ faulty => exact absurd trivial faulty
  | refreshed reason group unique startedAt markedAt task _ =>
    exact coupled_refreshed s setup reason group unique startedAt markedAt task

/-- While no sink fails, session and timer stay together through every execution. -/
theorem coupled_execution {setup : Setup} {history : List Entered} {t : HubState}
    (h : Execution setup True s history t) (coupled : s.Coupled) : t.Coupled := by
  induction h with
  | refl => exact coupled
  | enter _ step ih => exact coupled_step ih step
  | subscribe group _ ih => exact ih.congr rfl rfl

theorem Coupled.pending_iff (h : s.Coupled) (id : String) :
    s.coordinator.currentId? = some id ↔ s.pending.map (·.sessionId) = some id := by
  rw [Coordinator.currentId?]
  rcases h with ⟨closed, none_pending⟩ | ⟨hs, hp, same, -⟩
  · rw [closed, none_pending]
    simp
  · rw [hs, hp, Option.map_some, Option.map_some, same]

theorem Coupled.awaits_iff (h : s.Coupled) (id : String) :
    s.coordinator.currentId? = some id ↔
      ∃ session, s.coordinator.session = some session ∧ session.id = id ∧
        session.inFlight.isEmpty = false := by
  rw [Coordinator.currentId?]
  rcases h with ⟨closed, -⟩ | ⟨hs, -, -, awaits⟩
  · rw [closed]
    simp
  · rw [hs, Option.map_some, Option.some.injEq]
    constructor
    · intro own
      exact ⟨_, rfl, own, awaits⟩
    · rintro ⟨session, same, own, -⟩
      cases same
      exact own

theorem status_ne_none (reason : RefreshReason) : reason.status ≠ .none := by
  cases reason <;> exact nofun

theorem Coupled.status_iff (h : s.Coupled) :
    s.coordinator.status ≠ .none ↔
      ∃ p, s.pending = some p ∧ s.coordinator.currentId? = some p.sessionId := by
  rw [Coordinator.status, Coordinator.currentId?]
  rcases h with ⟨closed, none_pending⟩ | ⟨hs, hp, same, awaits⟩
  · rw [closed, none_pending]
    simp
  · rw [hs, hp]
    dsimp only
    rw [awaits, if_neg (by simp)]
    exact iff_of_true (status_ne_none _) ⟨_, rfl, congrArg some same.symm⟩

end HubState

namespace Hub

variable {σ : Type}

/-- A host whose sink fails. -/
def brittle : Host Unit := { silent with emit := fun _ => throw (.foreign "sink is full") }

theorem brittle_orderly (setup : Setup) : brittle.Orderly setup False where
  emit := fun _ _ held => ⟨rfl, held⟩
  emit_ok := False.elim
  request := fun _ => Act.moves_pure Proceeds.refl ()
  listen := fun _ _ => Act.moves_pure Proceeds.refl ()
  onError := fun _ _ => Act.moves_pure Proceeds.refl ()

end Hub

end SafetyBoard
