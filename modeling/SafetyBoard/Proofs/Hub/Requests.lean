import Mathlib.Data.List.Forall2
import SafetyBoard.Proofs.Hub.Calls
import SafetyBoard.Proofs.View.Reporters

/-!
# Whom a refresh asks, and whom it waits for

A refresh asks each source for each user that it reports for, and when the page is only opened it
leaves out those that have reported and do not want to be asked for that. The coordinator awaits the
requests that it tracks. As no source and user is asked twice, it awaits them in the order in which
they are asked, and the timer is set exactly if there are any.
-/

namespace SafetyBoard

variable {σ α : Type}

namespace Session

theorem keys_foldl_markOne {s : Session} (none : s.inFlight = ∅) (now : Number)
    {keys : List SourceKey} (distinct : keys.Nodup) :
    (keys.foldl (markOne now) s).keys = keys := by
  have names : (keys.map SourceKey.encode).Nodup :=
    distinct.map fun _ _ => SourceKey.encode_injective
  let entries : List (String × Awaited) := keys.map fun key => (key.encode, ⟨key, now⟩)
  have filled := Table.entries_foldl (t := ∅) (show (([] ++ entries).map Prod.fst).Nodup by
    rw [List.nil_append, List.map_map]
    exact names)
  rw [List.foldl_map] at filled
  rw [foldl_markOne, none, Session.keys, Table.values, filled]
  change (([] ++ keys.map _).map Prod.snd).map _ = keys
  rw [List.nil_append, List.map_map, List.map_map]
  exact List.map_id keys

end Session

namespace Coordinator

theorem untracked_after (c : Coordinator) (call : Call) :
    (c.after call).untracked = c.untracked := by
  cases call with
  | start unique reason group now => rw [after, start_after]
  | mark | complete | timeout | clearForUser | clear =>
    rw [after_session_only c (by intro _ _ _ _ start; cases start)]

theorem kept_untracked (untracked : List String) : Kept fun c => c.untracked = untracked where
  after h call := (untracked_after _ call).trans h
  answered h _ _ _ := h

end Coordinator

namespace HubState

/-- Whether a source is asked for a user: always, unless the page is only opened, the source has
reported for the user and does not allow to be asked for that. -/
def isAsked (s : HubState) (reason : RefreshReason) (reporter : Source × UserId) : Bool :=
  reason ≠ .pageOpen || (s.store.get? (reporterKey reporter)).isNone ||
    reporter.1.reporting?.any (·.refreshOnPageOpenAllowed)

structure Asked (id : String) (reason : RefreshReason) (reporter : Source × UserId)
    (r : RefreshRequest) : Prop where
  session : r.sessionId = id
  reason : r.reason = reason
  key : r.key = reporterKey reporter
  package : reporter.1.reporting?.map (·.packageName) = some r.packageName

/-- One request for each source and user that are to be asked, in the order of the sources and then
of the users. -/
structure Asks (s : HubState) (registry : Registry) (reason : RefreshReason) (group : UserGroup)
    (id : String) (requests : List RefreshRequest) : Prop where
  each : List.Forall₂ (Asked id reason)
    ((group.reporters registry.externalSources).filter (s.isAsked reason)) requests
  once : (requests.map (·.key)).Nodup
  unreported : ∀ reporter ∈ group.reporters registry.externalSources,
    s.store.get? (reporterKey reporter) = none → ∃ r ∈ requests, r.key = reporterKey reporter

variable {s : HubState} {registry : Registry} {reason : RefreshReason} {group : UserGroup}
  {id : String}

theorem keys_of_asked {reporters : List (Source × UserId)} {requests : List RefreshRequest}
    (each : List.Forall₂ (Asked id reason) reporters requests) :
    requests.map (·.key) = reporters.map reporterKey := by
  induction each with
  | nil => rfl
  | cons asked _ ih => rw [List.map_cons, List.map_cons, asked.key, ih]

theorem forall₂_requests (source : Source) (s : HubState) (group : UserGroup)
    (external : source.isExternal = true) :
    List.Forall₂ (Asked id reason)
      (((group.reportingUsers source.supportsManaged).map (source, ·)).filter (s.isAsked reason))
      (match source.reporting? with
        | none => []
        | some reporting =>
          ((group.reportingUsers source.supportsManaged).filter fun user =>
            s.asks reason reporting ⟨source.id, user⟩).map fun user =>
              ⟨id, reason, source.id, reporting.packageName, user⟩) := by
  obtain ⟨reporting, reports⟩ := Option.isSome_iff_exists.mp external
  have same (user : UserId) : s.isAsked reason (source, user) =
      s.asks reason reporting ⟨source.id, user⟩ := by
    rw [isAsked, asks, reports, Option.any_some, Bool.or_right_comm]
    rfl
  rw [reports, List.filter_map, List.forall₂_map_left_iff, List.forall₂_map_right_iff,
    Function.comp_def, funext same, List.forall₂_same]
  intro user _
  exact ⟨rfl, rfl, rfl, congrArg (Option.map (·.packageName)) reports⟩

theorem requests_each (s : HubState) (registry : Registry) (reason : RefreshReason)
    (group : UserGroup) (id : String) : List.Forall₂ (Asked id reason)
      ((group.reporters registry.externalSources).filter (s.isAsked reason))
      (s.requests registry reason group id) := by
  have walk (sources : List Source) (external : ∀ source ∈ sources, source.isExternal = true) :
      List.Forall₂ (Asked id reason) ((group.reporters sources).filter (s.isAsked reason))
        (sources.flatMap fun source =>
          match source.reporting? with
          | none => []
          | some reporting =>
            ((group.reportingUsers source.supportsManaged).filter fun user =>
              s.asks reason reporting ⟨source.id, user⟩).map fun user =>
                ⟨id, reason, source.id, reporting.packageName, user⟩) := by
    induction sources with
    | nil => exact .nil
    | cons source rest ih =>
      rw [UserGroup.reporters, List.flatMap_cons, List.flatMap_cons, List.filter_append]
      exact List.rel_append (forall₂_requests source s group (external source List.mem_cons_self))
        (ih fun other member => external other (List.mem_cons_of_mem _ member))
  exact walk _ fun source member => (List.mem_filter.mp member).2

theorem requests_asks (users : group.users.Nodup) :
    s.Asks registry reason group id (s.requests registry reason group id) where
  each := requests_each s registry reason group id
  once := by
    rw [keys_of_asked (requests_each s registry reason group id)]
    exact (UserGroup.nodup_reporters users registry.nodup_external_ids).sublist
      (List.filter_sublist.map _)
  unreported := by
    intro reporter member absent
    have asked : s.isAsked reason reporter = true := by
      rw [isAsked, absent]
      simp
    have key : reporterKey reporter ∈ (s.requests registry reason group id).map (·.key) := by
      rw [keys_of_asked (requests_each s registry reason group id)]
      exact List.mem_map_of_mem (List.mem_filter.mpr ⟨member, asked⟩)
    exact List.mem_map.mp key

theorem inFlightKeys_opened (unique : String) (startedAt markedAt : Number)
    (distinct : ((s.requests registry reason group
      (Coordinator.sessionId unique s.coordinator.opened)).map (·.key)).Nodup) :
    (s.opened registry reason group unique startedAt markedAt).inFlightKeys =
      ((s.requests registry reason group
        (Coordinator.sessionId unique s.coordinator.opened)).map (·.key)).filter
          fun key => key.sourceId ∉ s.coordinator.untracked := by
  have current : (s.coordinator.openSession unique reason group startedAt).after.current?
      (Coordinator.sessionId unique s.coordinator.opened) = some _ :=
    Coordinator.current?_eq_some.mpr ⟨rfl, rfl⟩
  have marked := fun keys => (Coordinator.mark_of_current current markedAt keys).1
  have opening : s.opened registry reason group unique startedAt markedAt = _ := marked _
  have tracked (key : SourceKey) :
      (s.coordinator.openSession unique reason group startedAt).after.isTracked key.sourceId =
        decide (key.sourceId ∉ s.coordinator.untracked) := by
    rw [Coordinator.isTracked, Bool.eq_iff_iff]
    simp [Coordinator.openSession]
  rw [opening, Coordinator.inFlightKeys]
  simp only [tracked]
  exact Session.keys_foldl_markOne rfl markedAt (distinct.filter _)

theorem openRefresh_awaits (s : HubState) (registry : Registry) (reason : RefreshReason)
    (users : group.users.Nodup) (unique : String) (startedAt markedAt : Number) :
    let opening := s.openRefresh registry reason group unique startedAt markedAt
    opening.result.requests = s.requests registry reason group opening.result.id ∧
      opening.after.pending = s.pending ∧
      opening.after.coordinator.inFlightKeys = (opening.result.requests.map (·.key)).filter
        (fun key => key.sourceId ∉ s.coordinator.untracked) ∧
      (opening.result.awaiting = true ↔ opening.after.coordinator.inFlightKeys ≠ []) ∧
      opening.after.coordinator.currentId? =
        if opening.result.awaiting then some opening.result.id else none := by
  intro opening
  have requests : opening.result.requests =
      s.requests registry reason group opening.result.id := rfl
  have asks : s.Asks registry reason group opening.result.id
      (s.requests registry reason group opening.result.id) := requests_asks users
  have keys := inFlightKeys_opened unique startedAt markedAt asks.once
  have awaiting : opening.result.awaiting =
      !(s.opened registry reason group unique startedAt markedAt).inFlightKeys.isEmpty := rfl
  have after : opening.after = if opening.result.awaiting then
      s.withCoordinator (s.opened registry reason group unique startedAt markedAt)
    else s.withCoordinator ((s.opened registry reason group unique startedAt markedAt).clear
      (some opening.result.id)) := rfl
  obtain ⟨pending, ended⟩ := openRefresh_cases s registry reason group unique startedAt markedAt
  refine ⟨requests, pending, ?_⟩
  rcases ended with ⟨done, closed⟩ | ⟨session, waits, open_, own, -⟩
  · have done : opening.result.awaiting = false := done
    have closed : opening.after.coordinator.session = none := closed
    have none : opening.after.coordinator.inFlightKeys = [] := by
      rw [Coordinator.inFlightKeys, closed]
    have awaiting := awaiting.symm.trans done
    rw [Bool.not_eq_false', List.isEmpty_iff, keys] at awaiting
    refine ⟨none.trans awaiting.symm, ?_, ?_⟩
    · rw [done]
      exact iff_of_false Bool.false_ne_true (not_not.mpr none)
    · rw [done, Coordinator.currentId?, closed]
      rfl
  · have waits : opening.result.awaiting = true := waits
    rw [waits, if_pos rfl] at after
    have awaiting := awaiting.symm.trans waits
    rw [Bool.not_eq_true', List.isEmpty_eq_false_iff] at awaiting
    have coordinator : opening.after.coordinator =
        s.opened registry reason group unique startedAt markedAt := by rw [after]; rfl
    refine ⟨coordinator ▸ keys, ?_, ?_⟩
    · rw [waits, coordinator]
      exact iff_of_true rfl awaiting
    · have open_ : opening.after.coordinator.session = some session := open_
      rw [waits, if_pos rfl, Coordinator.currentId?, open_]
      exact congrArg some own

end HubState

/-- The timers that were set, each with its delay and its session. Nothing but setting a timer adds
to them, and the sink leaves the hub alone. -/
structure Host.Times (host : Host σ) (timers : σ → List (Number × String)) : Prop where
  schedule : ∀ delay id h, timers (host.schedule delay id h).2 = timers h ++ [(delay, id)]
  unique : ∀ h, timers (host.unique h).2 = timers h
  log : ∀ line h, timers (host.log line h) = timers h
  cancel : ∀ task h, timers (host.cancel task h) = timers h
  emit : ∀ e x, ∃ h, (host.emit e).run x = (.ok (), x.1, h) ∧ timers h = timers x.2

namespace Hub

open HubAct

variable {host : Host σ} {setup : Setup} {timers : σ → List (Number × String)}

section Timers

variable (times : host.Times timers)
include times

theorem run_perform_times (setup : Setup) (c : Change HubState α) (x : Hub × σ) :
    ∃ h, (perform host setup c).run x = (.ok c.result, { x.1 with state := c.after }, h) ∧
      timers h = timers x.2 := by
  refine run_perform_of_speaks host x setup (P := fun _ h => timers h = timers x.2) ?_ rfl
  intro signal rest y same
  cases signal with
  | log line => exact ⟨_, rfl, (times.log line y.2).trans same⟩
  | cancel task => exact ⟨_, rfl, (times.cancel task y.2).trans same⟩
  | event e =>
    rw [speak]
    split
    · obtain ⟨h, emits, kept⟩ := times.emit e y
      exact ⟨h, emits, kept.trans same⟩
    · exact ⟨y.2, rfl, same⟩

theorem run_openRefresh_times (setup : Setup) (reason : RefreshReason) (group : UserGroup)
    {x : Hub × σ} (free : x.1.held = false) :
    ∃ unique startedAt markedAt h,
      let opening := (x.1.state.beginRefresh group startedAt).after.openRefresh setup.registry
        reason group unique startedAt markedAt
      (openRefresh host setup reason group).run x =
        (.ok opening.result, { x.1 with state := opening.after }, h) ∧ timers h = timers x.2 := by
  obtain ⟨h₁, begun, kept₁⟩ := run_perform_times times setup
    (x.1.state.beginRefresh group (host.now x.2)) ({ x.1 with held := true }, x.2)
  let opening := (x.1.state.beginRefresh group (host.now x.2)).after.openRefresh setup.registry
    reason group (host.unique h₁).1 (host.now x.2) (host.now (host.unique h₁).2)
  obtain ⟨h₂, opened, kept₂⟩ := run_perform_times times setup opening
    ({ x.1 with
      held := true
      state := (x.1.state.beginRefresh group (host.now x.2)).after }, (host.unique h₁).2)
  refine ⟨(host.unique h₁).1, host.now x.2, host.now (host.unique h₁).2, h₂,
    run_gate_of_ran free ?_, kept₂.trans ((times.unique h₁).trans kept₁)⟩
  rw [run_now_bind, run_getState_bind, Act.run_bind_ok begun, run_ask_bind, run_now_bind,
    run_getState_bind]
  exact opened

end Timers

theorem run_refresh_of_opened (host : Host σ) (enabled : setup.settings.enabled = true)
    {reason : RefreshReason} {group : UserGroup} {x z : Hub × σ} {opened : HubState.Opened}
    (ran : (openRefresh host setup reason group).run x = (.ok opened, z)) :
    (run host setup (.refresh reason group)).run x = (do
      if opened.awaiting then setTimer host setup reason opened.id else pure ()
      opened.requests.forM host.request
      notify host setup
      return .session opened.id : HubAct σ Answer).run z := by
  rw [run, ← bind_pure_comp, refresh, bind_assoc, run_requireEnabled_bind x enabled, bind_assoc,
    Act.run_bind_ok ran]
  split <;> simp only [bind_assoc, pure_bind]

/-- What a refresh awaits of its requests, and the timers that it sets: none if it awaits nothing,
and then no session is open, or else one for its session. -/
structure Awaits (setup : Setup) (reason : RefreshReason) (id : String)
    (requests : List RefreshRequest) (t : HubState) (set : List (Number × String)) : Prop where
  inFlight : t.coordinator.inFlightKeys =
    (requests.map (·.key)).filter fun key => key.sourceId ∉ setup.settings.untrackedSourceIds
  nothing : t.coordinator.inFlightKeys = [] →
    t.coordinator.session = none ∧ t.pending = none ∧ set = []
  something : t.coordinator.inFlightKeys ≠ [] →
    t.coordinator.currentId? = some id ∧ (∃ task, t.pending = some ⟨id, task⟩) ∧
      set = [(setup.settings.timeouts.delay reason, id)]

/-- A host that only remembers the timers that it sets. -/
def timekeeper : Host (List (Number × String)) where
  now _ := 0
  unique h := ("u", h)
  log _ h := h
  cancel _ h := h
  schedule delay id h := (h.length, h ++ [(delay, id)])
  emit _ := pure ()
  request _ := pure ()
  listen _ _ := pure ()
  onError _ _ := pure ()
  mayPost _ := 0

theorem timekeeper_times : timekeeper.Times fun h => h where
  schedule _ _ _ := rfl
  unique _ := rfl
  log _ _ := rfl
  cancel _ _ := rfl
  emit _ _ := ⟨_, rfl, rfl⟩

theorem timekeeper_orderly (setup : Setup) (faultless : Prop) :
    timekeeper.Orderly setup faultless where
  emit := fun _ => Act.moves_pure Stays.refl ()
  emit_ok := fun _ _ _ _ => rfl
  request := fun _ => Act.moves_pure Proceeds.refl ()
  listen := fun _ _ => Act.moves_pure Proceeds.refl ()
  onError := fun _ _ => Act.moves_pure Proceeds.refl ()

end Hub

end SafetyBoard
