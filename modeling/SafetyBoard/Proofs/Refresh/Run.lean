import Mathlib.Data.List.Nodup
import SafetyBoard.Proofs.Keys
import SafetyBoard.Proofs.Table
import SafetyBoard.Refresh.Coordinator

/-!
# Runs of a coordinator

The calls that a coordinator takes, in any order and with any arguments, what each of them does to
the open session, and the events that a run of them leaves in the log. A call is one atomic change;
what the host does between the moments of a change belongs to the hub.
-/

namespace SafetyBoard

namespace Change

variable {σ α : Type}

section Events

variable (m : σ) (moments rest : List (σ × Signal)) (after : σ) (result : α)

@[simp]
theorem events_nil : (⟨[], after, result⟩ : Change σ α).events = [] := rfl

@[simp]
theorem events_event (e : TelemetryEvent) :
    (⟨(m, .event e) :: rest, after, result⟩ : Change σ α).events =
      e :: (⟨rest, after, result⟩ : Change σ α).events := rfl

@[simp]
theorem events_log (line : LogLine) :
    (⟨(m, .log line) :: rest, after, result⟩ : Change σ α).events =
      (⟨rest, after, result⟩ : Change σ α).events := rfl

@[simp]
theorem events_append :
    (⟨moments ++ rest, after, result⟩ : Change σ α).events =
      (⟨moments, after, result⟩ : Change σ α).events ++
        (⟨rest, after, result⟩ : Change σ α).events := by
  simp [events, signals]

@[simp]
theorem events_map_event (told : List TelemetryEvent) :
    (⟨told.map fun e => (m, .event e), after, result⟩ : Change σ α).events = told := by
  induction told with
  | nil => rfl
  | cons e told ih => rw [List.map_cons, events_event, ih]

end Events

@[simp]
theorem events_andThen {β : Type} (c : Change σ α) (next : σ → α → Change σ β) :
    (c.andThen next).events = c.events ++ (next c.after c.result).events := by
  simp [events]

@[simp]
theorem events_within {τ : Type} (c : Change σ α) (embed : σ → τ) :
    (c.within embed).events = c.events := by
  simp [events]

theorem event_mem {c : Change σ α} {s : σ} {e : TelemetryEvent} (h : (s, .event e) ∈ c.moments) :
    e ∈ c.events :=
  List.mem_filterMap.mpr ⟨.event e, List.mem_map.mpr ⟨_, h, rfl⟩, rfl⟩

end Change

namespace EventLog

theorem foldl_emit {l : EventLog} (h : l.enabled = true) (events : List TelemetryEvent) :
    events.foldl emit l = ⟨true, l.events ++ events⟩ := by
  induction events generalizing l with
  | nil =>
    obtain ⟨enabled, old⟩ := l
    cases h
    simp
  | cons e rest ih =>
    have he : (l.emit e).enabled = true := by rw [emit, if_pos h, h]
    rw [List.foldl_cons, ih he, emit, if_pos h]
    simp

end EventLog

namespace Session

variable (s : Session) (now : Number)

def Keyed : Prop := ∀ text a, s.inFlight.get? text = some a → text = a.key.encode

theorem mem_keys {s : Session} (h : s.Keyed) {key : SourceKey} :
    key ∈ s.keys ↔ (s.inFlight.get? key.encode).isSome = true := by
  simp only [keys, List.mem_map, Table.mem_values_iff, Option.isSome_iff_exists]
  constructor
  · rintro ⟨a, ⟨text, ha⟩, rfl⟩
    exact ⟨a, h text a ha ▸ ha⟩
  · rintro ⟨a, ha⟩
    exact ⟨a, ⟨_, ha⟩, SourceKey.encode_injective (h _ a ha).symm⟩

theorem keys_nodup {s : Session} (h : s.Keyed) : s.keys.Nodup := by
  have encoded : s.keys.map SourceKey.encode = s.inFlight.keys := by
    rw [keys, List.map_map]
    exact Table.NamedBy.map_values h
  apply List.Nodup.of_map SourceKey.encode
  rw [encoded]
  exact s.inFlight.nodup_keys

@[simp]
theorem length_keys : s.keys.length = s.inFlight.size := by
  simp [keys, Table.values, Table.size]

theorem isEmpty_keys : s.keys.isEmpty = s.inFlight.isEmpty := by
  simp [keys, Table.values, Table.isEmpty]

theorem keys_eq_nil : s.keys = [] ↔ s.inFlight.isEmpty = true := by
  simp [keys, Table.values, Table.isEmpty]

theorem foldl_markOne (keys : List SourceKey) :
    keys.foldl (markOne now) s =
      { s with inFlight := keys.foldl (fun t k => t.insert k.encode ⟨k, now⟩) s.inFlight } := by
  induction keys generalizing s with
  | nil => rfl
  | cons key rest ih => exact ih (s.markOne now key)

theorem get?_marked (keys : List SourceKey) (t : Table String Awaited) (text : String)
    (a : Awaited) :
    (keys.foldl (fun t k => t.insert k.encode ⟨k, now⟩) t).get? text = some a ↔
      (text = a.key.encode ∧ a.since = now ∧ a.key ∈ keys) ∨
      ((∀ k ∈ keys, k.encode ≠ text) ∧ t.get? text = some a) := by
  induction keys generalizing t with
  | nil => simp
  | cons key rest ih =>
    rw [List.foldl_cons, ih, Table.get?_insert]
    by_cases hk : key.encode = text
    · rw [if_pos hk]
      constructor
      · rintro (⟨ht, hn, hm⟩ | ⟨hr, ha⟩)
        · exact Or.inl ⟨ht, hn, List.mem_cons_of_mem _ hm⟩
        · cases ha
          exact Or.inl ⟨hk.symm, rfl, List.mem_cons_self⟩
      · rintro (⟨ht, hn, hm⟩ | ⟨hr, -⟩)
        · have same : key = a.key := SourceKey.encode_injective (hk.trans ht)
          by_cases later : a.key ∈ rest
          · exact Or.inl ⟨ht, hn, later⟩
          · refine Or.inr ⟨?_, ?_⟩
            · intro k hkr hkt
              exact later (SourceKey.encode_injective (hkt.trans ht) ▸ hkr)
            · rw [← hn, same]
        · exact absurd hk (hr key List.mem_cons_self)
    · rw [if_neg hk]
      refine or_congr ?_ (and_congr_left' ?_)
      · refine and_congr_right fun ht => and_congr_right fun _ => ?_
        rw [List.mem_cons]
        refine ⟨Or.inr, fun h => h.resolve_left ?_⟩
        rintro rfl
        exact hk ht.symm
      · rw [List.forall_mem_cons]
        exact ⟨fun h => ⟨hk, h⟩, And.right⟩

theorem isSome_get?_marked (keys : List SourceKey) {t : Table String Awaited} {text : String}
    (h : (t.get? text).isSome = true) :
    ((keys.foldl (fun t k => t.insert k.encode ⟨k, now⟩) t).get? text).isSome = true := by
  induction keys generalizing t with
  | nil => exact h
  | cons key rest ih =>
    apply ih
    rw [Table.get?_insert]
    split
    · rfl
    · exact h

theorem keyed_marked {s : Session} (h : s.Keyed) (keys : List SourceKey) :
    (keys.foldl (markOne now) s).Keyed := by
  intro text a ha
  rw [foldl_markOne] at ha
  rcases (get?_marked now keys s.inFlight text a).mp ha with ⟨ht, -⟩ | ⟨-, hs⟩
  · exact ht
  · exact h text a hs

theorem get?_answered (key : SourceKey) (failed : Bool) (text : String) :
    (s.answered key failed).inFlight.get? text =
      if key.encode = text then none else s.inFlight.get? text :=
  Table.get?_erase _ _ _

theorem keyed_answered {s : Session} (h : s.Keyed) (key : SourceKey) (failed : Bool) :
    (s.answered key failed).Keyed := by
  intro text a ha
  rw [get?_answered] at ha
  split at ha
  · cases ha
  · exact h text a ha

end Session

namespace Coordinator

variable (c : Coordinator)

theorem current?_eq_some {c : Coordinator} {id : String} {s : Session} :
    c.current? id = some s ↔ c.session = some s ∧ s.id = id := by
  simp [current?, Option.filter_eq_some_iff]

theorem current?_of_closed {c : Coordinator} (h : c.session = none) (id : String) :
    c.current? id = none := by
  rw [current?, h]
  rfl

theorem ne_of_stale {c : Coordinator} {id : String} {s : Session} (h : c.session = some s)
    (stale : c.current? id = none) : s.id ≠ id := by
  intro own
  rw [current?_eq_some.mpr ⟨h, own⟩] at stale
  cases stale

@[simp]
theorem supersede_after (now : Number) : (c.supersede now).after = c := by
  unfold supersede
  split <;> rfl

theorem start_after (unique : String) (reason : RefreshReason) (group : UserGroup)
    (now : Number) :
    (c.start unique reason group now).after =
      { c with
        session := some ⟨sessionId unique c.opened, reason, group, now, ∅, false⟩
        opened := c.opened + 1 } := by
  unfold start supersede
  cases c.session <;> rfl

theorem start_events (unique : String) (reason : RefreshReason) (group : UserGroup)
    (now : Number) :
    (c.start unique reason group now).events =
      match c.session with
      | none => []
      | some s =>
        [.refreshSuperseded s.reason.requestType (now - s.startedAt) (.ofNat s.inFlight.size)] := by
  unfold start supersede
  cases c.session <;> rfl

section Stale

variable {c : Coordinator} {id : String} (h : c.current? id = none) (now : Number)
include h

theorem mark_of_stale (keys : List SourceKey) :
    (c.mark id keys now).after = c ∧ (c.mark id keys now).events = [] := by
  rw [mark, h]
  exact ⟨rfl, rfl⟩

theorem complete_of_stale (key : SourceKey) (success : Bool) :
    (c.complete id key success now).after = c ∧ (c.complete id key success now).events = [] ∧
      (c.complete id key success now).result = false := by
  rw [complete, h]
  exact ⟨rfl, rfl, rfl⟩

theorem timeout_of_stale :
    (c.timeout id now).after = c ∧ (c.timeout id now).events = [] := by
  rw [timeout, h]
  exact ⟨rfl, rfl⟩

end Stale

section Current

variable {c : Coordinator} {id : String} {s : Session} (h : c.current? id = some s) (now : Number)
include h

theorem mark_of_current (keys : List SourceKey) :
    (c.mark id keys now).after =
        { c with session := some ((keys.filter fun k => c.isTracked k.sourceId).foldl
          (Session.markOne now) s) } ∧
      (c.mark id keys now).events = [] := by
  rw [mark, h]
  exact ⟨rfl, rfl⟩

/-- The event of an answer, told only for a source that is awaited. -/
theorem complete_of_current (key : SourceKey) (success : Bool) :
    let s' := s.answered key (c.isTracked key.sourceId && !success)
    (c.complete id key success now).after =
        { c with session := if s'.inFlight.isEmpty then none else some s' } ∧
      (c.complete id key success now).events =
        ((s.inFlight.get? key.encode).map fun a =>
          s.answerEvent key a.since now (if success then .success else .error)).toList ++
        (if s'.inFlight.isEmpty then
          [s'.wholeEvent now (if s'.failureSeen then .error else .success)] else []) ∧
      (c.complete id key success now).result = s'.inFlight.isEmpty := by
  intro s'
  rw [complete, h]
  dsimp only
  by_cases done : s'.inFlight.isEmpty = true
  · rw [if_pos done, if_pos done, if_pos done, done]
    cases s.inFlight.get? key.encode <;> exact ⟨rfl, rfl, rfl⟩
  · rw [if_neg done, if_neg done, if_neg done, Bool.eq_false_iff.mpr done]
    cases s.inFlight.get? key.encode <;> exact ⟨rfl, rfl, rfl⟩

theorem timeout_of_current :
    (c.timeout id now).after = { c with session := none } ∧
      (c.timeout id now).events =
        if s.inFlight.isEmpty then []
        else s.inFlight.values.map (fun a => s.answerEvent a.key a.since now .timeout) ++
          [s.wholeEvent now .timeout] := by
  rw [timeout, h]
  dsimp only
  by_cases done : s.inFlight.isEmpty = true
  · rw [if_pos done, if_pos done]
    exact ⟨rfl, rfl⟩
  · rw [if_neg done, if_neg done]
    refine ⟨rfl, ?_⟩
    rw [Change.events_append, Change.events_map_event, Change.events_log, Change.events_nil,
      List.append_nil]

end Current

@[simp]
theorem mark_events (id : String) (keys : List SourceKey) (now : Number) :
    (c.mark id keys now).events = [] := by
  cases h : c.current? id with
  | none => exact (mark_of_stale h now keys).2
  | some s => exact (mark_of_current h now keys).2

theorem clear_eq (id : Option String) :
    c.clear id = { c with session := none } ∨ c.clear id = c := by
  unfold clear
  split
  · exact Or.inl rfl
  · exact Or.inr rfl

/-- A removed user either takes the session along or leaves it with the other users' keys. -/
theorem clearForUser_cases {s : Session} (h : c.session = some s) (user : UserId) :
    let inFlight := s.inFlight.filter fun _ a => !a.key.userId.equals user
    c.clearForUser user = (true, { c with session := none }) ∨
      (c.clearForUser user = (false, { c with session := some { s with inFlight } }) ∧
        inFlight.isEmpty = false) := by
  intro inFlight
  rw [clearForUser, h]
  dsimp only
  by_cases parent : s.group.parent.equals user = true
  · rw [if_pos parent]
    exact Or.inl rfl
  · rw [if_neg parent]
    by_cases gone : inFlight.isEmpty = true
    · rw [if_pos gone]
      exact Or.inl rfl
    · rw [if_neg gone]
      exact Or.inr ⟨rfl, Bool.eq_false_iff.mpr gone⟩

theorem clearForUser_of_closed {c : Coordinator} (h : c.session = none) (user : UserId) :
    c.clearForUser user = (false, c) := by
  rw [clearForUser, h]

inductive Call where
  | start (unique : String) (reason : RefreshReason) (group : UserGroup) (now : Number)
  | mark (id : String) (keys : List SourceKey) (now : Number)
  | complete (id : String) (key : SourceKey) (success : Bool) (now : Number)
  | timeout (id : String) (now : Number)
  | clearForUser (user : UserId)
  | clear (id : Option String)
  deriving Repr

def after : Call → Coordinator
  | .start unique reason group now => (c.start unique reason group now).after
  | .mark id keys now => (c.mark id keys now).after
  | .complete id key success now => (c.complete id key success now).after
  | .timeout id now => (c.timeout id now).after
  | .clearForUser user => (c.clearForUser user).2
  | .clear id => c.clear id

def Call.now? : Call → Option Number
  | .start _ _ _ now | .mark _ _ now | .complete _ _ _ now | .timeout _ now => some now
  | .clearForUser _ | .clear _ => none

/-- The events that a call tells; nothing is told when a session is dropped. -/
def told : Call → List TelemetryEvent
  | .start unique reason group now => (c.start unique reason group now).events
  | .mark id keys now => (c.mark id keys now).events
  | .complete id key success now => (c.complete id key success now).events
  | .timeout id now => (c.timeout id now).events
  | .clearForUser _ | .clear _ => []

structure Monitored where
  coordinator : Coordinator
  telemetry : EventLog
  deriving DecidableEq, Repr

namespace Monitored

def fresh (untracked : List String) : Monitored := ⟨.fresh untracked, true, []⟩

def step (m : Monitored) (call : Call) : Monitored :=
  ⟨m.coordinator.after call, (m.coordinator.told call).foldl EventLog.emit m.telemetry⟩

def run (m : Monitored) (calls : List Call) : Monitored := calls.foldl step m

theorem run_append (m : Monitored) (calls more : List Call) :
    m.run (calls ++ more) = (m.run calls).run more :=
  List.foldl_append

theorem step_telemetry {m : Monitored} (h : m.telemetry.enabled = true) (call : Call) :
    (m.step call).telemetry = ⟨true, m.telemetry.events ++ m.coordinator.told call⟩ :=
  EventLog.foldl_emit h _

theorem run_enabled {m : Monitored} (h : m.telemetry.enabled = true) (calls : List Call) :
    (m.run calls).telemetry.enabled = true := by
  induction calls generalizing m with
  | nil => exact h
  | cons call rest ih =>
    apply ih (m := m.step call)
    rw [step_telemetry h]

end Monitored

/-- Apart from a start, a call changes nothing but the session. -/
theorem after_session_only (c : Coordinator) {call : Call}
    (other : ∀ unique reason group now, call ≠ .start unique reason group now) :
    c.after call = { c with session := (c.after call).session } := by
  cases call with
  | start unique reason group now => exact absurd rfl (other unique reason group now)
  | mark id keys now =>
    cases current : c.current? id with
    | none => rw [after, (mark_of_stale current now keys).1]
    | some s => rw [after, (mark_of_current current now keys).1]
  | complete id key success now =>
    cases current : c.current? id with
    | none => rw [after, (complete_of_stale current now key success).1]
    | some s => rw [after, (complete_of_current current now key success).1]
  | timeout id now =>
    cases current : c.current? id with
    | none => rw [after, (timeout_of_stale current now).1]
    | some s => rw [after, (timeout_of_current current now).1]
  | clearForUser user =>
    cases hs : c.session with
    | none => rw [after, clearForUser_of_closed hs]
    | some s => rcases clearForUser_cases c hs user with e | ⟨e, -⟩ <;> rw [after, e]
  | clear id => rcases clear_eq c id with e | e <;> rw [after, e]

/-- What a call leaves of an open session that outlasts it: what is awaited then was awaited before,
or is marked by the call. -/
structure GoesOn (call : Call) (s s' : Session) : Prop where
  id : s'.id = s.id
  startedAt : s'.startedAt = s.startedAt
  awaited : ∀ text a, s'.inFlight.get? text = some a → s.inFlight.get? text = some a ∨
    (text = a.key.encode ∧ ∃ id keys, call = .mark id keys a.since)

theorem session_after {c : Coordinator} {call : Call} {s' : Session}
    (h : (c.after call).session = some s') :
    (∃ unique reason group now, call = .start unique reason group now ∧
      s' = ⟨sessionId unique c.opened, reason, group, now, ∅, false⟩) ∨
    ∃ s, c.session = some s ∧ (c.after call).opened = c.opened ∧ GoesOn call s s' := by
  have unchanged (same : c.after call = c) :
      ∃ s, c.session = some s ∧ (c.after call).opened = c.opened ∧ GoesOn call s s' := by
    rw [same] at h ⊢
    exact ⟨s', h, rfl, rfl, rfl, fun _ _ => Or.inl⟩
  cases call with
  | start unique reason group now =>
    rw [after, start_after] at h
    exact Or.inl ⟨unique, reason, group, now, rfl, (Option.some.inj h).symm⟩
  | mark id keys now =>
    right
    cases current : c.current? id with
    | none => exact unchanged (mark_of_stale current now keys).1
    | some s =>
      have marked := (mark_of_current current now keys).1
      rw [after, marked, Session.foldl_markOne] at h
      obtain rfl := Option.some.inj h
      refine ⟨s, (current?_eq_some.mp current).1, by rw [after, marked], rfl, rfl, ?_⟩
      intro text a ha
      rcases (Session.get?_marked now _ s.inFlight text a).mp ha with ⟨own, rfl, -⟩ | ⟨-, old⟩
      · exact Or.inr ⟨own, id, keys, rfl⟩
      · exact Or.inl old
  | complete id key success now =>
    right
    cases current : c.current? id with
    | none => exact unchanged (complete_of_stale current now key success).1
    | some s =>
      have answered := (complete_of_current current now key success).1
      rw [after, answered] at h
      dsimp only at h
      split at h
      · cases h
      obtain rfl := Option.some.inj h
      refine ⟨s, (current?_eq_some.mp current).1, by rw [after, answered], rfl, rfl, ?_⟩
      intro text a ha
      rw [Session.get?_answered] at ha
      split at ha
      · cases ha
      · exact Or.inl ha
  | timeout id now =>
    right
    cases current : c.current? id with
    | none => exact unchanged (timeout_of_stale current now).1
    | some s =>
      rw [after, (timeout_of_current current now).1] at h
      cases h
  | clearForUser user =>
    right
    cases hs : c.session with
    | none =>
      rw [← hs]
      exact unchanged (congrArg Prod.snd (clearForUser_of_closed hs user))
    | some s =>
      rcases clearForUser_cases c hs user with e | ⟨e, -⟩ <;> rw [after, e] at h
      · cases h
      · obtain rfl := Option.some.inj h
        refine ⟨s, rfl, by rw [after, e], rfl, rfl, ?_⟩
        intro text a ha
        rw [Table.get?_filter, Option.filter_eq_some_iff] at ha
        exact Or.inl ha.1
  | clear id =>
    right
    rcases clear_eq c id with e | e
    · rw [after, e] at h
      cases h
    · exact unchanged e

structure Sound : Prop where
  keyed : ∀ s, c.session = some s → s.Keyed
  opened : ∀ s, c.session = some s → 0 < c.opened

theorem fresh_sound (untracked : List String) : (fresh untracked).Sound := by
  constructor <;> intro s h <;> cases h

theorem Sound.continued {c : Coordinator} (hc : c.Sound) {s s' : Session}
    (h : c.session = some s) (keyed : s'.Keyed) :
    ({ c with session := some s' } : Coordinator).Sound where
  keyed := by
    intro t ht
    cases ht
    exact keyed
  opened := fun _ _ => hc.opened s h

theorem after_sound {c : Coordinator} (hc : c.Sound) (call : Call) : (c.after call).Sound where
  keyed := by
    intro s' open_ text a ha
    rcases session_after open_ with ⟨unique, reason, group, now, -, rfl⟩ | ⟨s, hs, -, goes_on⟩
    · cases ha
    · rcases goes_on.awaited text a ha with old | ⟨own, -⟩
      · exact hc.keyed s hs text a old
      · exact own
  opened := by
    intro s' open_
    rcases session_after open_ with ⟨unique, reason, group, now, rfl, -⟩ | ⟨s, hs, same, -⟩
    · rw [after, start_after]
      exact Nat.succ_pos _
    · rw [same]
      exact hc.opened s hs

theorem run_sound {m : Monitored} (h : m.coordinator.Sound) (calls : List Call) :
    (m.run calls).coordinator.Sound := by
  induction calls generalizing m with
  | nil => exact h
  | cons call rest ih => exact ih (m := m.step call) (after_sound h call)

theorem inFlightKeys_nodup {c : Coordinator} (hc : c.Sound) : c.inFlightKeys.Nodup := by
  unfold inFlightKeys
  split
  · next s h => exact Session.keys_nodup (hc.keyed s h)
  · exact List.nodup_nil

end Coordinator

end SafetyBoard
