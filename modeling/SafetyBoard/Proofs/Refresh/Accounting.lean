import Mathlib.Data.List.Induction
import Mathlib.Data.List.Perm.Basic
import SafetyBoard.Proofs.Refresh.Run

/-!
# What telemetry tells of a run

Every key that is awaited at some time is accounted for: its answer or its timeout was told, it was
abandoned or dropped with its session, or it is awaited still. Every session that was started is
open, or ended in exactly one way. Sessions are numbered in the order of their start, and an event
is counted for the session that was open when it was told.
-/

namespace SafetyBoard

namespace TelemetryEvent

def isSourceRefresh : TelemetryEvent → Bool
  | .sourceRefresh .. => true
  | _ => false

def isWholeRefresh : TelemetryEvent → Bool
  | .wholeRefresh .. => true
  | _ => false

def isSuperseded : TelemetryEvent → Bool
  | .refreshSuperseded .. => true
  | _ => false

def abandonedCount? : TelemetryEvent → Option Number
  | .refreshSuperseded _ _ abandoned => some abandoned
  | _ => none

end TelemetryEvent

/-- Two lists without repetition differ in length by what is only in the one or the other. -/
theorem length_add_filter_notMem {α : Type} [DecidableEq α] {xs ys : List α} (hx : xs.Nodup)
    (hy : ys.Nodup) :
    xs.length + (ys.filter (· ∉ xs)).length = ys.length + (xs.filter (· ∉ ys)).length := by
  have common : (xs.filter (· ∈ ys)).Perm (ys.filter (· ∈ xs)) := by
    apply (List.perm_ext_iff_of_nodup (hx.filter _) (hy.filter _)).mpr
    intro a
    simp [and_comm]
  have hxs := List.length_eq_length_filter_add (l := xs) (fun a => decide (a ∈ ys))
  have hys := List.length_eq_length_filter_add (l := ys) (fun a => decide (a ∈ xs))
  have := common.length_eq
  simp only [decide_not] at *
  omega

namespace Coordinator

def openNumber? (c : Coordinator) : Option Nat := c.session.map fun _ => c.opened - 1

inductive Ending where
  | whole
  | superseded
  | silent
  deriving DecidableEq, Repr

structure Moment where
  before : Coordinator
  call : Call

namespace Moment

variable (m : Moment)

def after : Coordinator := m.before.after m.call

def told : List TelemetryEvent := m.before.told m.call

def entering : List SourceKey := m.after.inFlightKeys.filter (· ∉ m.before.inFlightKeys)

def leaving : List SourceKey := m.before.inFlightKeys.filter (· ∉ m.after.inFlightKeys)

def dropped : List SourceKey :=
  match m.call with
  | .clear _ | .clearForUser _ => m.leaving
  | _ => []

/-- Whether the call ends the open session and nothing is told: a clearing, or a timeout with
nothing in flight. -/
def closesSilently : Bool :=
  match m.call with
  | .clear _ | .clearForUser _ => m.before.session.isSome && m.after.session.isNone
  | .timeout _ _ =>
    m.before.inFlightKeys.isEmpty && m.before.session.isSome && m.after.session.isNone
  | _ => false

def endings : Ending → Nat
  | .whole => m.told.countP (·.isWholeRefresh)
  | .superseded => m.told.countP (·.isSuperseded)
  | .silent => if m.closesSilently then 1 else 0

end Moment

def history (c : Coordinator) : List Call → List Moment
  | [] => []
  | call :: rest => ⟨c, call⟩ :: (c.after call).history rest

def endings (moments : List Moment) (number : Nat) (ending : Ending) : Nat :=
  ((moments.filter (·.before.openNumber? = some number)).map (·.endings ending)).sum

def Call.isStart : Call → Bool
  | .start .. => true
  | _ => false

/-- A session that is open or was not started yet has not ended; any other ended once, in one of the
ways. -/
structure EndedOnce (moments : List Moment) (c : Coordinator) : Prop where
  still_open : ∀ n, c.openNumber? = some n → ∀ e, endings moments n e = 0
  ended : ∀ n < c.opened, c.openNumber? ≠ some n →
    ∃ e, ∀ e', endings moments n e' = if e' = e then 1 else 0
  unstarted : ∀ n, c.opened ≤ n → ∀ e, endings moments n e = 0

/-- The books of a run: what happened in it against what was told. -/
structure Accounts (calls : List Call) (moments : List Moment) (final : Monitored) : Prop where
  told : final.telemetry.events = moments.flatMap (·.told)
  keys : ∃ abandoned : List Nat,
    final.telemetry.events.filterMap (·.abandonedCount?) = abandoned.map Number.ofNat ∧
    (moments.map (·.entering.length)).sum =
      final.telemetry.events.countP (·.isSourceRefresh) + abandoned.sum +
        (moments.map (·.dropped.length)).sum + final.coordinator.inFlightKeys.length
  started : final.coordinator.opened = calls.countP (·.isStart)
  told_while_open : ∀ m ∈ moments, m.before.session = none → m.told = []
  sessions : EndedOnce moments final.coordinator

theorem inFlightKeys_of_open {c : Coordinator} {s : Session} (h : c.session = some s) :
    c.inFlightKeys = s.keys := by
  rw [inFlightKeys, h]

theorem inFlightKeys_of_closed {c : Coordinator} (h : c.session = none) :
    c.inFlightKeys = [] := by
  rw [inFlightKeys, h]

theorem inFlightKeys_complete {c : Coordinator} {id : String} {s : Session}
    (h : c.current? id = some s) (key : SourceKey) (success : Bool) (now : Number) :
    (c.complete id key success now).after.inFlightKeys =
      (s.answered key (c.isTracked key.sourceId && !success)).keys := by
  rw [(complete_of_current h now key success).1]
  split
  · next done => exact (Session.keys_eq_nil _).mpr done ▸ rfl
  · rfl

structure Tally (events : List TelemetryEvent) (answers wholes : Nat) : Prop where
  answers : events.countP (·.isSourceRefresh) = answers
  wholes : events.countP (·.isWholeRefresh) = wholes
  superseded : events.countP (·.isSuperseded) = 0
  abandoned : events.filterMap (·.abandonedCount?) = []

theorem tally_complete {c : Coordinator} {id : String} {s : Session} (h : c.current? id = some s)
    (key : SourceKey) (success : Bool) (now : Number) :
    Tally (c.complete id key success now).events
      (if (s.inFlight.get? key.encode).isSome then 1 else 0)
      (if (c.complete id key success now).after.session.isNone then 1 else 0) := by
  obtain ⟨after, events, -⟩ := complete_of_current h now key success
  rw [after, events]
  generalize (if success = true then RefreshResult.success else RefreshResult.error) = result
  cases s.inFlight.get? key.encode <;> split <;> exact ⟨rfl, rfl, rfl, rfl⟩

theorem tally_timeout {c : Coordinator} {id : String} {s : Session} (h : c.current? id = some s)
    (now : Number) :
    Tally (c.timeout id now).events s.keys.length (if s.keys = [] then 0 else 1) := by
  rw [(timeout_of_current h now).2]
  by_cases empty : s.keys = []
  · rw [if_pos ((Session.keys_eq_nil s).mp empty), if_pos empty, empty]
    exact ⟨rfl, rfl, rfl, rfl⟩
  · rw [if_neg (fun e => empty ((Session.keys_eq_nil s).mpr e)), if_neg empty]
    constructor <;>
      simp [Session.answerEvent, Session.wholeEvent, Table.values, Table.size,
        TelemetryEvent.isSourceRefresh, TelemetryEvent.isWholeRefresh,
        TelemetryEvent.isSuperseded, TelemetryEvent.abandonedCount?, Function.comp_def]

namespace Moment

variable {m : Moment}

theorem told_of_closed (h : m.before.session = none) : m.told = [] := by
  obtain ⟨c, call⟩ := m
  change c.session = none at h
  change c.told call = []
  have stale := current?_of_closed h
  cases call with
  | start unique reason group now => rw [Coordinator.told, start_events, h]
  | mark id keys now => exact (mark_of_stale (stale id) now keys).2
  | complete id key success now => exact (complete_of_stale (stale id) now key success).2.1
  | timeout id now => exact (timeout_of_stale (stale id) now).2
  | clearForUser user => rfl
  | clear id => rfl

theorem length_entering (h : m.before.Sound) :
    m.before.inFlightKeys.length + m.entering.length =
      m.after.inFlightKeys.length + m.leaving.length :=
  length_add_filter_notMem (inFlightKeys_nodup h) (inFlightKeys_nodup (after_sound h m.call))

theorem leaving_of_subset (h : ∀ k ∈ m.before.inFlightKeys, k ∈ m.after.inFlightKeys) :
    m.leaving = [] := by
  rw [leaving, List.filter_eq_nil_iff]
  intro k hk
  simpa using h k hk

theorem leaving_of_none_left (h : m.after.inFlightKeys = []) :
    m.leaving = m.before.inFlightKeys := by
  rw [leaving, h, List.filter_eq_self]
  intro k _
  simp

theorem length_leaving_complete {c : Coordinator} (hc : c.Sound) {id : String} {s : Session}
    (h : c.current? id = some s) (key : SourceKey) (success : Bool) (now : Number) :
    (leaving ⟨c, .complete id key success now⟩).length =
      if (s.inFlight.get? key.encode).isSome then 1 else 0 := by
  have hs := (current?_eq_some.mp h).1
  have keyed := hc.keyed s hs
  rw [leaving, inFlightKeys_of_open hs]
  change (s.keys.filter (· ∉ (c.complete id key success now).after.inFlightKeys)).length = _
  rw [inFlightKeys_complete h, ← List.countP_eq_length_filter]
  have own : ∀ k ∈ s.keys,
      (decide (k ∉ (s.answered key (c.isTracked key.sourceId && !success)).keys) = true ↔
        (k == key) = true) := by
    intro k hk
    rw [decide_eq_true_iff, Session.mem_keys (Session.keyed_answered keyed key _),
      Session.get?_answered, beq_iff_eq]
    by_cases same : key = k
    · simp [same]
    · have : key.encode ≠ k.encode := fun e => same (SourceKey.encode_injective e)
      rw [if_neg this]
      simp [(Session.mem_keys keyed).mp hk, Ne.symm same]
  rw [List.countP_congr own]
  change s.keys.count key = _
  by_cases awaited : key ∈ s.keys
  · rw [List.count_eq_one_of_mem (Session.keys_nodup keyed) awaited,
      if_pos ((Session.mem_keys keyed).mp awaited)]
  · rw [List.count_eq_zero_of_not_mem awaited,
      if_neg (fun e => awaited ((Session.mem_keys keyed).mpr e))]

def Settled (m : Moment) : Prop :=
  ∃ abandoned : List Nat,
    m.told.filterMap (·.abandonedCount?) = abandoned.map Number.ofNat ∧
    m.leaving.length = m.told.countP (·.isSourceRefresh) + abandoned.sum + m.dropped.length

theorem settled_of_quiet (told : m.told = []) (leaving : m.leaving = []) : m.Settled := by
  refine ⟨[], ?_, ?_⟩
  · rw [told]
    rfl
  · rw [told, dropped, leaving]
    split <;> rfl

theorem leaving_of_unchanged (h : m.after = m.before) : m.leaving = [] := by
  apply leaving_of_subset
  intro k hk
  rw [h]
  exact hk

variable {c : Coordinator} {s : Session}

theorem settled_start (hs : c.session = some s) (unique : String) (reason : RefreshReason)
    (group : UserGroup) (now : Number) : Settled ⟨c, .start unique reason group now⟩ := by
  have told_one : told ⟨c, .start unique reason group now⟩ =
      [.refreshSuperseded s.reason.requestType (now - s.startedAt) (.ofNat s.inFlight.size)] := by
    rw [told, Coordinator.told, start_events, hs]
  have none_left : inFlightKeys (after ⟨c, .start unique reason group now⟩) = [] := by
    rw [after, Coordinator.after, start_after]
    rfl
  refine ⟨[s.inFlight.size], ?_, ?_⟩
  · rw [told_one]
    rfl
  · rw [told_one, leaving_of_none_left none_left, inFlightKeys_of_open hs, Session.length_keys]
    simp [dropped, TelemetryEvent.isSourceRefresh]

theorem settled_mark (hc : c.Sound) (id : String) (keys : List SourceKey) (now : Number) :
    Settled ⟨c, .mark id keys now⟩ := by
  cases current : c.current? id with
  | none =>
    obtain ⟨unchanged, quiet⟩ := mark_of_stale current now keys
    exact settled_of_quiet quiet (leaving_of_unchanged unchanged)
  | some s =>
    obtain ⟨marked, quiet⟩ := mark_of_current current now keys
    have hs := (current?_eq_some.mp current).1
    have keyed := hc.keyed s hs
    refine settled_of_quiet quiet (leaving_of_subset fun k hk => ?_)
    change k ∈ (c.mark id keys now).after.inFlightKeys
    rw [inFlightKeys_of_open hs, Session.mem_keys keyed] at hk
    rw [marked, inFlightKeys_of_open rfl, Session.mem_keys (Session.keyed_marked now keyed _),
      Session.foldl_markOne]
    exact Session.isSome_get?_marked now _ hk

theorem settled_complete (hc : c.Sound) (id : String) (key : SourceKey) (success : Bool)
    (now : Number) : Settled ⟨c, .complete id key success now⟩ := by
  cases current : c.current? id with
  | none =>
    obtain ⟨unchanged, quiet, -⟩ := complete_of_stale current now key success
    exact settled_of_quiet quiet (leaving_of_unchanged unchanged)
  | some s =>
    have tally := tally_complete current key success now
    refine ⟨[], tally.abandoned, ?_⟩
    rw [length_leaving_complete hc current key success now]
    exact tally.answers.symm

theorem settled_timeout (id : String) (now : Number) : Settled ⟨c, .timeout id now⟩ := by
  cases current : c.current? id with
  | none =>
    obtain ⟨unchanged, quiet⟩ := timeout_of_stale current now
    exact settled_of_quiet quiet (leaving_of_unchanged unchanged)
  | some s =>
    have tally := tally_timeout current now
    have none_left : inFlightKeys (after ⟨c, .timeout id now⟩) = [] :=
      inFlightKeys_of_closed (congrArg session (timeout_of_current current now).1)
    refine ⟨[], tally.abandoned, ?_⟩
    rw [leaving_of_none_left none_left, inFlightKeys_of_open (current?_eq_some.mp current).1]
    exact tally.answers.symm

theorem settled (h : m.before.Sound) : m.Settled := by
  obtain ⟨c, call⟩ := m
  cases hs : c.session with
  | none =>
    refine settled_of_quiet (told_of_closed hs) (leaving_of_subset fun k hk => ?_)
    rw [inFlightKeys_of_closed hs] at hk
    cases hk
  | some s =>
    cases call with
    | start unique reason group now => exact settled_start hs unique reason group now
    | mark id keys now => exact settled_mark h id keys now
    | complete id key success now => exact settled_complete h id key success now
    | timeout id now => exact settled_timeout id now
    | clearForUser user => exact ⟨[], rfl, (Nat.zero_add _).symm⟩
    | clear id => exact ⟨[], rfl, (Nat.zero_add _).symm⟩

def EndsOnce (m : Moment) : Prop := ∃ e, ∀ e', m.endings e' = if e' = e then 1 else 0

/-- The number of sessions started so far grows with each start. -/
theorem opened_after (m : Moment) :
    m.after.opened = m.before.opened + if m.call.isStart then 1 else 0 := by
  obtain ⟨c, call⟩ := m
  change (c.after call).opened = _
  cases call with
  | start unique reason group now =>
    rw [Coordinator.after, start_after]
    rfl
  | mark | complete | timeout | clearForUser | clear =>
    rw [after_session_only c (by intro _ _ _ _ start; cases start)]
    rfl

theorem isStart_of_opens (closed : m.before.session = none) (opens : m.after.session ≠ none) :
    m.call.isStart = true := by
  obtain ⟨s', open_⟩ := Option.ne_none_iff_exists'.mp opens
  rcases session_after open_ with ⟨unique, reason, group, now, start, -⟩ | ⟨s, hs, -⟩
  · rw [start]
    rfl
  · rw [closed] at hs
    cases hs

theorem openNumber?_after_start (h : m.call.isStart = true) :
    m.after.openNumber? = some m.before.opened := by
  obtain ⟨c, call⟩ := m
  cases call with
  | start unique reason group now =>
    rw [after, Coordinator.after, start_after]
    rfl
  | mark | complete | timeout | clearForUser | clear => cases h

theorem endings_of_closed (h : m.before.session = none) (e : Ending) : m.endings e = 0 := by
  have told_nil := told_of_closed h
  cases e with
  | whole => rw [endings, told_nil]; rfl
  | superseded => rw [endings, told_nil]; rfl
  | silent =>
    have : m.closesSilently = false := by
      rw [closesSilently, h]
      split <;> simp
    rw [endings, this]
    rfl

/-- A call that tells nothing is counted only as a silent end. -/
theorem endsOnce_of_silent (told : m.told = []) (silent : m.closesSilently = true) :
    m.EndsOnce := by
  refine ⟨.silent, fun e => ?_⟩
  cases e <;> simp [endings, told, silent]

theorem endings_of_quiet (told : m.told = []) (silent : m.closesSilently = false) (e : Ending) :
    m.endings e = 0 := by
  cases e <;> simp [endings, told, silent]

def StaysOrEnds (m : Moment) : Prop :=
  (m.call.isStart = false ∧ m.after.session.isSome = true ∧ ∀ e, m.endings e = 0) ∨
    ((m.call.isStart = true ∨ m.after.session = none) ∧ m.EndsOnce)

theorem staysOrEnds_start (hs : c.session = some s) (unique : String) (reason : RefreshReason)
    (group : UserGroup) (now : Number) : StaysOrEnds ⟨c, .start unique reason group now⟩ := by
  have told_one : told ⟨c, .start unique reason group now⟩ =
      [.refreshSuperseded s.reason.requestType (now - s.startedAt) (.ofNat s.inFlight.size)] := by
    rw [told, Coordinator.told, start_events, hs]
  refine Or.inr ⟨Or.inl rfl, .superseded, fun e => ?_⟩
  cases e with
  | whole => rw [endings, told_one]; rfl
  | superseded => rw [endings, told_one]; rfl
  | silent => rfl

theorem staysOrEnds_mark (hs : c.session = some s) (id : String) (keys : List SourceKey)
    (now : Number) : StaysOrEnds ⟨c, .mark id keys now⟩ := by
  cases current : c.current? id with
  | none =>
    obtain ⟨unchanged, quiet⟩ := mark_of_stale current now keys
    refine Or.inl ⟨rfl, ?_, endings_of_quiet quiet rfl⟩
    rw [after, Coordinator.after, unchanged, hs]
    rfl
  | some s =>
    obtain ⟨marked, quiet⟩ := mark_of_current current now keys
    refine Or.inl ⟨rfl, ?_, endings_of_quiet quiet rfl⟩
    rw [after, Coordinator.after, marked]
    rfl

theorem staysOrEnds_complete (hs : c.session = some s) (id : String) (key : SourceKey)
    (success : Bool) (now : Number) : StaysOrEnds ⟨c, .complete id key success now⟩ := by
  cases current : c.current? id with
  | none =>
    obtain ⟨unchanged, quiet, -⟩ := complete_of_stale current now key success
    refine Or.inl ⟨rfl, ?_, endings_of_quiet quiet rfl⟩
    rw [after, Coordinator.after, unchanged, hs]
    rfl
  | some s =>
    have tally := tally_complete current key success now
    cases ended : (c.complete id key success now).after.session with
    | none =>
      rw [ended] at tally
      refine Or.inr ⟨Or.inr ended, .whole, fun e => ?_⟩
      cases e with
      | whole => exact tally.wholes
      | superseded => exact tally.superseded
      | silent => rfl
    | some s' =>
      rw [ended] at tally
      refine Or.inl ⟨rfl, congrArg Option.isSome ended, fun e => ?_⟩
      cases e with
      | whole => exact tally.wholes
      | superseded => exact tally.superseded
      | silent => rfl

theorem staysOrEnds_timeout (hs : c.session = some s) (id : String) (now : Number) :
    StaysOrEnds ⟨c, .timeout id now⟩ := by
  cases current : c.current? id with
  | none =>
    obtain ⟨unchanged, quiet⟩ := timeout_of_stale current now
    have still : (after ⟨c, .timeout id now⟩).session = some s := by
      rw [after, Coordinator.after, unchanged, hs]
    have silent : closesSilently ⟨c, .timeout id now⟩ = false := by
      rw [closesSilently, still]
      exact Bool.and_false _
    exact Or.inl ⟨rfl, congrArg Option.isSome still, endings_of_quiet quiet silent⟩
  | some s' =>
    obtain rfl := Option.some.inj (hs.symm.trans (current?_eq_some.mp current).1)
    obtain ⟨closed, events⟩ := timeout_of_current current now
    have ended : (after ⟨c, .timeout id now⟩).session = none := congrArg session closed
    have tally := tally_timeout current now
    have silent : closesSilently ⟨c, .timeout id now⟩ = s.keys.isEmpty := by
      rw [closesSilently, ended, inFlightKeys_of_open hs, hs]
      simp
    refine Or.inr ⟨Or.inr ended, ?_⟩
    by_cases empty : s.keys = []
    · rw [if_pos ((Session.keys_eq_nil s).mp empty)] at events
      exact endsOnce_of_silent events (silent.trans (List.isEmpty_iff.mpr empty))
    · rw [if_neg empty] at tally
      rw [List.isEmpty_eq_false_iff.mpr empty] at silent
      refine ⟨.whole, fun e => ?_⟩
      cases e with
      | whole => exact tally.wholes
      | superseded => exact tally.superseded
      | silent => simp [endings, silent]

theorem staysOrEnds_of_clearing {call : Call} (hs : c.session = some s)
    (clears : (∃ user, call = .clearForUser user) ∨ ∃ id, call = .clear id) :
    StaysOrEnds ⟨c, call⟩ := by
  have told_nil : told ⟨c, call⟩ = [] := by
    rcases clears with ⟨user, rfl⟩ | ⟨id, rfl⟩ <;> rfl
  have not_start : call.isStart = false := by
    rcases clears with ⟨user, rfl⟩ | ⟨id, rfl⟩ <;> rfl
  have silent : closesSilently ⟨c, call⟩ = (after ⟨c, call⟩).session.isNone := by
    rcases clears with ⟨user, rfl⟩ | ⟨id, rfl⟩ <;> simp [closesSilently, hs]
  cases ended : (after ⟨c, call⟩).session with
  | none =>
    rw [ended] at silent
    exact Or.inr ⟨Or.inr ended, endsOnce_of_silent told_nil silent⟩
  | some s' =>
    rw [ended] at silent
    exact Or.inl ⟨not_start, congrArg Option.isSome ended, endings_of_quiet told_nil silent⟩

theorem staysOrEnds (hs : m.before.session = some s) : m.StaysOrEnds := by
  obtain ⟨c, call⟩ := m
  cases call with
  | start unique reason group now => exact staysOrEnds_start hs unique reason group now
  | mark id keys now => exact staysOrEnds_mark hs id keys now
  | complete id key success now => exact staysOrEnds_complete hs id key success now
  | timeout id now => exact staysOrEnds_timeout hs id now
  | clearForUser user => exact staysOrEnds_of_clearing hs (Or.inl ⟨user, rfl⟩)
  | clear id => exact staysOrEnds_of_clearing hs (Or.inr ⟨id, rfl⟩)

end Moment

theorem history_append (c : Coordinator) (calls : List Call) (call : Call) (log : EventLog) :
    c.history (calls ++ [call]) =
      c.history calls ++ [⟨(Monitored.run ⟨c, log⟩ calls).coordinator, call⟩] := by
  induction calls generalizing c log with
  | nil => rfl
  | cons first rest ih =>
    rw [List.cons_append, history, history, List.cons_append, ih _ _]
    rfl

theorem endings_append (moments : List Moment) (m : Moment) (n : Nat) (e : Ending) :
    endings (moments ++ [m]) n e =
      endings moments n e + if m.before.openNumber? = some n then m.endings e else 0 := by
  rw [endings, List.filter_append, List.map_append, List.sum_append, ← endings]
  by_cases h : m.before.openNumber? = some n <;> simp [h]

theorem openNumber?_eq_some {c : Coordinator} (hc : c.Sound) {n : Nat} :
    c.openNumber? = some n ↔ c.session.isSome = true ∧ n + 1 = c.opened := by
  rw [openNumber?, Option.map_eq_some_iff]
  constructor
  · rintro ⟨s, hs, rfl⟩
    have := hc.opened s hs
    exact ⟨hs ▸ rfl, by omega⟩
  · rintro ⟨open_, h⟩
    obtain ⟨s, hs⟩ := Option.isSome_iff_exists.mp open_
    exact ⟨s, hs, by omega⟩

theorem lt_opened_of_not_open {m : Moment} {n : Nat} (hn : n < m.after.opened)
    (not_open : m.after.openNumber? ≠ some n) : n < m.before.opened := by
  have opened := Moment.opened_after m
  by_contra late
  by_cases start : m.call.isStart = true
  · rw [if_pos start] at opened
    apply not_open
    rw [Moment.openNumber?_after_start start]
    exact congrArg some (by omega)
  · rw [if_neg start] at opened
    omega

theorem endedOnce_of_closed {moments : List Moment} {m : Moment} (h : EndedOnce moments m.before)
    (closed : m.before.session = none) : EndedOnce (moments ++ [m]) m.after := by
  have same : ∀ n e, endings (moments ++ [m]) n e = endings moments n e := by
    intro n e
    rw [endings_append, Moment.endings_of_closed closed e, ite_self, Nat.add_zero]
  have opened := Moment.opened_after m
  refine ⟨?_, ?_, ?_⟩
  · intro n hn e
    have opens : m.after.session ≠ none := by
      intro shut
      rw [openNumber?, shut] at hn
      cases hn
    rw [Moment.openNumber?_after_start (Moment.isStart_of_opens closed opens)] at hn
    rw [same]
    exact h.unstarted n (Nat.le_of_eq (Option.some.inj hn)) e
  · intro n hn not_open
    simp only [same]
    apply h.ended n (lt_opened_of_not_open hn not_open)
    rw [openNumber?, closed]
    nofun
  · intro n hn e
    rw [same]
    exact h.unstarted n (by omega) e

theorem endedOnce_of_stays {moments : List Moment} {m : Moment} (sound : m.before.Sound)
    (h : EndedOnce moments m.before) {k : Nat} (number : m.before.openNumber? = some k)
    (no_start : m.call.isStart = false) (stays : m.after.session.isSome = true)
    (quiet : ∀ e, m.endings e = 0) : EndedOnce (moments ++ [m]) m.after := by
  have same : ∀ n e, endings (moments ++ [m]) n e = endings moments n e := by
    intro n e
    rw [endings_append, quiet e, ite_self, Nat.add_zero]
  have opened : m.after.opened = m.before.opened := by
    rw [Moment.opened_after, no_start]
    rfl
  have still : m.after.openNumber? = m.before.openNumber? := by
    rw [number]
    refine (openNumber?_eq_some (after_sound sound m.call)).mpr ⟨stays, ?_⟩
    rw [← Moment.after, opened]
    exact ((openNumber?_eq_some sound).mp number).2
  refine ⟨?_, ?_, ?_⟩
  · intro n hn e
    rw [still] at hn
    rw [same]
    exact h.still_open n hn e
  · intro n hn not_open
    rw [still] at not_open
    simp only [same]
    exact h.ended n (opened ▸ hn) not_open
  · intro n hn e
    rw [same]
    exact h.unstarted n (opened ▸ hn) e

theorem endedOnce_of_ends {moments : List Moment} {m : Moment} (sound : m.before.Sound)
    (h : EndedOnce moments m.before) {k : Nat} (number : m.before.openNumber? = some k)
    (ended : m.call.isStart = true ∨ m.after.session = none) (once : m.EndsOnce) :
    EndedOnce (moments ++ [m]) m.after := by
  have last := ((openNumber?_eq_some sound).mp number).2
  have opened := Moment.opened_after m
  have other : ∀ n, n ≠ k → ∀ e, endings (moments ++ [m]) n e = endings moments n e := by
    intro n hn e
    rw [endings_append, number, if_neg (fun same => hn (Option.some.inj same).symm), Nat.add_zero]
  refine ⟨?_, ?_, ?_⟩
  · intro n hn e
    rcases ended with start | shut
    · have new : m.before.opened = n :=
        Option.some.inj ((Moment.openNumber?_after_start start).symm.trans hn)
      rw [other n (by omega)]
      exact h.unstarted n (by omega) e
    · rw [openNumber?, shut] at hn
      cases hn
  · intro n hn not_open
    by_cases own : n = k
    · obtain ⟨e, he⟩ := once
      refine ⟨e, fun e' => ?_⟩
      rw [endings_append, own, if_pos number, h.still_open k number, Nat.zero_add]
      exact he e'
    · have not_own : m.before.openNumber? ≠ some n := by
        rw [number]
        exact fun same => own (Option.some.inj same).symm
      obtain ⟨e, he⟩ := h.ended n (lt_opened_of_not_open hn not_open) not_own
      exact ⟨e, fun e' => (other n own e').trans (he e')⟩
  · intro n hn e
    rw [other n (by omega)]
    exact h.unstarted n (by omega) e

theorem endedOnce_step {moments : List Moment} {m : Moment} (sound : m.before.Sound)
    (h : EndedOnce moments m.before) : EndedOnce (moments ++ [m]) m.after := by
  cases hs : m.before.session with
  | none => exact endedOnce_of_closed h hs
  | some s =>
    have number : m.before.openNumber? = some (m.before.opened - 1) := by
      rw [openNumber?, hs]
      rfl
    rcases Moment.staysOrEnds hs with ⟨no_start, stays, quiet⟩ | ⟨ended, once⟩
    · exact endedOnce_of_stays sound h number no_start stays quiet
    · exact endedOnce_of_ends sound h number ended once

theorem accounts_fresh (untracked : List String) : Accounts [] [] (.fresh untracked) where
  told := rfl
  keys := ⟨[], rfl, rfl⟩
  started := rfl
  told_while_open := by
    intro m hm
    cases hm
  sessions := by
    refine ⟨?_, ?_, ?_⟩
    · intro n hn
      cases hn
    · intro n hn
      cases hn
    · intro n hn e
      rfl

theorem accounts_step {calls : List Call} {moments : List Moment} {m : Monitored}
    (sound : m.coordinator.Sound) (enabled : m.telemetry.enabled = true)
    (h : Accounts calls moments m) (call : Call) :
    Accounts (calls ++ [call]) (moments ++ [⟨m.coordinator, call⟩]) (m.step call) := by
  have log := Monitored.step_telemetry enabled call
  refine ⟨?_, ?_, ?_, ?_, endedOnce_step sound h.sessions⟩
  · rw [log, List.flatMap_append, h.told]
    simp [Moment.told]
  · obtain ⟨abandoned, told, balance⟩ := h.keys
    obtain ⟨more, more_told, leaving⟩ := Moment.settled (m := ⟨m.coordinator, call⟩) sound
    have exchange := Moment.length_entering (m := ⟨m.coordinator, call⟩) sound
    refine ⟨abandoned ++ more, ?_, ?_⟩
    · rw [log, List.filterMap_append, told, List.map_append, ← more_told]
      rfl
    · rw [log, List.map_append, List.map_append, List.sum_append, List.sum_append,
        List.sum_append, List.countP_append, balance]
      simp only [List.map_cons, List.map_nil, List.sum_singleton]
      simp only [Moment.told, Moment.after] at leaving exchange
      simp only [Monitored.step]
      omega
  · rw [List.countP_append, ← h.started]
    refine (Moment.opened_after ⟨m.coordinator, call⟩).trans ?_
    simp [List.countP_cons]
  · intro n hn closed
    rcases List.mem_append.mp hn with old | new
    · exact h.told_while_open n old closed
    · obtain rfl := List.mem_singleton.mp new
      exact Moment.told_of_closed closed

/-- The books of every run balance, from a fresh coordinator with telemetry on. -/
theorem run_accounts (untracked : List String) (calls : List Call) :
    Accounts calls ((fresh untracked).history calls) ((Monitored.fresh untracked).run calls) := by
  induction calls using List.reverseRecOn with
  | nil => exact accounts_fresh untracked
  | append_singleton calls call ih =>
    have sound := run_sound (m := .fresh untracked) (fresh_sound untracked) calls
    have enabled := Monitored.run_enabled (m := .fresh untracked) rfl calls
    rw [Monitored.run_append, history_append _ _ _ ⟨true, []⟩]
    exact accounts_step sound enabled ih call

end Coordinator

end SafetyBoard
