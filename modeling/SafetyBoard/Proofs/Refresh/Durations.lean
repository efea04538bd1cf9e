import SafetyBoard.Proofs.Number.Order
import SafetyBoard.Proofs.Refresh.Accounting

/-!
# How long refreshes take

Every time that an open session keeps lies between its start and the present, whether a key was
marked once or again and again. So as long as the clock does not go back nothing takes less than no
time, and no answer takes longer than the session that it belongs to.
-/

namespace SafetyBoard

def TelemetryEvent.durationMs? : TelemetryEvent → Option Number
  | .sourceRefresh _ _ durationMs _ | .wholeRefresh _ durationMs _
  | .refreshSuperseded _ durationMs _ => some durationMs
  | .safetyState _ | .sourceStateCollected _ => none

/-- A session at a time: all that it awaits it has come to await since its start. -/
structure Session.Timed (s : Session) (t : Number) : Prop where
  whole : s.startedAt.isWhole = true
  started : s.startedAt ≤ t
  awaited : ∀ text a, s.inFlight.get? text = some a → s.startedAt ≤ a.since ∧ a.since ≤ t

theorem Session.Timed.later {s : Session} {t t' : Number} (h : s.Timed t) (goes : t ≤ t') :
    s.Timed t' where
  whole := h.whole
  started := Number.le_trans h.started goes
  awaited := by
    intro text a ha
    obtain ⟨since, before⟩ := h.awaited text a ha
    exact ⟨since, Number.le_trans before goes⟩

namespace Coordinator

def readings (calls : List Call) : List Number := calls.filterMap (·.now?)

def eventsOf (moments : List Moment) (number : Nat) : List TelemetryEvent :=
  (moments.filter (·.before.openNumber? = some number)).flatMap (·.told)

/-- The answer of a source took no longer than the session that a later event ends. -/
def Within (answer ending : TelemetryEvent) : Prop :=
  answer.isSourceRefresh = true → ending.isWholeRefresh = true ∨ ending.isSuperseded = true →
    ∀ d ∈ answer.durationMs?, ∀ d' ∈ ending.durationMs?, d ≤ d'

structure Consistent (moments : List Moment) : Prop where
  natural : ∀ m ∈ moments, ∀ e ∈ m.told, ∀ d ∈ e.durationMs?, 0 ≤ d
  within : ∀ n, (eventsOf moments n).Pairwise Within

theorem mem_eventsOf {moments : List Moment} {n : Nat} {e : TelemetryEvent} :
    e ∈ eventsOf moments n ↔ ∃ m ∈ moments, m.before.openNumber? = some n ∧ e ∈ m.told := by
  simp [eventsOf, and_assoc]

theorem eventsOf_append (moments : List Moment) (m : Moment) (n : Nat) :
    eventsOf (moments ++ [m]) n =
      eventsOf moments n ++ if m.before.openNumber? = some n then m.told else [] := by
  rw [eventsOf, List.filter_append, List.flatMap_append, ← eventsOf]
  by_cases h : m.before.openNumber? = some n <;> simp [h]

theorem consistent_nil : Consistent [] where
  natural := by
    intro m member
    cases member
  within := fun _ => .nil

/-- A call that looks at the clock does so at this time, and finds it whole. -/
def Call.At (call : Call) (t : Number) : Prop :=
  ∀ now, call.now? = some now → now = t ∧ now.isWhole = true

inductive Timing (s : Session) (t : Number) : TelemetryEvent → Prop where
  | answer (request : RequestType) (key : SourceKey) (since : Number) (result : RefreshResult)
      (begins : s.startedAt ≤ since) (ends : since ≤ t) :
      Timing s t (.sourceRefresh request key (t - since) result)
  | whole (request : RequestType) (result : RefreshResult) :
      Timing s t (.wholeRefresh request (t - s.startedAt) result)
  | superseded (request : RequestType) (abandoned : Number) :
      Timing s t (.refreshSuperseded request (t - s.startedAt) abandoned)

namespace Timing

variable {s : Session} {t : Number} {e : TelemetryEvent}

theorem span (h : Timing s t e) (timed : s.Timed t) (whole : t.isWhole = true) :
    ∀ d ∈ e.durationMs?, 0 ≤ d ∧ d ≤ t - s.startedAt := by
  have all : 0 ≤ t - s.startedAt :=
    Number.zero_le_sub timed.whole whole (Number.le_refl _) timed.started
  intro d hd
  cases h with
  | answer request key since result begins ends =>
    obtain rfl := Option.some.inj hd
    exact ⟨Number.zero_le_sub timed.whole whole begins ends,
      Number.sub_le_sub timed.whole whole begins ends (Number.le_refl t)⟩
  | whole request result =>
    obtain rfl := Option.some.inj hd
    exact ⟨all, Number.le_refl _⟩
  | superseded request abandoned =>
    obtain rfl := Option.some.inj hd
    exact ⟨all, Number.le_refl _⟩

theorem ending (h : Timing s t e) (ends : e.isWholeRefresh = true ∨ e.isSuperseded = true) :
    ∀ d ∈ e.durationMs?, d = t - s.startedAt := by
  intro d hd
  cases h with
  | answer request key since result begins ends' => rcases ends with h | h <;> cases h
  | whole request result => exact (Option.some.inj hd).symm
  | superseded request abandoned => exact (Option.some.inj hd).symm

end Timing

/-- What a call tells is timed from the start of the open session or from when an answer has been
awaited. -/
theorem timing_of_told {m : Moment} {t : Number} {s : Session} (hs : m.before.session = some s)
    (timed : s.Timed t) (clock : m.call.At t) {e : TelemetryEvent} (he : e ∈ m.told) :
    t.isWhole = true ∧ Timing s t e := by
  obtain ⟨c, call⟩ := m
  change c.session = some s at hs
  change e ∈ c.told call at he
  have own {id : String} {s' : Session} (current : c.current? id = some s') : s = s' :=
    Option.some.inj (hs.symm.trans (current?_eq_some.mp current).1)
  cases call with
  | start unique reason group now =>
    obtain ⟨rfl, whole⟩ := clock now rfl
    rw [Coordinator.told, start_events, hs] at he
    obtain rfl := List.mem_singleton.mp he
    exact ⟨whole, .superseded _ _⟩
  | mark id keys now =>
    rw [Coordinator.told, mark_events] at he
    cases he
  | complete id key success now =>
    obtain ⟨rfl, whole⟩ := clock now rfl
    rw [Coordinator.told] at he
    cases current : c.current? id with
    | none =>
      rw [(complete_of_stale current now key success).2.1] at he
      cases he
    | some s' =>
      obtain rfl := own current
      rw [(complete_of_current current now key success).2.1] at he
      refine ⟨whole, ?_⟩
      rcases List.mem_append.mp he with answer | ended
      · obtain ⟨a, ha, rfl⟩ := Option.map_eq_some_iff.mp (Option.mem_toList.mp answer)
        obtain ⟨since, before⟩ := timed.awaited _ a ha
        exact .answer _ _ _ _ since before
      · split at ended
        · obtain rfl := List.mem_singleton.mp ended
          exact .whole _ _
        · cases ended
  | timeout id now =>
    obtain ⟨rfl, whole⟩ := clock now rfl
    rw [Coordinator.told] at he
    cases current : c.current? id with
    | none =>
      rw [(timeout_of_stale current now).2] at he
      cases he
    | some s' =>
      obtain rfl := own current
      rw [(timeout_of_current current now).2] at he
      refine ⟨whole, ?_⟩
      split at he
      · cases he
      rcases List.mem_append.mp he with answer | ended
      · obtain ⟨a, ha, rfl⟩ := List.mem_map.mp answer
        obtain ⟨text, ha⟩ := Table.mem_values_iff.mp ha
        obtain ⟨since, before⟩ := timed.awaited text a ha
        exact .answer _ _ _ _ since before
      · obtain rfl := List.mem_singleton.mp ended
        exact .whole _ _
  | clearForUser user => cases he
  | clear id => cases he

/-- What is so between two calls, at some time: the open session is timed, no session is told of
before it starts, and no answer told in the open session took longer than it is open. -/
structure Paced (moments : List Moment) (c : Coordinator) (t : Number) : Prop where
  timed : ∀ s, c.session = some s → s.Timed t
  unstarted : ∀ n, c.opened ≤ n → eventsOf moments n = []
  pending : ∀ s, c.session = some s → ∀ e ∈ eventsOf moments (c.opened - 1),
    ∀ d ∈ e.durationMs?, d ≤ t - s.startedAt

namespace Paced

variable {moments : List Moment} {t : Number}

theorem later {c : Coordinator} (h : Paced moments c t) {t' : Number} (goes : t ≤ t')
    (whole : t'.isWhole = true) : Paced moments c t' where
  timed := fun s hs => (h.timed s hs).later goes
  unstarted := h.unstarted
  pending := by
    intro s hs e he d hd
    have timed := h.timed s hs
    exact Number.le_trans (h.pending s hs e he d hd)
      (Number.sub_le_sub timed.whole whole (Number.le_refl _) timed.started goes)

variable {m : Moment} (h : Paced moments m.before t) (clock : m.call.At t)
include h clock

theorem span {s : Session} (hs : m.before.session = some s) {e : TelemetryEvent}
    (he : e ∈ eventsOf moments (m.before.opened - 1) ++ m.told) :
    ∀ d ∈ e.durationMs?, d ≤ t - s.startedAt := by
  rcases List.mem_append.mp he with old | new
  · exact h.pending s hs e old
  · have timed := h.timed s hs
    obtain ⟨whole, timing⟩ := timing_of_told hs timed clock new
    exact fun d hd => (timing.span timed whole d hd).2

theorem within_told {n : Nat} (number : m.before.openNumber? = some n) {answer ending}
    (ha : answer ∈ eventsOf moments n ++ m.told) (he : ending ∈ m.told) :
    Within answer ending := by
  obtain ⟨s, hs, rfl⟩ := Option.map_eq_some_iff.mp number
  intro _ ends d hd d' hd'
  obtain ⟨-, timing⟩ := timing_of_told hs (h.timed s hs) clock he
  rw [timing.ending ends d' hd']
  exact h.span clock hs ha d hd

theorem consistent (books : Consistent moments) : Consistent (moments ++ [m]) where
  natural := by
    intro m' member e he d hd
    rcases List.mem_append.mp member with old | new
    · exact books.natural m' old e he d hd
    obtain rfl := List.mem_singleton.mp new
    cases hs : m'.before.session with
    | none =>
      rw [Moment.told_of_closed hs] at he
      cases he
    | some s =>
      have timed := h.timed s hs
      obtain ⟨whole, timing⟩ := timing_of_told hs timed clock he
      exact (timing.span timed whole d hd).1
  within := by
    intro n
    rw [eventsOf_append]
    split
    · next number =>
      refine List.pairwise_append.mpr ⟨books.within n, ?_, ?_⟩
      · apply List.pairwise_of_forall_mem_list
        intro answer ha ending he
        exact h.within_told clock number (List.mem_append_right _ ha) he
      · intro answer ha ending he
        exact h.within_told clock number (List.mem_append_left _ ha) he
    · rw [List.append_nil]
      exact books.within n

theorem step (sound : m.before.Sound) : Paced (moments ++ [m]) m.after t := by
  have unstarted (n : Nat) (hn : m.before.opened ≤ n) : eventsOf (moments ++ [m]) n = [] := by
    rw [eventsOf_append, h.unstarted n hn, List.nil_append, if_neg]
    intro number
    have := ((openNumber?_eq_some sound).mp number).2
    omega
  refine ⟨?_, ?_, ?_⟩
  · intro s' open_
    rcases session_after open_ with ⟨unique, reason, group, now, start, rfl⟩ | ⟨s, hs, -, goes_on⟩
    · obtain ⟨rfl, whole⟩ := clock now (by rw [start]; rfl)
      refine ⟨whole, Number.le_refl _, ?_⟩
      intro text a ha
      cases ha
    · have timed := h.timed s hs
      refine ⟨goes_on.startedAt ▸ timed.whole, goes_on.startedAt ▸ timed.started, ?_⟩
      intro text a ha
      rw [goes_on.startedAt]
      rcases goes_on.awaited text a ha with old | ⟨-, id, keys, mark⟩
      · exact timed.awaited text a old
      · obtain ⟨now, -⟩ := clock a.since (by rw [mark]; rfl)
        rw [now]
        exact ⟨timed.started, Number.le_refl t⟩
  · intro n hn
    rw [Moment.opened_after] at hn
    exact unstarted n (by omega)
  · intro s' open_ e he d hd
    rcases session_after open_ with
      ⟨unique, reason, group, now, start, rfl⟩ | ⟨s, hs, same, goes_on⟩
    · rw [Moment.opened_after, start] at he
      change e ∈ eventsOf (moments ++ [m]) (m.before.opened + 1 - 1) at he
      rw [Nat.add_sub_cancel, unstarted _ (Nat.le_refl _)] at he
      cases he
    · have number : m.before.openNumber? = some (m.before.opened - 1) := by
        rw [openNumber?, hs]
        rfl
      rw [Moment.after, same, eventsOf_append, if_pos number] at he
      rw [goes_on.startedAt]
      exact h.span clock hs he d hd

end Paced

theorem paced_fresh (untracked : List String) (t : Number) : Paced [] (fresh untracked) t where
  timed := by
    intro s h
    cases h
  unstarted := fun _ _ => rfl
  pending := by
    intro s h
    cases h

/-- The durations of a run fit together if the clock goes on from a time up to which they do. -/
theorem consistent_run {moments : List Moment} {c : Coordinator} {t : Number} (sound : c.Sound)
    (h : Paced moments c t) (books : Consistent moments) {calls : List Call}
    (whole : ∀ now ∈ readings calls, now.isWhole = true)
    (forward : (t :: readings calls).Pairwise (· ≤ ·)) :
    Consistent (moments ++ c.history calls) := by
  induction calls generalizing moments c t with
  | nil =>
    rw [history, List.append_nil]
    exact books
  | cons call rest ih =>
    rw [history, List.append_cons]
    obtain ⟨now, paced, clock, forward⟩ : ∃ now, Paced moments c now ∧ call.At now ∧
        (now :: readings rest).Pairwise (· ≤ ·) := by
      cases look : call.now? with
      | none =>
        rw [readings, List.filterMap_cons_none look] at forward
        refine ⟨t, h, fun now seen => ?_, forward⟩
        rw [look] at seen
        cases seen
      | some now =>
        rw [readings, List.filterMap_cons_some look] at forward whole
        obtain ⟨goes, forward⟩ := List.pairwise_cons.mp forward
        have now_whole := whole now List.mem_cons_self
        refine ⟨now, h.later (goes now List.mem_cons_self) now_whole, ?_, forward⟩
        intro seen same
        obtain rfl := Option.some.inj (look.symm.trans same)
        exact ⟨rfl, now_whole⟩
    refine ih (after_sound sound call) (paced.step (m := ⟨c, call⟩) clock sound)
      (paced.consistent (m := ⟨c, call⟩) clock books) ?_ forward
    intro now member
    obtain ⟨call', later, look⟩ := List.mem_filterMap.mp member
    exact whole now (List.mem_filterMap.mpr ⟨call', List.mem_cons_of_mem _ later, look⟩)

theorem run_told {m : Monitored} (h : m.telemetry.enabled = true) (calls : List Call) :
    (m.run calls).telemetry.events =
      m.telemetry.events ++ (m.coordinator.history calls).flatMap (·.told) := by
  induction calls generalizing m with
  | nil => exact (List.append_nil _).symm
  | cons call rest ih =>
    have stepped := Monitored.step_telemetry h call
    refine (ih (m := m.step call) (by rw [stepped])).trans ?_
    rw [stepped, history, List.flatMap_cons, List.append_assoc]
    rfl

/-- Whatever the calls are, also where they mark keys again: as long as the clock shows whole
numbers and does not go back, no duration is negative, and no answer takes longer than what ends its
session later. -/
theorem durations_consistent (untracked : List String) (calls : List Call)
    (whole : ∀ now ∈ readings calls, now.isWhole = true)
    (forward : (readings calls).Pairwise (· ≤ ·)) :
    let moments := (fresh untracked).history calls
    let log := ((Monitored.fresh untracked).run calls).telemetry.events
    log = moments.flatMap (·.told) ∧
      (∀ e ∈ log, (∃ n, e ∈ eventsOf moments n) ∧ ∀ d ∈ e.durationMs?, 0 ≤ d) ∧
      ∀ n, (eventsOf moments n).Pairwise Within := by
  intro moments log
  have told : log = moments.flatMap (·.told) := run_told (m := .fresh untracked) rfl calls
  have begins : (.infinite true :: readings calls).Pairwise (· ≤ ·) := by
    refine List.pairwise_cons.mpr ⟨fun now member => ?_, forward⟩
    obtain ⟨u, exact, rfl⟩ := Number.finite_of_isWhole (whole now member)
    exact .inl rfl
  have consistent : Consistent ([] ++ moments) :=
    consistent_run (fresh_sound untracked) (paced_fresh untracked _) consistent_nil whole begins
  rw [List.nil_append] at consistent
  refine ⟨told, fun e he => ?_, consistent.within⟩
  rw [told] at he
  obtain ⟨m, member, he⟩ := List.mem_flatMap.mp he
  refine ⟨?_, consistent.natural m member e he⟩
  cases hs : m.before.session with
  | none =>
    rw [Moment.told_of_closed hs] at he
    cases he
  | some s =>
    refine ⟨m.before.opened - 1, mem_eventsOf.mpr ⟨m, member, ?_, he⟩⟩
    rw [openNumber?, hs]
    rfl

/-- One of two keys is marked again before it answers; the other runs out of time, and the session
after it is superseded. -/
theorem durations_consistent_marked_again :
    let calls : List Call :=
      [.start "u" .pageOpen ⟨1, []⟩ 10, .mark "u_0" [⟨"a", 1⟩, ⟨"b", 1⟩] 12,
        .mark "u_0" [⟨"a", 1⟩] 15, .complete "u_0" ⟨"a", 1⟩ true 18, .timeout "u_0" 30,
        .start "v" .pageOpen ⟨1, []⟩ 31, .start "w" .pageOpen ⟨1, []⟩ 31]
    let log := ((Monitored.fresh []).run calls).telemetry.events
    log.map (·.durationMs?) = [some 3, some 18, some 20, some 0] ∧
      (∀ e ∈ log, ∀ d ∈ e.durationMs?, 0 ≤ d) ∧
      (eventsOf ((fresh []).history calls) 0).Pairwise Within := by
  intro calls log
  obtain ⟨-, natural, within⟩ :=
    durations_consistent [] calls (by decide +kernel) (by decide +kernel)
  exact ⟨by decide +kernel, fun e he => (natural e he).2, within 0⟩

end Coordinator

end SafetyBoard
