import Mathlib.Data.List.Dedup
import Mathlib.Data.List.Induction
import Mathlib.Data.List.Perm.Basic
import SafetyBoard.Proofs.Refresh.Run

/-!
# When a session ends

A session is opened, the tracked ones among its keys are awaited, and then responses come in: of
awaited keys and others, repeated, in any order. The session ends at the first response by which
every awaited key has answered. What it still awaits and whether it will end in an error are read
off from the responses seen so far.
-/

namespace SafetyBoard.Coordinator

/-- What a session is opened with, and the keys that are then marked. -/
structure Opening where
  unique : String
  reason : RefreshReason
  group : UserGroup
  startedAt : Number
  keys : List SourceKey
  markedAt : Number
  deriving DecidableEq, Repr

structure Response where
  key : SourceKey
  success : Bool
  now : Number
  deriving DecidableEq, Repr

namespace Response

def call (id : String) (r : Response) : Call := .complete id r.key r.success r.now

def isFailure (c : Coordinator) (r : Response) : Bool := c.isTracked r.key.sourceId && !r.success

def result (r : Response) : RefreshResult := if r.success then .success else .error

end Response

/-- The value that a call gives back; only a response can end its session. -/
def completes (c : Coordinator) : Call → Bool
  | .complete id key success now => (c.complete id key success now).result
  | _ => false

namespace Opening

variable (o : Opening) (c : Coordinator)

def id : String := sessionId o.unique c.opened

def calls : List Call :=
  [.start o.unique o.reason o.group o.startedAt, .mark (o.id c) o.keys o.markedAt]

def answered (m : Monitored) (seen : List Response) : Monitored :=
  m.run (o.calls m.coordinator ++ seen.map (Response.call (o.id m.coordinator)))

def awaited : List SourceKey := o.keys.filter fun k => c.isTracked k.sourceId

def Covered (seen : List Response) : Prop := ∀ k ∈ o.awaited c, k ∈ seen.map Response.key

instance (seen : List Response) : Decidable (o.Covered c seen) :=
  inferInstanceAs (Decidable (∀ k ∈ o.awaited c, k ∈ seen.map Response.key))

def Ends (seen : List Response) (r : Response) : Prop :=
  o.Covered c (seen ++ [r]) ∧ ¬o.Covered c seen

instance (seen : List Response) (r : Response) : Decidable (o.Ends c seen r) :=
  inferInstanceAs (Decidable (_ ∧ _))

def answerEvents (seen : List Response) (r : Response) : List TelemetryEvent :=
  if r.key ∈ o.awaited c ∧ r.key ∉ seen.map Response.key then
    [.sourceRefresh o.reason.requestType r.key (r.now - o.markedAt) r.result]
  else []

def endEvents (seen : List Response) (r : Response) : List TelemetryEvent :=
  if o.Ends c seen r then
    [.wholeRefresh o.reason.requestType (r.now - o.startedAt)
      (if (seen ++ [r]).any (·.isFailure c) then .error else .success)]
  else []

/-- The open session, as the responses seen so far determine it. -/
structure Progress (seen : List Response) (s : Session) : Prop where
  id : s.id = o.id c
  reason : s.reason = o.reason
  startedAt : s.startedAt = o.startedAt
  inFlight : ∀ text a, s.inFlight.get? text = some a ↔
    text = a.key.encode ∧ a.since = o.markedAt ∧ a.key ∈ o.awaited c ∧
      a.key ∉ seen.map Response.key
  failureSeen : s.failureSeen = seen.any (·.isFailure c)

structure Midway (seen : List Response) (d : Coordinator) : Prop where
  untracked : d.untracked = c.untracked
  finished : o.Covered c seen → d.session = none
  waiting : ¬o.Covered c seen → ∃ s, d.session = some s ∧ o.Progress c seen s

variable {o c} {seen : List Response} {s : Session} {d : Coordinator}

theorem covered_append (h : o.Covered c seen) (r : Response) : o.Covered c (seen ++ [r]) := by
  intro k hk
  rw [List.map_append]
  exact List.mem_append_left _ (h k hk)

theorem not_ends_of_covered (h : o.Covered c seen) (r : Response) : ¬o.Ends c seen r := by
  intro ends
  exact ends.2 h

theorem answerEvents_of_covered (h : o.Covered c seen) (r : Response) :
    o.answerEvents c seen r = [] := by
  apply if_neg
  rintro ⟨awaited, first⟩
  exact first (h r.key awaited)

theorem endEvents_of_covered (h : o.Covered c seen) (r : Response) :
    o.endEvents c seen r = [] :=
  if_neg (not_ends_of_covered h r)

namespace Progress

theorem isEmpty_iff (h : o.Progress c seen s) :
    s.inFlight.isEmpty = true ↔ o.Covered c seen := by
  rw [Table.isEmpty_iff]
  constructor
  · intro empty k hk
    by_contra unanswered
    have := (h.inFlight k.encode ⟨k, o.markedAt⟩).mpr ⟨rfl, rfl, hk, unanswered⟩
    rw [empty] at this
    cases this
  · intro covered text
    apply Option.eq_none_iff_forall_ne_some.mpr
    intro a ha
    obtain ⟨-, -, hk, unanswered⟩ := (h.inFlight text a).mp ha
    exact unanswered (covered a.key hk)

theorem get? (h : o.Progress c seen s) (key : SourceKey) :
    s.inFlight.get? key.encode =
      if key ∈ o.awaited c ∧ key ∉ seen.map Response.key then some ⟨key, o.markedAt⟩ else none := by
  split
  · next hk => exact (h.inFlight _ _).mpr ⟨rfl, rfl, hk⟩
  · next hk =>
    refine Option.eq_none_iff_forall_ne_some.mpr fun a ha => hk ?_
    obtain ⟨same, -, hk⟩ := (h.inFlight _ a).mp ha
    rw [SourceKey.encode_injective same]
    exact hk

theorem answered (h : o.Progress c seen s) (r : Response) :
    o.Progress c (seen ++ [r]) (s.answered r.key (r.isFailure c)) where
  id := h.id
  reason := h.reason
  startedAt := h.startedAt
  inFlight := by
    intro text a
    rw [Session.get?_answered, List.map_append, List.mem_append, not_or]
    by_cases same : r.key.encode = text
    · rw [if_pos same]
      constructor
      · intro ha
        cases ha
      · rintro ⟨ht, -, -, -, hr⟩
        have key : r.key = a.key := SourceKey.encode_injective (same.trans ht)
        exact absurd (List.mem_singleton.mpr key.symm) hr
    · rw [if_neg same, h.inFlight]
      refine and_congr_right fun ht => and_congr_right fun _ => and_congr_right fun _ => ?_
      refine (and_iff_left ?_).symm
      intro hr
      exact same (ht.trans (congrArg _ (List.mem_singleton.mp hr)) ▸ rfl)
  failureSeen := by
    change (s.failureSeen || r.isFailure c) = _
    rw [h.failureSeen, List.any_append]
    simp

end Progress

/-- What one response does: the session stays on course, ends when it should, and the right events
are told. -/
structure Advance (o : Opening) (c : Coordinator) (seen : List Response) (d : Coordinator)
    (r : Response) : Prop where
  midway : o.Midway c (seen ++ [r]) (d.after (r.call (o.id c)))
  completes : d.completes (r.call (o.id c)) = true ↔ o.Ends c seen r
  told : d.told (r.call (o.id c)) = o.answerEvents c seen r ++ o.endEvents c seen r

theorem advance_of_covered (h : o.Midway c seen d) (covered : o.Covered c seen) (r : Response) :
    o.Advance c seen d r := by
  have closed : d.current? (o.id c) = none := by
    rw [current?, h.finished covered]
    rfl
  obtain ⟨after, told, result⟩ := complete_of_stale closed r.now r.key r.success
  refine ⟨⟨?_, ?_, ?_⟩, ?_, ?_⟩
  · rw [Response.call, Coordinator.after, after]
    exact h.untracked
  · intro _
    rw [Response.call, Coordinator.after, after]
    exact h.finished covered
  · intro uncovered
    exact absurd (covered_append covered r) uncovered
  · rw [Response.call, Coordinator.completes, result]
    simp [not_ends_of_covered covered]
  · rw [Response.call, Coordinator.told, told, answerEvents_of_covered covered,
      endEvents_of_covered covered]
    rfl

theorem advance_of_uncovered (h : o.Midway c seen d) (uncovered : ¬o.Covered c seen)
    (r : Response) : o.Advance c seen d r := by
  obtain ⟨s, hs, progress⟩ := h.waiting uncovered
  have current : d.current? (o.id c) = some s := current?_eq_some.mpr ⟨hs, progress.id⟩
  have failure : (d.isTracked r.key.sourceId && !r.success) = r.isFailure c := by
    rw [Response.isFailure, isTracked, isTracked, h.untracked]
  obtain ⟨after, told, result⟩ := complete_of_current current r.now r.key r.success
  rw [failure] at after told result
  have next := progress.answered r
  have ends : o.Ends c seen r ↔ o.Covered c (seen ++ [r]) := and_iff_left uncovered
  refine ⟨⟨?_, ?_, ?_⟩, ?_, ?_⟩
  · rw [Response.call, Coordinator.after, after]
    exact h.untracked
  · intro done
    rw [Response.call, Coordinator.after, after]
    exact if_pos (next.isEmpty_iff.mpr done)
  · intro waiting
    rw [Response.call, Coordinator.after, after]
    exact ⟨_, if_neg (fun empty => waiting (next.isEmpty_iff.mp empty)), next⟩
  · rw [Response.call, Coordinator.completes, result, next.isEmpty_iff, ends]
  · rw [Response.call, Coordinator.told, told, progress.get?, answerEvents, endEvents]
    congr 1
    · by_cases first : r.key ∈ o.awaited c ∧ r.key ∉ seen.map Response.key
      · rw [if_pos first, if_pos first, Option.map_some, Option.toList_some, Session.answerEvent,
          progress.reason]
        rfl
      · rw [if_neg first, if_neg first]
        rfl
    · by_cases done : o.Covered c (seen ++ [r])
      · rw [if_pos (next.isEmpty_iff.mpr done), if_pos (ends.mpr done), Session.wholeEvent,
          next.reason, next.startedAt, next.failureSeen]
      · rw [if_neg (fun empty => done (next.isEmpty_iff.mp empty)),
          if_neg (fun e => done (ends.mp e))]

theorem advance (h : o.Midway c seen d) (r : Response) : o.Advance c seen d r := by
  by_cases covered : o.Covered c seen
  · exact advance_of_covered h covered r
  · exact advance_of_uncovered h covered r

theorem answered_nil_midway (m : Monitored) (h : o.awaited m.coordinator ≠ []) :
    o.Midway m.coordinator [] (o.answered m []).coordinator := by
  obtain ⟨c, log⟩ := m
  have current : (c.after (.start o.unique o.reason o.group o.startedAt)).current? (o.id c) =
      some ⟨o.id c, o.reason, o.group, o.startedAt, ∅, false⟩ := by
    rw [after, start_after]
    exact current?_eq_some.mpr ⟨rfl, rfl⟩
  have marked := (mark_of_current current o.markedAt o.keys).1
  rw [Session.foldl_markOne] at marked
  change o.Midway c [] ((c.after _).mark _ _ _).after
  rw [marked, after, start_after]
  refine ⟨rfl, ?_, ?_⟩
  · intro covered
    obtain ⟨k, hk⟩ := List.exists_mem_of_ne_nil _ h
    cases covered k hk
  · intro _
    refine ⟨_, rfl, rfl, rfl, rfl, ?_, rfl⟩
    intro text a
    rw [Session.get?_marked]
    simp [awaited, isTracked]

theorem answered_append (m : Monitored) (seen : List Response) (r : Response) :
    o.answered m (seen ++ [r]) =
      (o.answered m seen).step (r.call (o.id m.coordinator)) := by
  rw [answered, List.map_append, ← List.append_assoc, Monitored.run_append]
  rfl

theorem answered_midway (m : Monitored) (h : o.awaited m.coordinator ≠ [])
    (seen : List Response) :
    o.Midway m.coordinator seen (o.answered m seen).coordinator := by
  induction seen using List.reverseRecOn with
  | nil => exact answered_nil_midway m h
  | append_singleton seen r ih =>
    rw [answered_append]
    exact (advance ih r).midway

theorem ends_iff_last {responses : List Response}
    (h : (responses.map Response.key).Perm (o.awaited c).dedup) {n : Nat}
    (hn : n < responses.length) :
    o.Ends c (responses.take n) responses[n] ↔ n + 1 = responses.length := by
  have once : (responses.map Response.key).Nodup := h.nodup_iff.mpr (List.nodup_dedup _)
  have mem : ∀ k, k ∈ o.awaited c ↔ k ∈ responses.map Response.key := by
    intro k
    rw [h.mem_iff, List.mem_dedup]
  have split : ∀ i, responses.map Response.key =
      (responses.take i).map Response.key ++ (responses.drop i).map Response.key := by
    intro i
    rw [← List.map_append, List.take_append_drop]
  have apart : ∀ i k, k ∈ (responses.drop i).map Response.key →
      k ∉ (responses.take i).map Response.key := by
    intro i k hd ht
    rw [split i, List.nodup_append] at once
    exact once.2.2 k ht k hd rfl
  rw [Ends, List.take_append_getElem hn]
  constructor
  · rintro ⟨covered, -⟩
    by_contra short
    have later : n + 1 < responses.length := by omega
    have hk : responses[n + 1].key ∈ (responses.drop (n + 1)).map Response.key := by
      rw [List.drop_eq_getElem_cons later]
      exact List.mem_cons_self
    refine apart _ _ hk (covered _ ((mem _).mpr ?_))
    rw [split (n + 1)]
    exact List.mem_append_right _ hk
  · intro last
    constructor
    · intro k hk
      rw [last, List.take_length]
      exact (mem k).mp hk
    · intro covered
      have hk : responses[n].key ∈ (responses.drop n).map Response.key := by
        rw [List.drop_eq_getElem_cons hn]
        exact List.mem_cons_self
      refine apart _ _ hk (covered _ ((mem _).mpr ?_))
      rw [split n]
      exact List.mem_append_right _ hk

end Opening

end SafetyBoard.Coordinator
