import SafetyBoard.Proofs.Refresh.Accounting

/-!
# Answers may change places

An answer takes its source off the session and notes its failure, and the last one that is awaited
ends the session. Two answers leave the same coordinator whichever comes first. Each tells of its
own source alone, so answers of different sources tell the same in both orders; and if both are
awaited, only the second can end the session, with the failures of both.
-/

namespace SafetyBoard

theorem Table.erase_comm {κ α : Type} [DecidableEq κ] (t : Table κ α) (k k' : κ) :
    (t.erase k).erase k' = (t.erase k').erase k := by
  simp only [erase, filter, List.filter_comm]

theorem Session.answered_comm (s : Session) (key key' : SourceKey) (failed failed' : Bool) :
    (s.answered key failed).answered key' failed' =
      (s.answered key' failed').answered key failed := by
  simp only [answered, Table.erase_comm s.inFlight key.encode, Bool.or_right_comm]

namespace Coordinator

/-- The coordinator with the session, unless nothing is in flight in it: then it is over. -/
def settled (c : Coordinator) (s : Session) : Coordinator :=
  { c with session := if s.inFlight.isEmpty then none else some s }

def fails (c : Coordinator) (key : SourceKey) (success : Bool) : Bool :=
  c.isTracked key.sourceId && !success

/-- What an answer tells of its source: nothing unless it is awaited. -/
def told? (c : Coordinator) (id : String) (key : SourceKey) (success : Bool) (now : Number) :
    Option TelemetryEvent :=
  (c.current? id).bind fun s => (s.inFlight.get? key.encode).map fun a =>
    s.answerEvent key a.since now (if success then .success else .error)

section Complete

variable {c : Coordinator} {id : String} {s : Session} {key key' : SourceKey}
  {success success' : Bool} {now : Number}

theorem current?_settled (own : s.id = id) (c : Coordinator) :
    (c.settled s).current? id = if s.inFlight.isEmpty then none else some s := by
  rw [current?, settled]
  split
  · rfl
  · rw [Option.filter_some, if_pos (decide_eq_true own)]

theorem complete_after (current : c.current? id = some s) :
    (c.complete id key success now).after = c.settled (s.answered key (c.fails key success)) :=
  (complete_of_current current now key success).1

theorem isEmpty_answered (empty : s.inFlight.isEmpty = true) (key : SourceKey) (failed : Bool) :
    (s.answered key failed).inFlight.isEmpty = true := by
  rw [Table.isEmpty_iff] at empty ⊢
  intro text
  rw [Session.get?_answered, empty, ite_self]

theorem complete_twice (current : c.current? id = some s) :
    ((c.complete id key success now).after.complete id key' success' now).after =
      c.settled ((s.answered key (c.fails key success)).answered key' (c.fails key' success')) := by
  have own : (s.answered key (c.fails key success)).id = id := (current?_eq_some.mp current).2
  have next := current?_settled own c
  rw [complete_after current]
  split at next
  · next ended =>
    rw [(complete_of_stale next now key' success').1, settled, settled, if_pos ended,
      if_pos (isEmpty_answered ended _ _)]
  · rw [complete_after next]
    rfl

theorem complete_comm :
    ((c.complete id key success now).after.complete id key' success' now).after =
      ((c.complete id key' success' now).after.complete id key success now).after := by
  cases current : c.current? id with
  | none =>
    have stale := complete_of_stale current now
    rw [(stale key success).1, (stale key' success').1, (stale key success).1]
  | some s => rw [complete_twice current, complete_twice current, Session.answered_comm]

theorem complete_sources : (c.complete id key success now).events.filter (·.isSourceRefresh) =
    (c.told? id key success now).toList := by
  cases current : c.current? id with
  | none =>
    rw [(complete_of_stale current now key success).2.1, told?, current]
    rfl
  | some s =>
    rw [(complete_of_current current now key success).2.1, told?, current, Option.bind_some]
    generalize (if success = true then RefreshResult.success else RefreshResult.error) = result
    cases s.inFlight.get? key.encode <;> split <;> rfl

theorem told?_complete (other : key ≠ key') :
    (c.complete id key success now).after.told? id key' success' now =
      c.told? id key' success' now := by
  cases current : c.current? id with
  | none => rw [(complete_of_stale current now key success).1]
  | some s =>
    have own : (s.answered key (c.fails key success)).id = id := (current?_eq_some.mp current).2
    have kept : (s.answered key (c.fails key success)).inFlight.get? key'.encode =
        s.inFlight.get? key'.encode := by
      rw [Session.get?_answered, if_neg fun same => other (SourceKey.encode_injective same)]
    rw [complete_after current, told?, told?, current?_settled own, current]
    split
    · next ended =>
      rw [Table.isEmpty_iff] at ended
      rw [Option.bind_some, ← kept, ended]
      rfl
    · rw [Option.bind_some, Option.bind_some, kept]
      rfl

theorem complete_sources_perm (other : key ≠ key') :
    (((c.complete id key success now).events ++
      ((c.complete id key success now).after.complete id key' success' now).events).filter
        (·.isSourceRefresh)).Perm
    (((c.complete id key' success' now).events ++
      ((c.complete id key' success' now).after.complete id key success now).events).filter
        (·.isSourceRefresh)) := by
  rw [List.filter_append, List.filter_append, complete_sources, complete_sources,
    complete_sources, complete_sources, told?_complete other, told?_complete (Ne.symm other)]
  exact List.perm_append_comm

theorem complete_wholes (current : c.current? id = some s) :
    (c.complete id key success now).events.filter (·.isWholeRefresh) =
      let s' := s.answered key (c.fails key success)
      if s'.inFlight.isEmpty then
        [s'.wholeEvent now (if s'.failureSeen then .error else .success)] else [] := by
  rw [(complete_of_current current now key success).2.1]
  dsimp only [fails]
  generalize (if success = true then RefreshResult.success else RefreshResult.error) = result
  cases s.inFlight.get? key.encode <;> split <;> rfl

section Awaited

variable (sound : c.Sound)
include sound

theorem awaited_complete (other : key ≠ key') (awaited : key' ∈ c.inFlightKeys) :
    key' ∈ (c.complete id key success now).after.inFlightKeys := by
  cases current : c.current? id with
  | none =>
    rw [(complete_of_stale current now key success).1]
    exact awaited
  | some s =>
    obtain ⟨open_, -⟩ := current?_eq_some.mp current
    have keyed := sound.keyed s open_
    rw [inFlightKeys_of_open open_, Session.mem_keys keyed] at awaited
    rw [inFlightKeys_complete current, Session.mem_keys (Session.keyed_answered keyed key _),
      Session.get?_answered, if_neg fun same => other (SourceKey.encode_injective same)]
    exact awaited

/-- While another source is awaited, an answer does not end the session. -/
theorem goes_on (current : c.current? id = some s) (other : key ≠ key')
    (awaited : key' ∈ c.inFlightKeys) (failed : Bool) :
    (s.answered key failed).inFlight.isEmpty = false := by
  obtain ⟨open_, -⟩ := current?_eq_some.mp current
  rw [inFlightKeys_of_open open_, Session.mem_keys (sound.keyed s open_)] at awaited
  rw [Bool.eq_false_iff, ne_eq, Table.isEmpty_iff]
  intro nothing
  have gone := nothing key'.encode
  rw [Session.get?_answered, if_neg fun same => other (SourceKey.encode_injective same)] at gone
  rw [gone] at awaited
  cases awaited

theorem complete_twice_wholes (current : c.current? id = some s) (other : key ≠ key')
    (awaited : key' ∈ c.inFlightKeys) :
    ((c.complete id key success now).events ++
      ((c.complete id key success now).after.complete id key' success' now).events).filter
        (·.isWholeRefresh) =
      let s' := (s.answered key (c.fails key success)).answered key' (c.fails key' success')
      if s'.inFlight.isEmpty then
        [s'.wholeEvent now (if s'.failureSeen then .error else .success)] else [] := by
  have own : (s.answered key (c.fails key success)).id = id := (current?_eq_some.mp current).2
  have waits := Bool.eq_false_iff.mp (goes_on sound current other awaited (c.fails key success))
  have next := current?_settled own c
  rw [if_neg waits] at next
  rw [List.filter_append, complete_wholes current, if_neg waits, List.nil_append,
    complete_after current, complete_wholes next]
  rfl

theorem complete_wholes_comm (other : key ≠ key') (awaited : key ∈ c.inFlightKeys)
    (awaited' : key' ∈ c.inFlightKeys) :
    ((c.complete id key success now).events ++
      ((c.complete id key success now).after.complete id key' success' now).events).filter
        (·.isWholeRefresh) =
    ((c.complete id key' success' now).events ++
      ((c.complete id key' success' now).after.complete id key success now).events).filter
        (·.isWholeRefresh) := by
  cases current : c.current? id with
  | none =>
    have stale := complete_of_stale current now
    rw [(stale key success).1, (stale key' success').1, (stale key success).2.1,
      (stale key' success').2.1]
  | some s =>
    rw [complete_twice_wholes sound current other awaited',
      complete_twice_wholes sound current (Ne.symm other) awaited, Session.answered_comm]

end Awaited

end Complete

/-- What is made of an answer and told about it: it is heard if it names a session and is not
refused, as a success or a failure. -/
def answer (c : Coordinator) (session : Option String) (now : Number) (key : SourceKey)
    (heard : Option Bool) : Coordinator × List TelemetryEvent :=
  match session, heard with
  | some id, some success =>
    ((c.complete id key success now).after, (c.complete id key success now).events)
  | _, _ => (c, [])

section Answer

variable (c : Coordinator) (session : Option String) (now : Number) {key key' : SourceKey}
  (heard heard' : Option Bool)

def answers (key : SourceKey) (heard : Option Bool) (key' : SourceKey) (heard' : Option Bool) :
    Coordinator × List TelemetryEvent :=
  let first := c.answer session now key heard
  let second := first.1.answer session now key' heard'
  (second.1, first.2 ++ second.2)

theorem answers_unheard (key : SourceKey) :
    c.answers session now key none key' heard' = c.answer session now key' heard' := by
  cases session <;> rfl

theorem answers_unheard_last (key' : SourceKey) :
    c.answers session now key heard key' none = c.answer session now key heard := by
  cases session with
  | none => rfl
  | some id => cases heard <;> simp [answers, answer]

theorem answers_comm : (c.answers session now key heard key' heard').1 =
    (c.answers session now key' heard' key heard).1 := by
  cases session with
  | none => rfl
  | some id =>
    cases heard with
    | none => rw [answers_unheard, answers_unheard_last]
    | some success =>
      cases heard' with
      | none => rw [answers_unheard, answers_unheard_last]
      | some success' => exact complete_comm

theorem answers_sources (other : key ≠ key') :
    ((c.answers session now key heard key' heard').2.filter (·.isSourceRefresh)).Perm
      ((c.answers session now key' heard' key heard).2.filter (·.isSourceRefresh)) := by
  cases session with
  | none => exact .refl _
  | some id =>
    cases heard with
    | none => rw [answers_unheard, answers_unheard_last]
    | some success =>
      cases heard' with
      | none => rw [answers_unheard, answers_unheard_last]
      | some success' => exact complete_sources_perm other

variable {c} (sound : c.Sound)
include sound

theorem answers_wholes (other : key ≠ key') (awaited : key ∈ c.inFlightKeys)
    (awaited' : key' ∈ c.inFlightKeys) :
    (c.answers session now key heard key' heard').2.filter (·.isWholeRefresh) =
      (c.answers session now key' heard' key heard).2.filter (·.isWholeRefresh) := by
  cases session with
  | none => rfl
  | some id =>
    cases heard with
    | none => rw [answers_unheard, answers_unheard_last]
    | some success =>
      cases heard' with
      | none => rw [answers_unheard, answers_unheard_last]
      | some success' => exact complete_wholes_comm sound other awaited awaited'

theorem awaited_answer (other : key ≠ key') (awaited : key' ∈ c.inFlightKeys) :
    key' ∈ (c.answer session now key heard).1.inFlightKeys := by
  cases session with
  | none => exact awaited
  | some id =>
    cases heard with
    | none => exact awaited
    | some success => exact awaited_complete sound other awaited

end Answer

end Coordinator

end SafetyBoard
