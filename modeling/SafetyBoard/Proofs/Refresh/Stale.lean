import SafetyBoard.Proofs.Refresh.Accounting

/-!
# Ids of sessions that are over

A session is numbered when it opens, and its id ends in the number, so no id is given out twice,
however the unique parts were chosen. A call that bears the id of another session than the open one
is a call that never came. No session gets the id of one that is over, so such calls stay without
effect for the rest of the run.
-/

namespace SafetyBoard.Coordinator

theorem underscore_not_mem_toDigits (n : Nat) : '_' ∉ Nat.toDigits 10 n := by
  intro h
  have digit := Nat.isDigit_of_mem_toDigits (by decide) (by decide) h
  exact absurd digit (by decide)

theorem toList_sessionId (unique : String) (n : Nat) :
    (sessionId unique n).toList = unique.toList ++ '_' :: Nat.toDigits 10 n := by
  simp [sessionId]

theorem sessionId_number {u v : String} {m n : Nat} (h : sessionId u m = sessionId v n) :
    m = n := by
  have last := splitLast?_append (underscore_not_mem_toDigits m) u.toList
  rw [← toList_sessionId, h, toList_sessionId,
    splitLast?_append (underscore_not_mem_toDigits n)] at last
  have digits : Nat.toDigits 10 n = Nat.toDigits 10 m :=
    congrArg Prod.snd (Option.some.inj last)
  calc
    m = Nat.ofDigitChars 10 (Nat.toDigits 10 m) 0 := Nat.ofDigitChars_ten_toDigits.symm
    _ = Nat.ofDigitChars 10 (Nat.toDigits 10 n) 0 := by rw [digits]
    _ = n := Nat.ofDigitChars_ten_toDigits

theorem current?_eq_none {c : Coordinator} {id : String} :
    c.current? id = none ↔ c.currentId? ≠ some id := by
  cases h : c.session <;> simp [current?, currentId?, h, Option.filter]

/-- Whoever names a session by this id changes nothing, learns nothing and makes nothing known. -/
structure Ignores (c : Coordinator) (id : String) : Prop where
  mark : ∀ keys now, (c.mark id keys now).after = c ∧ (c.mark id keys now).events = []
  complete : ∀ key success now, (c.complete id key success now).after = c ∧
    (c.complete id key success now).events = [] ∧ (c.complete id key success now).result = false
  timeout : ∀ now, (c.timeout id now).after = c ∧ (c.timeout id now).events = [] ∧
    (c.timeout id now).result = []
  clear : c.clear (some id) = c

theorem ignores_of_stale {c : Coordinator} {id : String} (stale : c.currentId? ≠ some id) :
    c.Ignores id := by
  have h := current?_eq_none.mpr stale
  refine ⟨fun keys now => mark_of_stale h now keys, fun key success now => ?_, fun now => ?_, ?_⟩
  · exact complete_of_stale h now key success
  · obtain ⟨unchanged, quiet⟩ := timeout_of_stale h now
    refine ⟨unchanged, quiet, ?_⟩
    rw [Coordinator.timeout, h]
  · rw [Coordinator.clear, if_neg]
    simpa using stale

def Call.id? : Call → Option String
  | .mark id _ _ | .complete id _ _ _ | .timeout id _ => some id
  | .clear id => id
  | .start .. | .clearForUser _ => none

theorem Ignores.call {c : Coordinator} {id : String} (h : c.Ignores id) {call : Call}
    (bears : call.id? = some id) : c.after call = c ∧ c.told call = [] := by
  cases call with
  | start | clearForUser => cases bears
  | mark own keys now =>
    cases bears
    exact h.mark keys now
  | complete own key success now =>
    cases bears
    exact ⟨(h.complete key success now).1, (h.complete key success now).2.1⟩
  | timeout own now =>
    cases bears
    exact ⟨(h.timeout now).1, (h.timeout now).2.1⟩
  | clear own =>
    cases bears
    exact ⟨h.clear, rfl⟩

def Moment.issued? (m : Moment) : Option String :=
  match m.call with
  | .start unique reason group now => some (m.before.start unique reason group now).result
  | _ => none

theorem Moment.issued?_eq_some {m : Moment} {id : String} (h : m.issued? = some id) :
    m.call.isStart = true ∧ ∃ unique, id = sessionId unique m.before.opened := by
  obtain ⟨c, call⟩ := m
  cases call with
  | start unique reason group now =>
    refine ⟨rfl, unique, ?_⟩
    have result : (c.start unique reason group now).result = sessionId unique c.opened := by
      unfold start supersede
      cases c.session <;> rfl
    rw [← result]
    exact (Option.some.inj h).symm
  | mark | complete | timeout | clearForUser | clear => cases h

def Numbered (first next : Nat) (id : String) : Prop :=
  ∃ unique n, id = sessionId unique n ∧ first ≤ n ∧ n < next

theorem Moment.numbered {m : Moment} {id : String} (h : m.issued? = some id) :
    Numbered m.before.opened m.after.opened id := by
  obtain ⟨start, unique, rfl⟩ := issued?_eq_some h
  refine ⟨unique, m.before.opened, rfl, Nat.le_refl _, ?_⟩
  rw [opened_after, if_pos start]
  exact Nat.lt_succ_self _

theorem currentId?_after {c : Coordinator} {call : Call} {id : String}
    (h : (c.after call).currentId? = some id) :
    c.currentId? = some id ∨ Moment.issued? ⟨c, call⟩ = some id := by
  obtain ⟨s', open_, rfl⟩ := Option.map_eq_some_iff.mp h
  rcases session_after open_ with ⟨unique, reason, group, now, rfl, rfl⟩ | ⟨s, hs, -, goes_on⟩
  · right
    unfold Moment.issued? start supersede
    cases c.session <;> rfl
  · left
    rw [currentId?, hs, goes_on.id]
    rfl

/-- The coordinator as it may become: it has opened as many sessions or more, and a session that is
open then is the one that was open or got a number in between. -/
structure Onward (c d : Coordinator) : Prop where
  opened : c.opened ≤ d.opened
  current : ∀ id, d.currentId? = some id →
    c.currentId? = some id ∨ Numbered c.opened d.opened id

theorem Onward.refl (c : Coordinator) : c.Onward c := ⟨Nat.le_refl _, fun _ => Or.inl⟩

theorem Onward.trans {c d e : Coordinator} (h : c.Onward d) (k : d.Onward e) : c.Onward e where
  opened := h.opened.trans k.opened
  current := by
    intro id open_
    rcases k.current id open_ with before | ⟨unique, n, own, above, below⟩
    · rcases h.current id before with before | ⟨unique, n, own, above, below⟩
      · exact Or.inl before
      · exact Or.inr ⟨unique, n, own, above, below.trans_le k.opened⟩
    · exact Or.inr ⟨unique, n, own, h.opened.trans above, below⟩

theorem onward_after (c : Coordinator) (call : Call) : c.Onward (c.after call) where
  opened := (Nat.le_add_right _ _).trans_eq (Moment.opened_after ⟨c, call⟩).symm
  current := fun _ open_ => (currentId?_after open_).imp_right Moment.numbered

theorem onward_run (m : Monitored) (calls : List Call) :
    m.coordinator.Onward (m.run calls).coordinator := by
  induction calls generalizing m with
  | nil => exact .refl _
  | cons call rest ih => exact (onward_after m.coordinator call).trans (ih (m.step call))

def issued (c : Coordinator) (calls : List Call) : List String :=
  (c.history calls).filterMap (·.issued?)

theorem issued_cons (c : Coordinator) (call : Call) (rest : List Call) :
    c.issued (call :: rest) =
      (Moment.issued? ⟨c, call⟩).toList ++ (c.after call).issued rest := by
  rw [issued, history, List.filterMap_cons]
  cases Moment.issued? ⟨c, call⟩ <;> rfl

theorem issued_numbered (m : Monitored) (calls : List Call) :
    ∀ id ∈ m.coordinator.issued calls,
      Numbered m.coordinator.opened (m.run calls).coordinator.opened id := by
  induction calls generalizing m with
  | nil => nofun
  | cons call rest ih =>
    intro id h
    rw [issued_cons, List.mem_append, Option.mem_toList] at h
    rcases h with first | later
    · obtain ⟨unique, n, own, above, below⟩ := Moment.numbered first
      exact ⟨unique, n, own, above, below.trans_le (onward_run (m.step call) rest).opened⟩
    · obtain ⟨unique, n, own, above, below⟩ := ih (m.step call) id later
      exact ⟨unique, n, own, (onward_after m.coordinator call).opened.trans above, below⟩

theorem issued_nodup (m : Monitored) (calls : List Call) :
    (m.coordinator.issued calls).Nodup := by
  induction calls generalizing m with
  | nil => exact List.nodup_nil
  | cons call rest ih =>
    rw [issued_cons, List.nodup_append]
    refine ⟨by cases Moment.issued? _ <;> simp, ih (m.step call), ?_⟩
    intro id first id' later same
    obtain ⟨unique, n, rfl, -, below⟩ := Moment.numbered (Option.mem_toList.mp first)
    obtain ⟨unique', n', rfl, above, -⟩ := issued_numbered (m.step call) rest id' later
    exact absurd (sessionId_number same) (below.trans_le above).ne

def Retired (c : Coordinator) (id : String) : Prop :=
  Numbered 0 c.opened id ∧ c.currentId? ≠ some id

theorem Retired.onward {c d : Coordinator} {id : String} (h : c.Retired id) (k : c.Onward d) :
    d.Retired id := by
  obtain ⟨⟨unique, n, rfl, -, below⟩, stale⟩ := h
  refine ⟨⟨unique, n, rfl, n.zero_le, below.trans_le k.opened⟩, ?_⟩
  intro open_
  rcases k.current _ open_ with before | ⟨unique', n', same, above, -⟩
  · exact stale before
  · exact absurd (sessionId_number same) (below.trans_le above).ne

theorem run_of_retired {m : Monitored} {id : String} (h : m.coordinator.Retired id)
    (calls : List Call) :
    m.run calls = m.run (calls.filter fun call => call.id? ≠ some id) ∧
      (m.run calls).coordinator.Retired id := by
  refine ⟨?_, h.onward (onward_run m calls)⟩
  induction calls generalizing m with
  | nil => rfl
  | cons call rest ih =>
    have struck := ih (m := m.step call) (h.onward (onward_after m.coordinator call))
    by_cases bears : call.id? = some id
    · obtain ⟨unchanged, quiet⟩ := (ignores_of_stale h.2).call bears
      have still : m.step call = m := by
        rw [Monitored.step, unchanged, quiet]
        rfl
      rw [List.filter_cons_of_neg (by simpa using bears)]
      rw [still] at struck
      exact (congrArg (Monitored.run · rest) still).trans struck
    · rw [List.filter_cons_of_pos (by simpa using bears)]
      exact struck

/-- What a run of a coordinator makes of the ids that it gave out. -/
structure IdsRetire (m : Monitored) (calls : List Call) : Prop where
  distinct : (m.coordinator.issued calls).Nodup
  stale : ∀ id, (m.run calls).coordinator.currentId? ≠ some id →
    (m.run calls).coordinator.Ignores id
  retired : ∀ id ∈ m.coordinator.issued calls, (m.run calls).coordinator.currentId? ≠ some id →
    ∀ later, (m.run (calls ++ later)).coordinator.Ignores id ∧
      m.run (calls ++ later) =
        m.run (calls ++ later.filter fun call => call.id? ≠ some id)

theorem ids_retire (m : Monitored) (calls : List Call) : IdsRetire m calls where
  distinct := issued_nodup m calls
  stale _ := ignores_of_stale
  retired := by
    intro id given stale later
    obtain ⟨unique, n, own, -, below⟩ := issued_numbered m calls id given
    obtain ⟨struck, retired⟩ := run_of_retired ⟨⟨unique, n, own, n.zero_le, below⟩, stale⟩ later
    rw [Monitored.run_append, Monitored.run_append]
    exact ⟨ignores_of_stale retired.2, struck⟩

end SafetyBoard.Coordinator
