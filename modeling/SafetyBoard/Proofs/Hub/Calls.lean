import SafetyBoard.Proofs.Hub.Timeout
import SafetyBoard.Proofs.Hub.Writes

/-!
# What a hub does with its coordinator

A hub acts on its coordinator by the coordinator's calls only. So what every call keeps, every step
of a hub keeps, and at every moment of it, if it is also kept while an answer is being taken. Only a
refresh makes the calls that open a session and await sources, so what all the others keep is kept by
everything else that a hub does.
-/

namespace SafetyBoard

variable {α : Type}

namespace Coordinator

/-- A property that holds on after every call and while an answer is being taken. -/
structure Kept (P : Coordinator → Prop) : Prop where
  after : ∀ {c}, P c → ∀ call, P (c.after call)
  answered : ∀ {c : Coordinator} {s}, P c → c.session = some s → ∀ key failed,
    P { c with session := some (s.answered key failed) }

def Call.awaits : Call → Bool
  | .start .. | .mark .. => true
  | .complete .. | .timeout .. | .clearForUser _ | .clear _ => false

/-- A property that holds on after every call that awaits nothing more, and while an answer is being
taken. -/
structure Eased (P : Coordinator → Prop) : Prop where
  after : ∀ {c}, P c → ∀ call : Call, call.awaits = false → P (c.after call)
  answered : ∀ {c : Coordinator} {s}, P c → c.session = some s → ∀ key failed,
    P { c with session := some (s.answered key failed) }

theorem Kept.eased {P : Coordinator → Prop} (kept : Kept P) : Eased P where
  after h call _ := kept.after h call
  answered := kept.answered

variable {c : Coordinator}

/-- While an answer is taken, the session stands without it. -/
theorem complete_moments {id : String} {s : Session} (current : c.current? id = some s)
    {key : SourceKey} {success : Bool} {now : Number} {m : Coordinator × Signal}
    (hm : m ∈ (c.complete id key success now).moments) :
    ∃ failed, m.1 = { c with session := some (s.answered key failed) } := by
  have ending {failed : Bool} (h : m ∈ (c.finish (s.answered key failed) now).moments) :
      ∃ failed, m.1 = { c with session := some (s.answered key failed) } := by
    refine ⟨failed, ?_⟩
    simp only [finish, List.mem_cons, List.not_mem_nil, or_false] at h
    rcases h with rfl | rfl <;> rfl
  rw [complete, current] at hm
  cases awaited : s.inFlight.get? key.encode with
  | none =>
    simp only [awaited, List.nil_append] at hm
    split at hm
    · exact ending hm
    · cases hm
  | some a =>
    simp only [awaited, List.singleton_append] at hm
    split at hm
    · rcases List.mem_cons.mp hm with rfl | last
      · exact ⟨false, rfl⟩
      · exact ending last
    · obtain rfl := List.mem_singleton.mp hm
      exact ⟨false, rfl⟩

theorem timeout_moments {id : String} {s : Session} (current : c.current? id = some s)
    {now : Number} {m : Coordinator × Signal} (hm : m ∈ (c.timeout id now).moments) :
    m.1 = { c with session := none } := by
  rw [timeout, current] at hm
  dsimp only at hm
  split at hm
  · cases hm
  · rcases List.mem_append.mp hm with event | line
    · obtain ⟨e, -, rfl⟩ := List.mem_map.mp event
      rfl
    · obtain rfl := List.mem_singleton.mp line
      rfl

section Kept

variable {P : Coordinator → Prop} (h : P c)
include h

theorem throughout_supersede (now : Number) : (c.supersede now).Throughout P := by
  have same : ∀ m ∈ (c.supersede now).moments, m.1 = c := by
    rw [supersede]
    cases c.session <;> simp
  refine ⟨fun m hm => ?_, ?_⟩
  · rw [same m hm]
    exact h
  · rw [supersede_after]
    exact h

theorem Kept.openSession (kept : Kept P) (unique : String) (reason : RefreshReason) (group : UserGroup)
    (now : Number) : P (c.openSession unique reason group now).after := by
  have started := kept.after h (.start unique reason group now)
  rw [Coordinator.after, start_after] at started
  exact started

variable (eased : Eased P)
include eased

theorem Eased.complete (id : String) (key : SourceKey) (success : Bool) (now : Number) :
    (c.complete id key success now).Throughout P := by
  refine ⟨fun m hm => ?_, eased.after h (.complete id key success now) rfl⟩
  cases current : c.current? id with
  | none =>
    rw [Coordinator.complete, current] at hm
    obtain rfl := List.mem_singleton.mp hm
    exact h
  | some s =>
    obtain ⟨failed, stands⟩ := complete_moments current hm
    rw [stands]
    exact eased.answered h (current?_eq_some.mp current).1 key failed

theorem Eased.timeout (id : String) (now : Number) : (c.timeout id now).Throughout P := by
  refine ⟨fun m hm => ?_, eased.after h (.timeout id now) rfl⟩
  cases current : c.current? id with
  | none =>
    rw [Coordinator.timeout, current] at hm
    obtain rfl := List.mem_singleton.mp hm
    exact h
  | some s =>
    have closed : c.clear none = { c with session := none } := if_pos (Or.inl rfl)
    rw [timeout_moments current hm, ← closed]
    exact eased.after h (.clear none) rfl

end Kept

end Coordinator

namespace HubState

def Has (P : Coordinator → Prop) (s : HubState) : Prop := P s.coordinator

variable {P : Coordinator → Prop} {s : HubState}

theorem has_within {c : Change Coordinator α} (h : c.Throughout P) :
    (c.within s.withCoordinator).Throughout (Has P) :=
  h.within fun _ later => later

section Changes

variable (h : s.Has P)
include h

theorem has_cancelPending : s.cancelPending.Throughout (Has P) := by
  rw [cancelPending]
  split
  · exact Change.throughout_done h ()
  · exact Change.throughout_once h h _ ()

theorem has_beginRefresh (group : UserGroup) (now : Number) :
    (s.beginRefresh group now).Throughout (Has P) := by
  apply (has_cancelPending (s := s.rememberGroup group) h).andThen
  intro t _ later
  exact has_within (Coordinator.throughout_supersede later now)

section Eased

variable (eased : Coordinator.Eased P)
include eased

theorem has_completeSource (key : SourceKey) (success : Bool) (session : Option String)
    (now : Number) : (s.completeSource key success session now).Throughout (Has P) := by
  cases session with
  | none => exact Change.throughout_done h false
  | some id =>
    apply (has_within (s := s) (eased.complete h id key success now)).andThen
    intro t completed later
    split
    · exact has_cancelPending later
    · exact Change.throughout_done later completed

theorem has_applyTimeout (id : String) (now : Number) :
    (s.applyTimeout id now).Throughout (Has P) := by
  have still : Has P
      (if s.pending.any (·.sessionId = id) then { s with pending := none } else s) := by
    split <;> exact h
  apply (has_within (eased.timeout still id now)).andThen
  intro t unanswered later
  refine Change.throughout_done ?_ _
  exact later

theorem has_clearForUser (user : UserId) : (s.clearForUser user).Throughout (Has P) := by
  let t : HubState := { s with
    store := s.store.clearForUser user
    ledger := s.ledger.clearForUser user
    coordinator := (s.coordinator.clearForUser user).2 }
  have cleared : t.Has P := eased.after h (.clearForUser user) rfl
  dsimp only [clearForUser]
  refine Change.Throughout.andThen ?_ fun u _ later => ?_
  · split
    · exact has_cancelPending cleared
    · exact Change.throughout_done cleared ()
  · refine Change.throughout_once ?_ ?_ _ true
    · exact later
    · exact later

theorem has_clearAll : s.clearAll.Throughout (Has P) := by
  have cleared : Has P { s with
      store := ∅
      ledger := s.ledger.clear
      coordinator := s.coordinator.clear none } := eased.after h (.clear none) rfl
  exact has_cancelPending cleared

variable {setup : Setup} {now : Number}

theorem has_accepts {message : Message} {c : Change HubState Bool}
    (accepts : Accepts setup s now message c) : c.Throughout (Has P) := by
  cases accepts with
  | @sourceData key _ session report _ _ =>
    have stored : (s.withReport key report now).Has P := h
    exact s.throughout_takeReport stored (has_completeSource stored eased key true session now)
  | @sourceError key session _ _ =>
    have marked : (s.withError key).Has P := h
    exact (has_completeSource marked eased key false session now).thenSay _
  | refreshTimeout id => exact has_applyTimeout h eased id now
  | userRemoved user => exact has_clearForUser h eased user

theorem has_change {operation : Operation} {c : Change HubState Unit}
    (makes : Makes setup s now operation c) : c.Throughout (Has P) := by
  cases makes with
  | message _ accepts => exact has_accepts h eased accepts
  | @dismissal _ _ after _ _ written =>
    have still : after.Has P := by
      rw [written]
      exact h
    exact Change.throughout_once still still _ ()
  | launch | saving | loading => exact Change.throughout_done h ()
  | relaunch => exact Change.throughout_once h h _ ()
  | clearing => exact has_clearAll h eased

end Eased

variable (kept : Coordinator.Kept P)
include kept

theorem has_openRefresh (registry : Registry) (reason : RefreshReason) (group : UserGroup)
    (unique : String) (startedAt markedAt : Number) :
    Has P (s.openRefresh registry reason group unique startedAt markedAt).after := by
  let opened := s.coordinator.openSession unique reason group startedAt
  let keys := ((s.withCoordinator opened.after).requests registry reason group opened.result).map
    (·.key)
  have begun : P (opened.after.mark opened.result keys markedAt).after :=
    kept.after (kept.openSession h unique reason group startedAt)
      (.mark opened.result keys markedAt)
  dsimp only [openRefresh, Change.andThen]
  split
  · exact begun
  · exact kept.after begun (.clear (some opened.result))

theorem has_refreshed (setup : Setup) (reason : RefreshReason) (group : UserGroup)
    (unique : String) (startedAt markedAt : Number) (task : Nat) :
    Has P (s.refreshed setup reason group unique startedAt markedAt task) := by
  have opened := has_openRefresh (has_beginRefresh h group startedAt).2 kept setup.registry reason
    group unique startedAt markedAt
  rw [refreshed]
  dsimp only
  split
  · exact opened
  · exact opened

variable {setup : Setup} {faultless : Prop} {t : HubState}

theorem has_step {operation : Operation} (step : Step setup faultless s operation t) :
    t.Has P := by
  cases step with
  | change now changes stops =>
    exact (has_change h kept.eased (makes_of_change? changes)).stops stops
  | idle now _ _ => exact h
  | interrupted _ stops _ => exact (has_beginRefresh h _ _).stops stops
  | refreshed reason group unique startedAt markedAt task _ =>
    exact has_refreshed h kept setup reason group unique startedAt markedAt task

theorem has_execution {history : List Entered} (ran : Execution setup faultless s history t) :
    t.Has P := by
  induction ran with
  | refl => exact h
  | enter _ step ih => exact has_step ih kept step
  | subscribe group _ ih => exact ih

end Changes

end HubState

end SafetyBoard
