import SafetyBoard.Proofs.Hub.Calls
import SafetyBoard.Proofs.Refresh.Stale

/-!
# The sessions of a hub

Whatever is done to a hub, its coordinator only goes on: it opens new sessions under new numbers,
and one that is over does not come back. This holds at every moment of a change, so that it does not
matter whether a sink fails in between.
-/

namespace SafetyBoard

namespace Coordinator

variable (c : Coordinator)

theorem onward_same {s t : Session} (open_ : c.session = some s) (same : t.id = s.id) :
    c.Onward { c with session := some t } := by
  refine ⟨Nat.le_refl _, fun id current => Or.inl ?_⟩
  rw [← current, currentId?, open_]
  exact congrArg some same.symm

theorem onward_kept : Kept c.Onward where
  after later call := later.trans (onward_after _ call)
  answered later open_ _ _ := later.trans (onward_same _ open_ rfl)

end Coordinator

namespace HubState

variable {setup : Setup} {faultless : Prop} {s t : HubState}

/-- Whatever is done to a hub, even where a sink fails, its coordinator only goes on. -/
theorem onward_execution {history : List Entered} (h : Execution setup faultless s history t) :
    s.coordinator.Onward t.coordinator :=
  has_execution (.refl s.coordinator) s.coordinator.onward_kept h

/-- The id of a session that was open and is so no more is ignored for ever. -/
theorem ignores_of_ended {u : HubState} {before between later : List Entered} {id : String}
    (started : Execution setup faultless (.initial setup.settings) before s)
    (opened : s.coordinator.currentId? = some id)
    (ended : Execution setup faultless s between t) (stale : t.coordinator.currentId? ≠ some id)
    (h : Execution setup faultless t later u) : u.coordinator.Ignores id := by
  have given : Coordinator.Numbered 0 s.coordinator.opened id :=
    ((onward_execution started).current id opened).resolve_left nofun
  obtain ⟨unique, n, own, above, below⟩ := given
  have retired : t.coordinator.Retired id :=
    ⟨⟨unique, n, own, above, below.trans_le (onward_execution ended).opened⟩, stale⟩
  exact Coordinator.ignores_of_stale (retired.onward (onward_execution h)).2

end HubState

end SafetyBoard
