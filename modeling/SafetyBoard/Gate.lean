import SafetyBoard.Error

/-!
The gate of the hub. Bodies run behind it one at a time; entering it again from behind it fails at
that point, and whichever way the outermost body ends, the gate is free again.
-/

namespace SafetyBoard

/-- A computation on a state that may fail; what it did before it failed stays done. -/
abbrev Act (σ α : Type) := ExceptT Fault (StateM σ) α

structure Gate (σ : Type) where
  isHeld : σ → Bool
  setHeld : Bool → σ → σ

def Gate.run {σ α : Type} (g : Gate σ) (body : Act σ α) : Act σ α := ExceptT.mk fun s =>
  if g.isHeld s then (.error (.hub .reentrant), s)
  else
    let (result, s) := body.run (g.setHeld true s)
    (result, g.setHeld false s)

namespace Gate

variable {σ α : Type} (g : Gate σ) (body : Act σ α) {s : σ}

theorem run_of_held (h : g.isHeld s = true) :
    (g.run body).run s = (.error (.hub .reentrant), s) := by
  unfold run
  exact if_pos h

theorem run_of_free (h : g.isHeld s = false) :
    (g.run body).run s =
      let (result, after) := body.run (g.setHeld true s)
      (result, g.setHeld false after) := by
  unfold run
  exact if_neg (by simp [h])

theorem run_of_ran (h : g.isHeld s = false) {result : Except Fault α} {after : σ}
    (ran : body.run (g.setHeld true s) = (result, after)) :
    (g.run body).run s = (result, g.setHeld false after) := by
  rw [run_of_free g body h, ran]

end Gate

end SafetyBoard
