import SafetyBoard.Telemetry

/-!
What a change of state tells its surroundings while it happens. A collaborator may fail when it is
told something, and then the state stays as it was at that moment; so each signal is kept together
with the state in which it is given.
-/

namespace SafetyBoard

inductive Signal where
  | log (line : LogLine)
  | event (event : TelemetryEvent)
  | cancel (task : Nat)
  deriving Repr

/-- A change of state with the moments on the way, the state in the end and a result. -/
structure Change (σ α : Type) where
  moments : List (σ × Signal)
  after : σ
  result : α

namespace Change

variable {σ τ α : Type}

def signals (c : Change σ α) : List Signal := c.moments.map Prod.snd

def events (c : Change σ α) : List TelemetryEvent :=
  c.signals.filterMap fun
    | .event e => some e
    | _ => none

def within (c : Change σ α) (embed : σ → τ) : Change τ α :=
  ⟨c.moments.map fun m => (embed m.1, m.2), embed c.after, c.result⟩

def thenSay (c : Change σ α) (s : Signal) : Change σ α :=
  { c with moments := c.moments ++ [(c.after, s)] }

def andThen {β : Type} (c : Change σ α) (next : σ → α → Change σ β) : Change σ β :=
  let d := next c.after c.result
  ⟨c.moments ++ d.moments, d.after, d.result⟩

@[simp]
theorem signals_within (c : Change σ α) (embed : σ → τ) :
    (c.within embed).signals = c.signals := by
  simp [signals, within, Function.comp_def]

@[simp]
theorem signals_thenSay (c : Change σ α) (s : Signal) :
    (c.thenSay s).signals = c.signals ++ [s] := by
  simp [signals, thenSay]

@[simp]
theorem signals_andThen {β : Type} (c : Change σ α) (next : σ → α → Change σ β) :
    (c.andThen next).signals = c.signals ++ (next c.after c.result).signals := by
  simp [signals, andThen]

end Change

end SafetyBoard
