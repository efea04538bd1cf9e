import Mathlib.Data.List.Induction

/-!
# What lasts over a history

Something starts at a step, given the steps before it, and lasts as long as no step ends it.
-/

namespace SafetyBoard

variable {α : Type}

/-- The steps from one that starts it on; none behind that one ends it. -/
def Spans (starts : List α → α → Prop) (ends : α → Prop) (history span : List α) : Prop :=
  ∃ earlier step later, history = earlier ++ step :: later ∧ span = step :: later ∧
    starts earlier step ∧ ∀ next ∈ later, ¬ends next

def Lasts (starts : List α → α → Prop) (ends : α → Prop) (history : List α) : Prop :=
  ∃ earlier step later, history = earlier ++ step :: later ∧ starts earlier step ∧
    ∀ next ∈ later, ¬ends next

variable {starts : List α → α → Prop} {ends : α → Prop} {history : List α}

theorem lasts_iff : Lasts starts ends history ↔ ∃ span, Spans starts ends history span := by
  constructor
  · rintro ⟨earlier, step, later, split, since⟩
    exact ⟨step :: later, earlier, step, later, split, rfl, since⟩
  · rintro ⟨span, earlier, step, later, split, -, since⟩
    exact ⟨earlier, step, later, split, since⟩

/-- A history ends with the step at which it is split, or the step behind it is a later one. -/
theorem split_append {step first : α} {earlier later : List α}
    (split : history ++ [step] = earlier ++ first :: later) :
    (earlier = history ∧ first = step ∧ later = []) ∨
      ∃ between, later = between ++ [step] ∧ history = earlier ++ first :: between := by
  rcases List.eq_nil_or_concat later with rfl | ⟨between, last, rfl⟩
  · obtain ⟨same_history, same⟩ := List.append_inj' split rfl
    exact Or.inl ⟨same_history.symm, (List.singleton_inj.mp same).symm, rfl⟩
  · rw [List.concat_eq_append, ← List.cons_append, ← List.append_assoc] at split
    obtain ⟨same_history, same⟩ := List.append_inj' split rfl
    obtain rfl := List.singleton_inj.mp same
    exact Or.inr ⟨between, List.concat_eq_append, same_history⟩

theorem not_spans_nil {span : List α} : ¬Spans starts ends [] span := by
  rintro ⟨earlier, step, later, split, -⟩
  cases earlier <;> cases split

/-- One more step is the whole span, or it comes behind the span so far. -/
theorem spans_append {step : α} {span : List α} : Spans starts ends (history ++ [step]) span ↔
    starts history step ∧ span = [step] ∨
      ∃ before, Spans starts ends history before ∧ ¬ends step ∧ span = before ++ [step] := by
  constructor
  · rintro ⟨earlier, first, later, split, rfl, started, since⟩
    rcases split_append split with ⟨rfl, rfl, rfl⟩ | ⟨between, rfl, rfl⟩
    · exact Or.inl ⟨started, rfl⟩
    · refine Or.inr ⟨first :: between, ⟨earlier, first, between, rfl, rfl, started, ?_⟩,
        since step (by simp), rfl⟩
      intro next member
      exact since next (List.mem_append_left _ member)
  · rintro (⟨started, rfl⟩ | ⟨_, ⟨earlier, first, later, rfl, rfl, started, since⟩, goes_on, rfl⟩)
    · exact ⟨history, step, [], rfl, rfl, started, by simp⟩
    · refine ⟨earlier, first, later ++ [step], by simp, rfl, started, fun next member => ?_⟩
      rcases List.mem_append.mp member with before | last
      · exact since next before
      · obtain rfl := List.mem_singleton.mp last
        exact goes_on

theorem not_lasts_nil : ¬Lasts starts ends [] := by
  rw [lasts_iff]
  rintro ⟨span, spans⟩
  exact not_spans_nil spans

theorem lasts_append {step : α} : Lasts starts ends (history ++ [step]) ↔
    starts history step ∨ Lasts starts ends history ∧ ¬ends step := by
  rw [lasts_iff, lasts_iff]
  constructor
  · rintro ⟨span, spans⟩
    rcases spans_append.mp spans with ⟨started, -⟩ | ⟨before, lasted, goes_on, -⟩
    · exact Or.inl started
    · exact Or.inr ⟨⟨before, lasted⟩, goes_on⟩
  · rintro (started | ⟨⟨before, lasted⟩, goes_on⟩)
    · exact ⟨[step], spans_append.mpr (Or.inl ⟨started, rfl⟩)⟩
    · exact ⟨before ++ [step], spans_append.mpr (Or.inr ⟨before, lasted, goes_on, rfl⟩)⟩

end SafetyBoard
