import SafetyBoard.Severity

/-!
# The highest of some severities

Among severities that are compared two at a time, from the first one on, the one that is left is one
of them, and none of them is above it. Of what sources report that is the one of the highest rank;
the severities of entries stand in an order of their own, with `unknown` above ok and below
everything that asks for attention.
-/

namespace SafetyBoard

/-- If of any two one is left that neither of them is above, so it is of many. -/
theorem foldl_highest {α : Type} {rank : α → Nat} {merge : α → α → α}
    (either : ∀ a b, merge a b = a ∨ merge a b = b)
    (above : ∀ a b, rank a ≤ rank (merge a b) ∧ rank b ≤ rank (merge a b)) (first : α)
    (rest : List α) :
    rest.foldl merge first ∈ first :: rest ∧
      ∀ a ∈ first :: rest, rank a ≤ rank (rest.foldl merge first) := by
  induction rest generalizing first with
  | nil => simp
  | cons next rest ih =>
    obtain ⟨among, highest⟩ := ih (merge first next)
    have top := highest (merge first next) List.mem_cons_self
    rw [List.foldl_cons]
    constructor
    · rcases List.mem_cons.mp among with same | later
      · rw [same]
        rcases either first next with left | right
        · rw [left]
          exact List.mem_cons_self
        · rw [right]
          exact List.mem_cons_of_mem _ List.mem_cons_self
      · exact List.mem_cons_of_mem _ (List.mem_cons_of_mem _ later)
    · intro a member
      rcases List.mem_cons.mp member with rfl | member
      · exact Nat.le_trans (above a next).1 top
      · rcases List.mem_cons.mp member with rfl | later
        · exact Nat.le_trans (above first a).2 top
        · exact highest a (List.mem_cons_of_mem _ later)

namespace SourceSeverity

def IsHighest (highest : SourceSeverity) (among : List SourceSeverity) : Prop :=
  highest ∈ among ∧ ∀ severity ∈ among, severity.rank ≤ highest.rank

theorem max_eq_or (a b : SourceSeverity) : a.max b = a ∨ a.max b = b := by
  rw [max]
  split
  · exact Or.inl rfl
  · exact Or.inr rfl

theorem rank_le_max (a b : SourceSeverity) :
    a.rank ≤ (a.max b).rank ∧ b.rank ≤ (a.max b).rank := by
  rw [max]
  split
  · next above => exact ⟨Nat.le_refl _, above⟩
  · next below => exact ⟨Nat.le_of_not_le below, Nat.le_refl _⟩

theorem IsHighest.append {top highest : SourceSeverity} {front rest : List SourceSeverity}
    (h : top.IsHighest front) (h' : highest.IsHighest (top :: rest)) :
    highest.IsHighest (front ++ rest) := by
  constructor
  · rcases List.mem_cons.mp h'.1 with rfl | later
    · exact List.mem_append_left _ h.1
    · exact List.mem_append_right _ later
  · intro severity member
    rcases List.mem_append.mp member with early | later
    · exact Nat.le_trans (h.2 severity early) (h'.2 top List.mem_cons_self)
    · exact h'.2 severity (List.mem_cons_of_mem _ later)

def highest? : List SourceSeverity → Option SourceSeverity
  | [] => none
  | first :: rest => some (rest.foldl max first)

theorem highest?_eq_none {among : List SourceSeverity} : highest? among = none ↔ among = [] := by
  cases among <;> simp [highest?]

theorem isHighest_of_highest? {among : List SourceSeverity} {highest : SourceSeverity}
    (found : highest? among = some highest) : highest.IsHighest among := by
  cases among with
  | nil => cases found
  | cons first rest =>
    cases found
    exact foldl_highest max_eq_or rank_le_max first rest

end SourceSeverity

namespace EntrySeverity

def level : EntrySeverity → Nat
  | .unspecified => 0
  | .ok => 1
  | .unknown => 2
  | .recommendation => 3
  | .criticalWarning => 4

def IsHighest (highest : EntrySeverity) (among : List EntrySeverity) : Prop :=
  highest ∈ among ∧ ∀ severity ∈ among, severity.level ≤ highest.level

theorem level_injective {a b : EntrySeverity} (h : a.level = b.level) : a = b := by
  cases a <;> cases b <;> first | rfl | cases h

theorem merge_eq_or (a b : EntrySeverity) : a.merge b = a ∨ a.merge b = b := by
  cases a <;> cases b <;> decide

theorem level_merge (a b : EntrySeverity) : (a.merge b).level = max a.level b.level := by
  cases a <;> cases b <;> rfl

theorem level_le_merge (a b : EntrySeverity) :
    a.level ≤ (a.merge b).level ∧ b.level ≤ (a.merge b).level := by
  rw [level_merge]
  exact ⟨Nat.le_max_left _ _, Nat.le_max_right _ _⟩

theorem unspecified_merge (s : EntrySeverity) : merge .unspecified s = s := by
  cases s <;> rfl

theorem isHighest_foldl_merge {among : List EntrySeverity} (some : among ≠ []) :
    (among.foldl merge .unspecified).IsHighest among := by
  cases among with
  | nil => contradiction
  | cons first rest =>
    rw [List.foldl_cons, unspecified_merge]
    exact foldl_highest merge_eq_or level_le_merge first rest

/-- In whatever order, there is only one highest. -/
theorem IsHighest.unique {a b : EntrySeverity} {among among' : List EntrySeverity}
    (h : a.IsHighest among) (h' : b.IsHighest among') (same : ∀ s, s ∈ among ↔ s ∈ among') :
    a = b := by
  apply level_injective
  apply Nat.le_antisymm
  · exact h'.2 a ((same a).mp h.1)
  · exact h.2 b ((same b).mpr h'.1)

end EntrySeverity

end SafetyBoard
