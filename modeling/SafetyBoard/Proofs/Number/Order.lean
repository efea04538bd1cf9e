import SafetyBoard.Proofs.Number.Counting

/-!
# The order of numbers

Rounding keeps the order: of two counts of units the larger one is not rounded to the smaller
number, also where one of them, or both, become infinite. So a time span is never longer than one
that begins no later and ends no earlier, however many units it is rounded by.
-/

namespace SafetyBoard

namespace Number

instance : LE Number := ⟨fun m n => m.less n = true ∨ m = n⟩

instance (m n : Number) : Decidable (m ≤ n) :=
  inferInstanceAs (Decidable (m.less n = true ∨ m = n))

theorem le_def {m n : Number} : m ≤ n ↔ m.less n = true ∨ m = n := Iff.rfl

theorem le_refl (n : Number) : n ≤ n := .inr rfl

theorem finite_le_finite {u v : Int} {hu : Exact u} {hv : Exact v} :
    finite u hu ≤ finite v hv ↔ u ≤ v := by
  rw [le_def, less, decide_eq_true_iff, finite.injEq, Int.le_iff_lt_or_eq]

theorem less_trans {a b c : Number} (h : a.less b = true) (h' : b.less c = true) :
    a.less c = true := by
  cases a <;> cases b <;> cases c <;> simp_all [less]
  omega

theorem le_trans {a b c : Number} (h : a ≤ b) (h' : b ≤ c) : a ≤ c := by
  rcases h with below | rfl
  · rcases h' with below' | rfl
    · exact .inl (less_trans below below')
    · exact .inl below
  · exact h'

theorem finite_of_between {u v : Int} {hu : Exact u} {hv : Exact v} {n : Number}
    (above : finite u hu ≤ n) (below : n ≤ finite v hv) : ∃ w hw, n = finite w hw := by
  cases n with
  | finite w hw => exact ⟨w, hw, rfl⟩
  | infinite negative => cases negative <;> simp_all [le_def, less]
  | undefined => simp [le_def, less] at above

theorem halfEven_mono {num num' : Nat} (h : num ≤ num') (den : Nat) :
    halfEven num den ≤ halfEven num' den := by
  rcases Nat.lt_or_eq_of_le (Nat.div_le_div_right (c := den) h) with further | same
  · calc halfEven num den ≤ num / den + 1 := (halfEven_bounds num den).2
      _ ≤ num' / den := further
      _ ≤ halfEven num' den := (halfEven_bounds num' den).1
  · have split := Nat.div_add_mod num den
    have split' := Nat.div_add_mod num' den
    rw [← same] at split'
    have rest : num % den ≤ num' % den := by omega
    unfold halfEven
    dsimp only
    rw [← same]
    split <;> split <;> omega

theorem roundUnits_mono {m m' : Nat} (h : m ≤ m') : roundUnits m 1 ≤ roundUnits m' 1 := by
  rcases Nat.eq_zero_or_pos m with rfl | positive
  · rw [roundUnits_zero]
    exact Nat.zero_le _
  have positive' : 0 < m' := positive.trans_le h
  have size : m.log2 ≤ m'.log2 :=
    (Nat.le_log2 positive'.ne').mpr ((Nat.log2_self_le positive.ne').trans h)
  rcases Nat.lt_or_eq_of_le size with longer | same
  · calc roundUnits m 1 ≤ 2 ^ (m.log2 + 1) := (roundUnits_bounds positive).2
      _ ≤ 2 ^ m'.log2 := Nat.pow_le_pow_right (by decide) longer
      _ ≤ roundUnits m' 1 := (roundUnits_bounds positive').1
  · have gap : spacing m' = spacing m := by rw [spacing_eq, spacing_eq, same]
    rw [roundUnits_one, roundUnits_one, gap]
    exact Nat.mul_le_mul_right _ (halfEven_mono h _)

/-- A count is rounded to a number unless it is too large. -/
theorem exact_roundUnits {m : Nat} : Exact (roundUnits m 1 : Nat) ↔ roundUnits m 1 < bound := by
  rw [exact_natCast, and_iff_left_iff_imp]
  intro _
  rcases Nat.eq_zero_or_pos m with rfl | positive
  · rw [roundUnits_zero]
    exact Nat.dvd_zero _
  · exact spacing_dvd_roundUnits positive

theorem nearest_mono {m m' : Nat} (h : m ≤ m') : nearest m 1 ≤ nearest m' 1 := by
  have rounded := roundUnits_mono h
  by_cases fits' : Exact (roundUnits m' 1 : Nat)
  · have fits : Exact (roundUnits m 1 : Nat) :=
      exact_roundUnits.mpr (rounded.trans_lt (exact_roundUnits.mp fits'))
    rw [nearest_natCast fits, nearest_natCast fits', finite_le_finite]
    exact Int.ofNat_le.mpr rounded
  · rw [nearest_natCast_of_unfit fits']
    by_cases fits : Exact (roundUnits m 1 : Nat)
    · rw [nearest_natCast fits]
      exact .inl rfl
    · rw [nearest_natCast_of_unfit fits]
      exact le_refl _

theorem finite_of_isWhole {n : Number} (h : n.isWhole = true) : ∃ u hu, n = finite u hu := by
  cases n with
  | finite u hu => exact ⟨u, hu, rfl⟩
  | infinite negative => cases h
  | undefined => cases h

theorem finite_sub {u v : Int} (hu : Exact u) (hv : Exact v) (h : v ≤ u) :
    finite u hu - finite v hv = nearest ((u - v).toNat : Nat) 1 := by
  change finite u hu + finite (-v) _ = _
  rw [finite_add, Int.toNat_of_nonneg (Int.sub_nonneg.mpr h), Int.sub_eq_add_neg]

section Span

variable {first start stop last : Number} (whole : first.isWhole = true)
  (whole' : last.isWhole = true) (begins : first ≤ start)
include whole whole' begins

theorem zero_le_sub (ends : start ≤ last) : 0 ≤ last - start := by
  obtain ⟨u, hu, rfl⟩ := finite_of_isWhole whole
  obtain ⟨v, hv, rfl⟩ := finite_of_isWhole whole'
  obtain ⟨a, ha, rfl⟩ := finite_of_between begins ends
  rw [finite_sub hv ha (finite_le_finite.mp ends), zero_eq, ← nearest_exact 0 exact_zero]
  exact nearest_mono (m := 0) (Nat.zero_le _)

theorem sub_le_sub (h : start ≤ stop) (ends : stop ≤ last) : stop - start ≤ last - first := by
  obtain ⟨u, hu, rfl⟩ := finite_of_isWhole whole
  obtain ⟨v, hv, rfl⟩ := finite_of_isWhole whole'
  obtain ⟨a, ha, rfl⟩ := finite_of_between begins (le_trans h ends)
  obtain ⟨b, hb, rfl⟩ := finite_of_between (le_trans begins h) ends
  rw [finite_le_finite] at begins h ends
  rw [finite_sub hb ha h, finite_sub hv hu (by omega)]
  exact nearest_mono (by omega)

end Span

end Number

end SafetyBoard
