import SafetyBoard.Number.Basic
import Mathlib.Tactic.Ring

/-!
Rounding to the nearest number: a number is its own nearest number, a quotient may be scaled up and
down, the sign goes through, and nothing positive becomes zero.
-/

namespace SafetyBoard

namespace Number

/-- A hundred million times a hundred million counts fit between one and what is too large. -/
theorem scale_bound : ∃ e b, scale = 2 ^ e ∧ bound = 2 ^ b ∧ e + 60 ≤ b := by
  exact ⟨1074, 2098, by decide +kernel, by decide +kernel, by decide⟩

theorem scale_pos : 0 < scale := by
  obtain ⟨e, -, one, -⟩ := scale_bound
  rw [one]
  exact Nat.two_pow_pos e

theorem bound_pos : 0 < bound := by
  obtain ⟨-, b, -, large, -⟩ := scale_bound
  rw [large]
  exact Nat.two_pow_pos b

theorem spacing_pos (n : Nat) : 0 < spacing n := Nat.pow_pos (by decide)

theorem halfEven_bounds (num den : Nat) :
    num / den ≤ halfEven num den ∧ halfEven num den ≤ num / den + 1 := by
  unfold halfEven
  dsimp only
  split <;> omega

theorem halfEven_mul_right (a : Nat) {den : Nat} (h : 0 < den) : halfEven (a * den) den = a := by
  simp [halfEven, Nat.mul_div_cancel _ h, h]

theorem halfEven_scaled (num den : Nat) {k : Nat} (h : 0 < k) :
    halfEven (num * k) (den * k) = halfEven num den := by
  have hd : num * k / (den * k) = num / den := Nat.mul_div_mul_right _ _ h
  have hm : num * k % (den * k) = num % den * k := Nat.mul_mod_mul_right k num den
  have hlt : 2 * (num % den * k) < den * k ↔ 2 * (num % den) < den := by
    rw [← Nat.mul_assoc]
    exact Nat.mul_lt_mul_right h
  have heq : 2 * (num % den * k) = den * k ↔ 2 * (num % den) = den := by
    rw [← Nat.mul_assoc]
    exact Nat.mul_left_inj (by omega)
  simp only [halfEven, hd, hm, hlt, heq]

theorem roundUnits_one (m : Nat) : roundUnits m 1 = halfEven m (spacing m) * spacing m := by
  simp only [roundUnits, Nat.div_one, Nat.one_mul]

theorem roundUnits_of_dvd {n : Nat} (h : spacing n ∣ n) : roundUnits n 1 = n := by
  rw [roundUnits_one]
  obtain ⟨a, ha⟩ := h
  generalize spacing n = gap at ha
  subst ha
  rcases Nat.eq_zero_or_pos gap with rfl | hg
  · simp
  · rw [Nat.mul_comm gap a, halfEven_mul_right a hg]

theorem roundUnits_scaled (num den : Nat) {k : Nat} (h : 0 < k) :
    roundUnits (num * k) (den * k) = roundUnits num den := by
  have hd : num * k / (den * k) = num / den := Nat.mul_div_mul_right _ _ h
  simp only [roundUnits, hd]
  rw [Nat.mul_right_comm, halfEven_scaled _ _ h]

theorem nearest_exact (u : Int) (exact : Exact u) : nearest u 1 = .finite u exact := by
  have e : (roundUnits u.natAbs 1 : Int) = u.natAbs := by
    rw [roundUnits_of_dvd exact.2]
  have hu : (if u < 0 then -(u.natAbs : Int) else u.natAbs) = u := by split <;> omega
  simp only [nearest, e, hu]
  exact dif_pos exact

theorem nearest_scaled (num : Int) (den : Nat) {k : Nat} (h : 0 < k) :
    nearest (num * k) (den * k) = nearest num den := by
  have hk : (0 : Int) < k := by omega
  have hs : num * k < 0 ↔ num < 0 := by
    constructor
    · intro hn
      by_contra hc
      have := Int.mul_nonneg (Int.not_lt.mp hc) (Int.le_of_lt hk)
      omega
    · exact fun hn => Int.mul_neg_of_neg_of_pos hn hk
  have e : (num * k).natAbs = num.natAbs * k := by simp [Int.natAbs_mul]
  simp only [nearest, e, roundUnits_scaled _ _ h, hs]

theorem exact_neg {u : Int} : Exact (-u) ↔ Exact u :=
  ⟨Exact.of_natAbs_eq (Int.natAbs_neg u), Exact.of_natAbs_eq (Int.natAbs_neg u).symm⟩

/-- A count of units as a number; one that is too large is infinite. -/
private def ofUnits (u : Int) (negative : Bool) : Number :=
  if h : Exact u then .finite u h else .infinite negative

private theorem neg_ofUnits (u : Int) (negative : Bool) :
    -ofUnits u negative = ofUnits (-u) (!negative) := by
  unfold ofUnits
  by_cases h : Exact u
  · rw [dif_pos h, dif_pos (exact_neg.mpr h)]
    rfl
  · rw [dif_neg h, dif_neg (mt exact_neg.mp h)]
    rfl

private theorem nearest_eq_ofUnits (num : Int) (den : Nat) :
    nearest num den = ofUnits
      (if num < 0 then -(roundUnits num.natAbs den : Int) else roundUnits num.natAbs den)
      (num < 0) := rfl

theorem exact_zero : Exact 0 := ⟨bound_pos, Nat.dvd_zero _⟩

theorem roundUnits_zero (den : Nat) : roundUnits 0 den = 0 := by
  have e : halfEven 0 (den * spacing 0) = 0 := by
    unfold halfEven
    generalize den * spacing 0 = d
    simp only [Nat.zero_div, Nat.zero_mod, Nat.mul_zero]
    rcases Nat.eq_zero_or_pos d with rfl | hd
    · simp
    · simp [hd]
  simp [roundUnits, e]

theorem nearest_neg (num : Int) (den : Nat) : nearest (-num) den = -nearest num den := by
  rw [nearest_eq_ofUnits, nearest_eq_ofUnits, neg_ofUnits, Int.natAbs_neg]
  rcases Int.lt_trichotomy num 0 with h | rfl | h
  · have h' : ¬ 0 < num := by omega
    simp [h, h']
  · simp [roundUnits_zero, ofUnits, exact_zero]
  · have h' : ¬ num < 0 := by omega
    simp [h, h']

theorem zero_eq : (0 : Number) = .finite 0 exact_zero := by
  have e : (0 : Number) = ofInt 0 := rfl
  rw [e, ofInt, Int.zero_mul, nearest_exact 0 exact_zero]

theorem neg_zero : -(0 : Number) = 0 := by
  rw [zero_eq]
  rfl

theorem spacing_le {m : Nat} (h : 0 < m) : spacing m ≤ m := by
  have powers : spacing m ≤ 2 ^ m.log2 := Nat.pow_le_pow_right (by decide) (Nat.sub_le _ _)
  exact powers.trans (Nat.log2_self_le (by omega))

theorem roundUnits_pos {m : Nat} (h : 0 < m) : 0 < roundUnits m 1 := by
  have gap := spacing_pos m
  have below : 0 < m / spacing m := Nat.div_pos (spacing_le h) gap
  rw [roundUnits_one]
  exact Nat.mul_pos (below.trans_le (halfEven_bounds _ _).1) gap

theorem less_zero_nearest {u : Int} (h : 0 < u) : Number.less 0 (nearest u 1) = true := by
  have rounded := roundUnits_pos (m := u.natAbs) (by omega)
  have sign : ¬u < 0 := by omega
  rw [zero_eq]
  simp only [nearest, if_neg sign]
  split
  · exact decide_eq_true (by omega)
  · simp [less, sign]

theorem finite_add {u v : Int} (hu : Exact u) (hv : Exact v) :
    finite u hu + finite v hv = nearest (u + v) 1 := by
  change add (finite u hu) (finite v hv) = nearest (u + v) 1
  rw [add]

theorem less_zero_add {m n : Number} (h : m = 0 ∨ Number.less 0 m = true)
    (positive : Number.less 0 n = true) : Number.less 0 (m + n) = true := by
  rw [zero_eq] at h positive
  cases n with
  | finite v exact_v =>
    have v_pos : 0 < v := of_decide_eq_true positive
    rcases h with rfl | above
    · rw [finite_add]
      exact less_zero_nearest (by omega)
    · cases m with
      | finite u exact_u =>
        have u_pos : 0 < u := of_decide_eq_true above
        rw [finite_add]
        exact less_zero_nearest (by omega)
      | infinite negative =>
        rw [zero_eq]
        exact above
      | undefined => cases above
  | infinite negative =>
    rw [zero_eq]
    cases negative with
    | true => cases positive
    | false =>
      rcases h with rfl | above
      · rfl
      · cases m with
        | finite u exact_u => rfl
        | infinite negative =>
          cases negative with
          | true => cases above
          | false => rfl
        | undefined => cases above
  | undefined => cases positive

theorem not_less_of_less {m n : Number} (h : m.less n = true) : n.less m = false := by
  cases m <;> cases n <;> simp_all [less]
  omega

theorem not_less_zero_zero : Number.less 0 0 = false := by
  rw [zero_eq]
  exact decide_eq_false (Int.lt_irrefl 0)

theorem less_zero_one : Number.less 0 1 = true := by
  have one : (1 : Number) = ofInt 1 := rfl
  rw [one, ofInt, Int.one_mul]
  exact less_zero_nearest (Int.natCast_pos.mpr scale_pos)

theorem ne_zero_of_less {n : Number} (h : Number.less 0 n = true) : n ≠ 0 := by
  intro zero
  rw [zero, zero_eq] at h
  have : (0 : Int) < 0 := of_decide_eq_true (p := (0 : Int) < 0) h
  omega

theorem zero_or_less {n : Number} (whole : n.isWhole = true) (h : n.less 0 = false) :
    n = 0 ∨ Number.less 0 n = true := by
  cases n with
  | finite u exact =>
    rw [zero_eq] at h ⊢
    have above : ¬u < 0 := of_decide_eq_false h
    by_cases zero : u = 0
    · subst zero
      exact Or.inl rfl
    · refine Or.inr (decide_eq_true ?_)
      omega
  | infinite negative => cases whole
  | undefined => cases whole

end Number

end SafetyBoard
