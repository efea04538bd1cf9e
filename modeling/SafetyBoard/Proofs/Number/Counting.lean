import Mathlib.Data.Nat.ModEq
import SafetyBoard.Proofs.Number.Numeral

/-!
# Counting up

A count stays a count when one is added to it. Up to a certain size one more is a number itself;
beyond that the sum is rounded to a multiple of a spacing that is whole, and so far up that it could
leave the range of numbers it is rounded back to what it was. Up to that size a count is also
written in digits that read back; digits of any size are read as the number nearest to their value.
-/

namespace SafetyBoard

namespace Number

theorem spacing_eq (n : Nat) : spacing n = 2 ^ (n.log2 - 52) := rfl

theorem spacing_dvd_rounded (m : Nat) : spacing m ∣ roundUnits m 1 := by
  rw [roundUnits_one]
  exact Nat.dvd_mul_left _ _

theorem roundUnits_bounds {m : Nat} (h : 0 < m) :
    2 ^ m.log2 ≤ roundUnits m 1 ∧ roundUnits m 1 ≤ 2 ^ (m.log2 + 1) := by
  obtain ⟨below, above⟩ := halfEven_bounds m (spacing m)
  have gap := spacing_pos m
  obtain ⟨low, hlow⟩ : spacing m ∣ 2 ^ m.log2 := Nat.pow_dvd_pow 2 (Nat.sub_le _ _)
  obtain ⟨high, hhigh⟩ : spacing m ∣ 2 ^ (m.log2 + 1) :=
    Nat.pow_dvd_pow 2 ((Nat.sub_le _ _).trans (Nat.le_succ _))
  have least : low ≤ m / spacing m := by
    rw [Nat.le_div_iff_mul_le gap, Nat.mul_comm, ← hlow]
    exact Nat.log2_self_le (by omega)
  have most : m / spacing m < high := by
    rw [Nat.div_lt_iff_lt_mul gap, Nat.mul_comm, ← hhigh]
    exact Nat.lt_log2_self
  rw [roundUnits_one, hlow, hhigh, Nat.mul_comm _ low, Nat.mul_comm _ high]
  exact ⟨Nat.mul_le_mul_right _ (least.trans below),
    Nat.mul_le_mul_right _ (above.trans most)⟩

theorem spacing_dvd_roundUnits {m : Nat} (h : 0 < m) :
    spacing (roundUnits m 1) ∣ roundUnits m 1 := by
  obtain ⟨above, below⟩ := roundUnits_bounds h
  rcases Nat.lt_or_eq_of_le below with below | same
  · have positive : roundUnits m 1 ≠ 0 := by
      have := Nat.two_pow_pos m.log2
      omega
    rw [spacing_eq, (Nat.log2_eq_iff positive).mpr ⟨above, below⟩, ← spacing_eq]
    exact spacing_dvd_rounded m
  · rw [same, spacing_eq, Nat.log2_two_pow]
    exact Nat.pow_dvd_pow 2 (Nat.sub_le _ _)

theorem two_pow_le_of_succ {a e size : Nat} (exact : spacing a ∣ a) (far : e + 59 ≤ size)
    (least : 2 ^ size ≤ a + 2 ^ e) : 2 ^ size ≤ a := by
  by_contra less
  have one := Nat.two_pow_pos e
  have wide : 2 ^ e < 2 ^ size := Nat.pow_lt_pow_right (by decide) (by omega)
  have shorter : a.log2 < size := (Nat.log2_lt (by omega)).mpr (by omega)
  have multiple : spacing a ∣ 2 ^ size - a :=
    Nat.dvd_sub (Nat.pow_dvd_pow 2 (by omega)) exact
  have fine : spacing a ≤ 2 ^ e := (Nat.le_of_dvd (by omega) multiple).trans (by omega)
  have near : a.log2 - 52 ≤ e := (Nat.pow_le_pow_iff_right (by decide)).mp fine
  have small : a < 2 ^ (e + 53) :=
    Nat.lt_log2_self.trans_le (Nat.pow_le_pow_right (by decide) (by omega))
  have units : 2 ^ e ≤ 2 ^ (e + 53) := Nat.pow_le_pow_right (by decide) (by omega)
  have large : 2 ^ (e + 53 + 1) ≤ 2 ^ size := Nat.pow_le_pow_right (by decide) (by omega)
  rw [Nat.pow_succ] at large
  omega

theorem roundUnits_succ_of_far {a e : Nat} (exact : spacing a ∣ a)
    (far : 2 ^ (e + 59) ≤ a + 2 ^ e) : roundUnits (a + 2 ^ e) 1 = a := by
  generalize length : (a + 2 ^ e).log2 = size
  have one := Nat.two_pow_pos e
  obtain ⟨least, most⟩ := (Nat.log2_eq_iff (by omega)).mp length
  have large : e + 59 ≤ size := by
    have lt := (Nat.pow_lt_pow_iff_right (by decide)).mp (far.trans_lt most)
    omega
  have least : 2 ^ size ≤ a := two_pow_le_of_succ exact large least
  have positive := Nat.two_pow_pos size
  have same : a.log2 = size := (Nat.log2_eq_iff (by omega)).mpr ⟨least, by omega⟩
  have gap : spacing (a + 2 ^ e) = spacing a := by rw [spacing_eq, spacing_eq, length, same]
  have wide : 2 * 2 ^ e < spacing a := by
    rw [spacing_eq, same, ← Nat.pow_succ']
    exact Nat.pow_lt_pow_right (by decide) (by omega)
  have short : 2 ^ e < spacing a := by omega
  have quotient : (a + 2 ^ e) / spacing a = a / spacing a := by
    rw [Nat.add_div_of_dvd_right exact, Nat.div_eq_of_lt short, Nat.add_zero]
  have rest : (a + 2 ^ e) % spacing a = 2 ^ e := by
    rw [Nat.add_mod, Nat.mod_eq_zero_of_dvd exact, Nat.zero_add, Nat.mod_mod,
      Nat.mod_eq_of_lt short]
  rw [roundUnits_one, gap, halfEven, rest, quotient, if_pos (.inl wide), Nat.div_mul_cancel exact]

/-- One more than a whole number, in units of which `2 ^ e` make one and `2 ^ b` are too many, is
rounded to a whole number that is not too large. -/
theorem roundUnits_succ {a e b : Nat} (exact : spacing a ∣ a) (whole : 2 ^ e ∣ a)
    (below : a < 2 ^ b) (room : e + 60 ≤ b) :
    2 ^ e ∣ roundUnits (a + 2 ^ e) 1 ∧ roundUnits (a + 2 ^ e) 1 < 2 ^ b := by
  have one := Nat.two_pow_pos e
  have positive : 0 < a + 2 ^ e := by omega
  generalize length : (a + 2 ^ e).log2 = size
  obtain ⟨least, most⟩ := (Nat.log2_eq_iff positive.ne').mp length
  have gap : spacing (a + 2 ^ e) = 2 ^ (size - 52) := by rw [spacing_eq, length]
  by_cases fine : size - 52 ≤ e
  · have dvd : 2 ^ e ∣ a + 2 ^ e := Nat.dvd_add whole (Nat.dvd_refl _)
    have rounded : roundUnits (a + 2 ^ e) 1 = a + 2 ^ e := by
      apply roundUnits_of_dvd
      rw [gap]
      exact (Nat.pow_dvd_pow 2 fine).trans dvd
    rw [rounded]
    exact ⟨dvd, most.trans_le (Nat.pow_le_pow_right (by decide) (by omega))⟩
  · have multiple : 2 ^ (size - 52) ∣ roundUnits (a + 2 ^ e) 1 := gap ▸ spacing_dvd_rounded _
    refine ⟨(Nat.pow_dvd_pow 2 (by omega)).trans multiple, ?_⟩
    by_cases small : size + 1 < b
    · have rounded := (roundUnits_bounds positive).2
      rw [length] at rounded
      exact rounded.trans_lt (Nat.pow_lt_pow_right (by decide) small)
    · have far : 2 ^ (e + 59) ≤ a + 2 ^ e :=
        (Nat.pow_le_pow_right (by decide) (by omega)).trans least
      rw [roundUnits_succ_of_far exact far]
      exact below

theorem isWhole_iff {u : Int} {exact : Exact u} :
    (finite u exact).isWhole = true ↔ (scale : Int) ∣ u := by
  rw [isWhole, toInt?]
  split
  · next dvd => exact iff_of_true rfl dvd
  · next rest => exact iff_of_false Bool.false_ne_true rest

theorem exact_natCast {m : Nat} : Exact m ↔ m < bound ∧ spacing m ∣ m := by
  rw [Exact, Int.natAbs_natCast]

theorem exact_scale : Exact scale := by
  obtain ⟨e, b, one, large, room⟩ := scale_bound
  rw [exact_natCast, one, large, spacing_eq, Nat.log2_two_pow]
  exact ⟨Nat.pow_lt_pow_right (by decide) (by omega), Nat.pow_dvd_pow 2 (Nat.sub_le _ _)⟩

theorem one_eq : (1 : Number) = .finite scale exact_scale := by
  have e : (1 : Number) = ofInt 1 := rfl
  rw [e, ofInt, Int.one_mul, nearest_exact _ exact_scale]

theorem roundUnits_scale {a : Nat} (exact : spacing a ∣ a) (whole : scale ∣ a) (below : a < bound) :
    scale ∣ roundUnits (a + scale) 1 ∧ roundUnits (a + scale) 1 < bound := by
  obtain ⟨e, b, one, large, room⟩ := scale_bound
  rw [one] at whole ⊢
  rw [large] at below ⊢
  exact roundUnits_succ exact whole below room

theorem nearest_natCast {m : Nat} (fits : Exact (roundUnits m 1 : Nat)) :
    nearest m 1 = .finite (roundUnits m 1 : Nat) fits := by
  have sign : ¬(m : Int) < 0 := by omega
  simp only [nearest, if_neg sign, Int.natAbs_natCast]
  exact dif_pos fits

theorem nearest_natCast_of_unfit {m : Nat} (unfit : ¬Exact (roundUnits m 1 : Nat)) :
    nearest m 1 = .infinite false := by
  have sign : ¬(m : Int) < 0 := by omega
  simp only [nearest, if_neg sign, Int.natAbs_natCast]
  rw [dif_neg unfit, decide_eq_false sign]

theorem finite_succ {a : Nat} (exact : Exact (a : Int)) (whole : scale ∣ a) :
    scale ∣ roundUnits (a + scale) 1 ∧ ∃ fits : Exact (roundUnits (a + scale) 1 : Nat),
      finite a exact + 1 = finite (roundUnits (a + scale) 1 : Nat) fits := by
  obtain ⟨below, exact_units⟩ := exact_natCast.mp exact
  obtain ⟨dvd, below⟩ := roundUnits_scale exact_units whole below
  have fits : Exact (roundUnits (a + scale) 1 : Nat) :=
    exact_natCast.mpr ⟨below, spacing_dvd_roundUnits (Nat.add_pos_right a scale_pos)⟩
  refine ⟨dvd, fits, ?_⟩
  rw [one_eq, finite_add, ← Int.natCast_add, nearest_natCast fits]

theorem isWhole_succ {n : Number} (whole : n.isWhole = true) (counts : n.less 0 = false) :
    (n + 1).isWhole = true := by
  cases n with
  | finite u exact =>
    rw [zero_eq] at counts
    have above : ¬u < 0 := of_decide_eq_false counts
    obtain ⟨a, rfl⟩ := Int.eq_ofNat_of_zero_le (Int.not_lt.mp above)
    obtain ⟨dvd, fits, succ⟩ :=
      finite_succ exact (Int.natCast_dvd_natCast.mp (isWhole_iff.mp whole))
    rw [succ]
    exact isWhole_iff.mpr (Int.natCast_dvd_natCast.mpr dvd)
  | infinite negative => cases whole
  | undefined => cases whole

theorem less_zero_succ {n : Number} (whole : n.isWhole = true) (counts : n.less 0 = false) :
    Number.less 0 (n + 1) = true :=
  less_zero_add (zero_or_less whole counts) less_zero_one

theorem isWhole_zero : (0 : Number).isWhole = true := by
  rw [zero_eq]
  exact isWhole_iff.mpr (Int.dvd_zero _)

theorem log2_mul_two_pow {n : Nat} (h : 0 < n) (e : Nat) : (n * 2 ^ e).log2 = n.log2 + e := by
  have one := Nat.two_pow_pos e
  rw [Nat.log2_eq_iff (Nat.mul_pos h one).ne', Nat.add_right_comm, Nat.pow_add, Nat.pow_add _ _ e]
  exact ⟨Nat.mul_le_mul_right _ (Nat.log2_self_le h.ne'),
    Nat.mul_lt_mul_of_pos_right Nat.lt_log2_self one⟩

theorem exact_ofNat {n : Nat} (h : n < 2 ^ 53) : Exact (n * scale : Nat) := by
  rcases Nat.eq_zero_or_pos n with rfl | positive
  · rw [Nat.zero_mul]
    exact exact_zero
  obtain ⟨e, b, one, large, room⟩ := scale_bound
  have short : n.log2 < 53 := (Nat.log2_lt positive.ne').mpr h
  have length : (n * 2 ^ e).log2 = n.log2 + e := log2_mul_two_pow positive e
  rw [exact_natCast, one, large, spacing_eq, length]
  constructor
  · calc n * 2 ^ e < 2 ^ 53 * 2 ^ e := Nat.mul_lt_mul_of_pos_right h (Nat.two_pow_pos e)
      _ = 2 ^ (53 + e) := (Nat.pow_add ..).symm
      _ ≤ 2 ^ b := Nat.pow_le_pow_right (by decide) (by omega)
  · exact Nat.dvd_mul_left_of_dvd (Nat.pow_dvd_pow 2 (by omega)) n

theorem ofNat_eq {n : Nat} (h : n < 2 ^ 53) :
    ofNat n = .finite (n * scale : Nat) (exact_ofNat h) := by
  rw [ofNat, ofInt, ← nearest_exact, Nat.cast_mul]

def Counts (n : Number) (count : Nat) : Prop := n.toInt? = some (count : Int)

theorem counts_finite {u : Int} {exact : Exact u} {count : Nat} :
    (finite u exact).Counts count ↔ u = (count * scale : Nat) := by
  rw [Counts, toInt?, Nat.cast_mul]
  have positive : (scale : Int) ≠ 0 := Int.natCast_ne_zero.mpr scale_pos.ne'
  split
  · next dvd => rw [Option.some_inj, Int.ediv_eq_iff_eq_mul_left positive dvd]
  · next rest =>
    refine iff_of_false (Option.some_ne_none _).symm ?_
    rintro rfl
    exact rest (Int.dvd_mul_left (count : Int) scale)

theorem Counts.unique {n : Number} {count other : Nat} (h : n.Counts count)
    (h' : n.Counts other) : count = other := by
  rw [Counts, h] at h'
  exact Int.ofNat_inj.mp (Option.some_inj.mp h')

theorem counts_zero : (0 : Number).Counts 0 := by
  rw [zero_eq, counts_finite, Nat.zero_mul]
  rfl

theorem Counts.eq_zero_iff {n : Number} {count : Nat} (h : n.Counts count) :
    n = 0 ↔ count = 0 := by
  constructor
  · intro zero
    rw [zero] at h
    exact h.unique counts_zero
  · rintro rfl
    cases n with
    | finite u exact =>
      rw [counts_finite, Nat.zero_mul] at h
      subst h
      exact zero_eq.symm
    | infinite negative => cases h
    | undefined => cases h

theorem Counts.less_iff {n : Number} {count : Nat} (h : n.Counts count) :
    Number.less 0 n = true ↔ 0 < count := by
  cases n with
  | finite u exact =>
    obtain rfl := counts_finite.mp h
    rw [zero_eq, less, decide_eq_true_iff, Int.natCast_pos, Nat.mul_pos_iff_of_pos_right scale_pos]
  | infinite negative => cases h
  | undefined => cases h

theorem exists_counts {n : Number} (whole : n.isWhole = true) (natural : n.less 0 = false) :
    ∃ count, n.Counts count := by
  cases n with
  | finite u exact =>
    rw [zero_eq] at natural
    have above : ¬u < 0 := of_decide_eq_false natural
    obtain ⟨a, rfl⟩ := Int.eq_ofNat_of_zero_le (Int.not_lt.mp above)
    obtain ⟨count, units⟩ := Int.natCast_dvd_natCast.mp (isWhole_iff.mp whole)
    exact ⟨count, counts_finite.mpr (by rw [units, Nat.mul_comm])⟩
  | infinite negative => cases whole
  | undefined => cases whole

theorem counts_ofNat {n : Nat} (h : n < 2 ^ 53) : (ofNat n).Counts n := by
  rw [ofNat_eq h, counts_finite]

/-- Rounding leaves a whole number of units below `2 ^ 53` as it is, and from there on above. -/
theorem roundUnits_count {count rounded : Nat}
    (units : roundUnits (count * scale) 1 = rounded * scale) :
    min rounded (2 ^ 53) = min count (2 ^ 53) := by
  rcases Nat.lt_or_ge count (2 ^ 53) with small | large
  · rw [roundUnits_of_dvd (exact_natCast.mp (exact_ofNat small)).2] at units
    rw [Nat.eq_of_mul_eq_mul_right scale_pos units]
  · obtain ⟨e, b, one, -, -⟩ := scale_bound
    have one_pos := Nat.two_pow_pos e
    have positive : 0 < count := (Nat.two_pow_pos 53).trans_le large
    have length : 53 ≤ count.log2 := (Nat.le_log2 positive.ne').mpr large
    rw [one] at units
    have least := (roundUnits_bounds (Nat.mul_pos positive one_pos)).1
    rw [units, log2_mul_two_pow positive, Nat.pow_add] at least
    have above : 2 ^ count.log2 ≤ rounded := Nat.le_of_mul_le_mul_right least one_pos
    have far : 2 ^ 53 ≤ 2 ^ count.log2 := Nat.pow_le_pow_right (by decide) length
    rw [Nat.min_eq_right large, Nat.min_eq_right (far.trans above)]

theorem Counts.succ {n : Number} {count : Nat} (h : n.Counts count) :
    ∃ next, (n + 1).Counts next ∧ min next (2 ^ 53) = min (count + 1) (2 ^ 53) := by
  cases n with
  | finite u exact =>
    obtain rfl := counts_finite.mp h
    obtain ⟨⟨next, units⟩, fits, succ⟩ := finite_succ exact (Nat.dvd_mul_left ..)
    rw [Nat.mul_comm scale next] at units
    refine ⟨next, ?_, ?_⟩
    · rw [succ, counts_finite, units]
    · rw [← Nat.succ_mul] at units
      exact roundUnits_count units
  | infinite negative => cases h
  | undefined => cases h

theorem exact_ofInt {i : Int} (h : i.natAbs < 2 ^ 53) : Exact (i * scale) := by
  have size : ((i.natAbs * scale : Nat) : Int).natAbs = (i * scale).natAbs := by
    rw [Int.natAbs_natCast, Int.natAbs_mul, Int.natAbs_natCast]
  exact (exact_ofNat h).of_natAbs_eq size

theorem ofInt_eq {i : Int} (h : i.natAbs < 2 ^ 53) :
    ofInt i = .finite (i * scale) (exact_ofInt h) := by
  rw [ofInt, nearest_exact]

/-- A whole number of the usual size is written in digits, behind a minus sign if it is negative. -/
theorem toList_text_ofInt {i : Int} (h : i.natAbs < 2 ^ 53) :
    (ofInt i).text.toList =
      if i < 0 then '-' :: Nat.toDigits 10 i.natAbs else Nat.toDigits 10 i.natAbs := by
  have positive : (0 : Int) < scale := Int.natCast_pos.mpr scale_pos
  have quotient : i * scale / scale = i := Int.mul_ediv_cancel _ positive.ne'
  rw [ofInt_eq h, text, quotient, if_pos ⟨Int.dvd_mul_left .., h⟩, toList_intText]

theorem toList_text_ofNat {n : Nat} (h : n < 2 ^ 53) :
    (ofNat n).text.toList = Nat.toDigits 10 n := by
  have natural : ¬(n : Int) < 0 := by omega
  rw [ofNat, toList_text_ofInt (i := n) h, if_neg natural, Int.natAbs_natCast]

theorem ofDigits?_minus (cs : List Char) : ofDigits? ('-' :: cs) = none := by
  have sign : isDigit '-' = false := by decide
  simp [ofDigits?, sign]

theorem nearest_of_bound_le {m : Nat} (large : bound ≤ m) : nearest m 1 = .infinite false := by
  obtain ⟨-, b, -, power, -⟩ := scale_bound
  have positive : 0 < m := bound_pos.trans_le large
  have far : b ≤ m.log2 := (Nat.le_log2 positive.ne').mpr (power ▸ large)
  have above : bound ≤ roundUnits m 1 := by
    rw [power]
    exact (Nat.pow_le_pow_right (by decide) far).trans (roundUnits_bounds positive).1
  exact nearest_natCast_of_unfit fun exact => (exact_natCast.mp exact).1.not_ge above

theorem bound_le_powTen : bound ≤ Decimal.powTen 400 * scale := by decide +kernel

theorem toNumber_count (n : Nat) : Decimal.toNumber false ⟨n, 0⟩ = ofNat n := by
  rcases Nat.eq_zero_or_pos n with rfl | positive
  · rw [toNumber_whole (by decide) (exact_ofNat (by decide)), ofNat_eq (by decide)]
  have places : Decimal.places ⟨n, 0⟩ = Decimal.length n := Int.add_zero _
  rcases Nat.lt_or_ge 400 (Decimal.length n) with long | short
  · have many : Decimal.powTen 400 ≤ n := by
      rw [← Nat.not_lt, ← Decimal.length_le_iff (by decide)]
      omega
    have large : bound ≤ n * scale := bound_le_powTen.trans (Nat.mul_le_mul_right scale many)
    rw [Decimal.toNumber_of_large positive.ne' (by omega), ofNat, ofInt, ← Nat.cast_mul,
      nearest_of_bound_le large]
  · rw [Decimal.toNumber_eq_nearest positive.ne' (by omega) (by omega), ofNat, ofInt,
      ← Nat.cast_mul]
    generalize scale = s
    simp [Decimal.sign, Decimal.powTen_zero]

theorem isDigit_eq (c : Char) : isDigit c = c.isDigit := by
  simp [Char.isDigit, isDigit, Char.le_def]

theorem ofDigits?_eq_some_iff {cs : List Char} {n : Number} : ofDigits? cs = some n ↔
    (cs ≠ [] ∧ ∀ c ∈ cs, c.isDigit = true) ∧ n = ofNat (Nat.ofDigitChars 10 cs 0) := by
  have digits : cs.all isDigit = true ↔ ∀ c ∈ cs, c.isDigit = true := by
    simp only [List.all_eq_true, isDigit_eq]
  rw [← digits, ofDigits?, toNumber_count, decimalValue_eq]
  split
  · next spelled => rw [and_iff_right spelled, Option.some_inj, eq_comm]
  · next other => simp only [reduceCtorEq, other, false_and]

theorem ofDigits?_text_ofNat {n : Nat} (h : n < 2 ^ 53) :
    ofDigits? (ofNat n).text.toList = some (ofNat n) := by
  rw [toList_text_ofNat h, ofDigits?_eq_some_iff, Nat.ofDigitChars_ten_toDigits]
  refine ⟨⟨Nat.toDigits_ne_nil, fun c member => ?_⟩, rfl⟩
  exact Nat.isDigit_of_mem_toDigits (by decide) (by decide) member

end Number

end SafetyBoard
