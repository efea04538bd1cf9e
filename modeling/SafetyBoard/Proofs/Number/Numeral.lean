import SafetyBoard.Number.Reader
import SafetyBoard.Proofs.Number.Rounding

/-!
The text of a number reads back as the number, so different numbers have different texts. The
shortest decimal is found by reading candidates back; what remains is that each layout spells the
value of its decimal and that dropping zeros does not change it. No text has other characters than
letters, digits and the marks of a decimal.
-/

namespace SafetyBoard

namespace Decimal

theorem length_mul_ten {m : Nat} (h : 0 < m) : length (m * 10) = length m + 1 := by
  unfold length
  rw [Nat.toDigits_of_base_le (by decide) (by omega), Nat.mul_div_cancel m (by decide)]
  simp

theorem length_le_iff {n k : Nat} (h : 0 < k) : length n ≤ k ↔ n < powTen k :=
  Nat.length_toDigits_le_iff (by decide) h

theorem powTen_succ (n : Nat) : powTen (n + 1) = powTen n * 10 := rfl

theorem powTen_zero : powTen 0 = 1 := rfl

theorem powTen_pos (n : Nat) : 0 < powTen n := Nat.pow_pos (by decide)

def sign (negative : Bool) : Int := if negative then -1 else 1

def places (d : Decimal) : Int := length d.digits + d.exponent

theorem toNumber_of_out {negative : Bool} {d : Decimal} (h : d.digits = 0 ∨ d.places < -400) :
    d.toNumber negative = 0 :=
  if_pos h

theorem toNumber_of_large {negative : Bool} {d : Decimal} (h : d.digits ≠ 0)
    (hp : 400 < d.places) : d.toNumber negative = .infinite negative := by
  have hn : ¬ (d.digits = 0 ∨ d.places < -400) := by omega
  exact (if_neg hn).trans (if_pos hp)

/-- In between the value is one quotient, whichever side of the point the exponent is on. -/
theorem toNumber_eq_nearest {negative : Bool} {d : Decimal} (h : d.digits ≠ 0)
    (hl : -400 ≤ d.places) (hu : d.places ≤ 400) :
    d.toNumber negative = .nearest (sign negative * (d.digits * powTen d.exponent.toNat *
      Number.scale : Nat)) (powTen (-d.exponent).toNat) := by
  have hn : ¬ (d.digits = 0 ∨ d.places < -400) := by omega
  refine (if_neg hn).trans ((if_neg (show ¬ 400 < d.places by omega)).trans ?_)
  by_cases he : 0 ≤ d.exponent
  · have e : (-d.exponent).toNat = 0 := by omega
    rw [if_pos he, e, powTen_zero]
    rfl
  · have e : d.exponent.toNat = 0 := by omega
    rw [if_neg he, e, powTen_zero, Nat.mul_one]
    rfl

theorem toNumber_mul_ten (negative : Bool) (m : Nat) (e : Int) :
    toNumber negative ⟨m * 10, e⟩ = toNumber negative ⟨m, e + 1⟩ := by
  rcases Nat.eq_zero_or_pos m with rfl | hm
  · simp [toNumber]
  have hp : places ⟨m * 10, e⟩ = places ⟨m, e + 1⟩ := by
    simp only [places, length_mul_ten hm]
    omega
  have hm10 : m * 10 ≠ 0 := by omega
  have hm0 : m ≠ 0 := by omega
  by_cases hl : places ⟨m, e + 1⟩ < -400
  · rw [toNumber_of_out (.inr (hp ▸ hl)), toNumber_of_out (.inr hl)]
  by_cases hu : 400 < places ⟨m, e + 1⟩
  · rw [toNumber_of_large hm10 (hp ▸ hu), toNumber_of_large hm0 hu]
  rw [toNumber_eq_nearest hm10 (by omega) (by omega), toNumber_eq_nearest hm0 (by omega) (by omega)]
  dsimp only
  generalize Number.scale = s
  by_cases he : 0 ≤ e
  · rw [show (e + 1).toNat = e.toNat + 1 by omega, show (-(e + 1)).toNat = (-e).toNat by omega,
      powTen_succ, Nat.mul_assoc m 10, Nat.mul_comm 10]
  · rw [show (e + 1).toNat = e.toNat by omega, show (-e).toNat = (-(e + 1)).toNat + 1 by omega,
      powTen_succ, show m * 10 * powTen e.toNat * s = m * powTen e.toNat * s * 10 by ring,
      Nat.cast_mul, ← Int.mul_assoc]
    exact Number.nearest_scaled _ _ (by decide)

theorem toNumber_true (d : Decimal) : d.toNumber true = -d.toNumber false := by
  by_cases h0 : d.digits = 0 ∨ d.places < -400
  · rw [toNumber_of_out h0, toNumber_of_out h0]
    exact Number.neg_zero.symm
  rw [not_or] at h0
  by_cases hu : 400 < d.places
  · rw [toNumber_of_large h0.1 hu, toNumber_of_large h0.1 hu]
    rfl
  rw [toNumber_eq_nearest h0.1 (by omega) (by omega),
    toNumber_eq_nearest h0.1 (by omega) (by omega), ← Number.nearest_neg]
  have opposite : sign true = -sign false := rfl
  rw [opposite, Int.neg_mul]

theorem toNumber_stripZeros (negative : Bool) (fuel : Nat) (d : Decimal) :
    (stripZeros fuel d).toNumber negative = d.toNumber negative := by
  induction fuel generalizing d with
  | zero => rfl
  | succ fuel ih =>
    rw [stripZeros]
    split
    · next h =>
      rw [ih, ← toNumber_mul_ten, Nat.div_mul_cancel (Nat.dvd_of_mod_eq_zero h.1)]
    · rfl

theorem toNumber_mul_powTen (negative : Bool) (m k : Nat) (e : Int) :
    toNumber negative ⟨m * powTen k, e⟩ = toNumber negative ⟨m, e + k⟩ := by
  induction k generalizing e with
  | zero => simp [powTen_zero]
  | succ k ih =>
    rw [powTen_succ, ← Nat.mul_assoc, toNumber_mul_ten, ih]
    congr 2
    push_cast
    ring

end Decimal

namespace Number

open Decimal

theorem isDigit_of_mem_toDigits {n : Nat} {c : Char} (h : c ∈ Nat.toDigits 10 n) :
    isDigit c = true := by
  have hc : c.isDigit = true := Nat.isDigit_of_mem_toDigits (by decide) (by decide) h
  simpa [Char.isDigit, isDigit, Char.le_def] using hc

theorem decimalValue_eq (cs : List Char) : decimalValue cs = Nat.ofDigitChars 10 cs 0 := by
  unfold decimalValue digitsValue
  rw [List.foldl_map, Nat.ofDigitChars_eq_foldl]
  congr 1
  funext n c
  rw [Nat.mul_comm]
  rfl

theorem decimalValue_toDigits (n : Nat) : decimalValue (Nat.toDigits 10 n) = n := by
  rw [decimalValue_eq, Nat.ofDigitChars_ten_toDigits]

theorem decimalValue_append_zeros (cs : List Char) (k : Nat) :
    decimalValue (cs ++ List.replicate k '0') = decimalValue cs * powTen k := by
  simp only [decimalValue_eq, Nat.ofDigitChars_append, Nat.ofDigitChars_replicate_zero]
  exact Nat.mul_comm _ _

theorem decimalValue_zeros_append (k : Nat) (cs : List Char) :
    decimalValue (List.replicate k '0' ++ cs) = decimalValue cs := by
  simp [decimalValue_eq, Nat.ofDigitChars_append]

theorem takeWhile_digits {ds : List Char} (hd : ∀ c ∈ ds, isDigit c = true) (rest : List Char)
    (hr : rest.head?.all fun c => !isDigit c) :
    (ds ++ rest).takeWhile isDigit = ds ∧ (ds ++ rest).dropWhile isDigit = rest := by
  have e : rest.takeWhile isDigit = [] ∧ rest.dropWhile isDigit = rest := by
    cases rest with
    | nil => simp
    | cons c rest =>
      have hc : isDigit c = false := by simpa using hr
      simp [hc]
  rw [List.takeWhile_append_of_pos hd, List.dropWhile_append_of_pos hd, e.1, e.2]
  simp

theorem mantissa?_whole {ds : List Char} (hne : ds ≠ []) (hd : ∀ c ∈ ds, isDigit c = true)
    (rest : List Char) (hr : rest.head?.all fun c => !isDigit c) (hp : rest.head? ≠ some '.') :
    mantissa? (ds ++ rest) = some (⟨decimalValue ds, 0⟩, rest) := by
  obtain ⟨ht, hw⟩ := takeWhile_digits hd rest hr
  unfold mantissa?
  simp only [ht, hw]
  split
  · exact absurd rfl hp
  · simp [hne]

theorem mantissa?_point {ds fs : List Char} (hne : ds ≠ [])
    (hd : ∀ c ∈ ds, isDigit c = true) (hf : ∀ c ∈ fs, isDigit c = true) (rest : List Char)
    (hr : rest.head?.all fun c => !isDigit c) :
    mantissa? (ds ++ '.' :: (fs ++ rest)) =
      some (⟨decimalValue (ds ++ fs), -fs.length⟩, rest) := by
  obtain ⟨ht, hw⟩ := takeWhile_digits hd ('.' :: (fs ++ rest)) (by simp; decide)
  obtain ⟨ht', hw'⟩ := takeWhile_digits hf rest hr
  unfold mantissa?
  simp only [ht, hw, ht', hw']
  simp [hne]

theorem exponent?_signed (power : Int) :
    exponent? ('e' :: ((if 0 ≤ power then ['+'] else ['-']) ++ Nat.toDigits 10 power.natAbs)) =
      some power := by
  have hall : (Nat.toDigits 10 power.natAbs).all isDigit = true :=
    List.all_eq_true.mpr fun c hc => isDigit_of_mem_toDigits hc
  have digits : Nat.toDigits 10 power.natAbs ≠ [] ∧ (Nat.toDigits 10 power.natAbs).all isDigit :=
    ⟨Nat.toDigits_ne_nil, hall⟩
  by_cases h : 0 ≤ power
  · have size : (power.natAbs : Int) = power := by omega
    simp only [h, if_true, List.cons_append, List.nil_append, exponent?, true_or, sign]
    rw [if_pos digits, if_neg (by simp), decimalValue_toDigits, size]
  · have size : -(power.natAbs : Int) = power := by omega
    simp only [h, if_false, List.cons_append, List.nil_append, exponent?, true_or, if_true, sign]
    rw [if_pos digits, decimalValue_toDigits, size]

theorem unsignedDecimal?_eq (negative : Bool) {cs rest : List Char} {m : Decimal} {power : Int}
    (hd : cs.head?.any isDigit = true) (hm : mantissa? cs = some (m, rest))
    (hp : exponent? rest = some power) :
    unsignedDecimal? negative cs =
      some (Decimal.toNumber negative ⟨m.digits, m.exponent + power⟩) := by
  have hne : cs ≠ "Infinity".toList := by
    rintro rfl
    revert hd
    decide
  rw [unsignedDecimal?, if_neg hne, hm]
  change (exponent? rest >>= _) = _
  rw [hp]
  rfl

theorem head?_digits_append {ds : List Char} (hne : ds ≠ []) (hd : ∀ c ∈ ds, isDigit c = true)
    (rest : List Char) : (ds ++ rest).head?.any isDigit = true := by
  cases ds with
  | nil => exact absurd rfl hne
  | cons c ds => simpa using hd c List.mem_cons_self

theorem isDigit_of_mem_zeros {k : Nat} {c : Char} (h : c ∈ List.replicate k '0') :
    isDigit c = true := by
  rw [List.eq_of_mem_replicate h]
  decide

section Layout

variable (negative : Bool) {ds : List Char} (hne : ds ≠ []) (hd : ∀ c ∈ ds, isDigit c = true)
include hne hd

theorem read_whole (k : Nat) :
    unsignedDecimal? negative (ds ++ List.replicate k '0') =
      some (Decimal.toNumber negative ⟨decimalValue ds, k⟩) := by
  have hall : ∀ c ∈ ds ++ List.replicate k '0', isDigit c = true := fun c hc =>
    (List.mem_append.mp hc).elim (hd c) isDigit_of_mem_zeros
  have hm := mantissa?_whole (by simp [hne]) hall [] (by simp) (by simp)
  rw [List.append_nil] at hm
  rw [unsignedDecimal?_eq negative (head?_digits_append hne hd _) hm rfl,
    decimalValue_append_zeros, toNumber_mul_powTen]
  congr 3
  simp

theorem read_point (fs : List Char) (hf : ∀ c ∈ fs, isDigit c = true) :
    unsignedDecimal? negative (ds ++ '.' :: fs) =
      some (Decimal.toNumber negative ⟨decimalValue (ds ++ fs), -fs.length⟩) := by
  have hm := mantissa?_point hne hd hf [] (by simp)
  rw [List.append_nil] at hm
  rw [unsignedDecimal?_eq negative (head?_digits_append hne hd _) hm rfl]
  congr 3
  simp

theorem read_whole_exponent (power : Int) {tail : List Char}
    (ht : exponent? ('e' :: tail) = some power) :
    unsignedDecimal? negative (ds ++ 'e' :: tail) =
      some (Decimal.toNumber negative ⟨decimalValue ds, power⟩) := by
  have hm := mantissa?_whole hne hd ('e' :: tail) (by simp; decide) (by simp)
  rw [unsignedDecimal?_eq negative (head?_digits_append hne hd _) hm ht]
  congr 3
  simp

theorem read_point_exponent (fs : List Char) (hf : ∀ c ∈ fs, isDigit c = true) (power : Int)
    {tail : List Char} (ht : exponent? ('e' :: tail) = some power) :
    unsignedDecimal? negative (ds ++ '.' :: (fs ++ 'e' :: tail)) =
      some (Decimal.toNumber negative ⟨decimalValue (ds ++ fs), power - fs.length⟩) := by
  have hm := mantissa?_point hne hd hf ('e' :: tail) (by simp; decide)
  rw [unsignedDecimal?_eq negative (head?_digits_append hne hd _) hm ht]
  congr 3
  dsimp only
  omega

end Layout

theorem unsignedDecimal?_layout (negative : Bool) (d : Decimal) :
    unsignedDecimal? negative d.layout.toList = some (d.toNumber negative) := by
  obtain ⟨n, e⟩ := d
  have hd : ∀ c ∈ Nat.toDigits 10 n, isDigit c = true := fun c => isDigit_of_mem_toDigits
  have hn : Nat.toDigits 10 n ≠ [] := Nat.toDigits_ne_nil
  have hv : decimalValue (Nat.toDigits 10 n) = n := decimalValue_toDigits n
  have hlen : 0 < (Nat.toDigits 10 n).length := List.length_pos_iff.mpr hn
  unfold Decimal.layout
  dsimp only
  generalize Nat.toDigits 10 n = ds at hd hn hv hlen
  by_cases h1 : 0 ≤ e ∧ (ds.length : Int) + e ≤ 21
  · rw [if_pos h1, String.toList_ofList, read_whole negative hn hd, hv]
    congr 3
    omega
  rw [if_neg h1]
  by_cases h2 : 0 < (ds.length : Int) + e ∧ (ds.length : Int) + e ≤ 21
  · have hk : ((ds.length : Int) + e).toNat < ds.length := by omega
    generalize hp : ((ds.length : Int) + e).toNat = k at hk
    have hk0 : ds.take k ≠ [] := by
      rw [← List.length_pos_iff, List.length_take]
      omega
    rw [if_pos h2, String.toList_ofList,
      read_point negative hk0 (fun c hc => hd c (List.mem_of_mem_take hc)) _
        (fun c hc => hd c (List.mem_of_mem_drop hc)), List.take_append_drop, hv, List.length_drop]
    congr 3
    omega
  rw [if_neg h2]
  by_cases h3 : -6 < (ds.length : Int) + e ∧ (ds.length : Int) + e ≤ 0
  · rw [if_pos h3, String.toList_ofList]
    have hz := read_point negative (show ['0'] ≠ [] by simp) (by simp; decide)
      (List.replicate (-((ds.length : Int) + e)).toNat '0' ++ ds) (fun c hc =>
        (List.mem_append.mp hc).elim isDigit_of_mem_zeros (hd c))
    have h0 : decimalValue (['0'] ++ (List.replicate (-((ds.length : Int) + e)).toNat '0' ++ ds)) =
        decimalValue ds := by
      rw [← List.append_assoc]
      exact decimalValue_zeros_append (_ + 1) ds
    rw [h0, hv] at hz
    apply hz.trans
    congr 3
    simp
    omega
  rw [if_neg h3, String.toList_ofList]
  have ht := exponent?_signed ((ds.length : Int) + e - 1)
  match ds with
  | [] => exact absurd rfl hn
  | [c] =>
    have hr := read_whole_exponent negative hn hd _ ht
    simp only [List.take_succ_cons, List.take_zero, List.drop_succ_cons, List.drop_nil,
      List.append_nil, List.cons_append, List.nil_append] at hr ⊢
    rw [hr, hv]
    congr 3
    simp
  | c :: r :: rest =>
    have hr := read_point_exponent negative (show [c] ≠ [] by simp)
      (fun x hx => hd x (by simp_all)) (r :: rest)
      (fun x hx => hd x (List.mem_cons_of_mem _ hx)) _ ht
    simp only [List.take_succ_cons, List.take_zero, List.drop_succ_cons, List.drop_zero,
      List.append_assoc, List.cons_append, List.nil_append] at hr ⊢
    rw [hr, hv]
    congr 3
    simp
    omega

theorem unsignedDecimal?_prefixed {negative : Bool} {mark : Char} {cs : List Char}
    (hd : isDigit mark = false) (hp : mark ≠ '.') (he : mark ≠ 'e' ∧ mark ≠ 'E') :
    unsignedDecimal? negative ('0' :: mark :: cs) = none := by
  have hm : mantissa? ('0' :: mark :: cs) = some (⟨decimalValue ['0'], 0⟩, mark :: cs) :=
    mantissa?_whole (show ['0'] ≠ [] by simp) (by simp; decide) (mark :: cs) (by simp [hd])
      (by simpa using hp)
  have hx : exponent? (mark :: cs) = none := by simp [exponent?, he.1, he.2]
  rw [unsignedDecimal?, if_neg (by simp), hm]
  change (exponent? (mark :: cs) >>= _) = _
  rw [hx]
  rfl

theorem unsignedDecimal?_signed {negative : Bool} {mark : Char} {cs : List Char}
    (h : mark = '-' ∨ mark = '+') : unsignedDecimal? negative (mark :: cs) = none := by
  rcases h with rfl | rfl <;>
    simp [unsignedDecimal?, mantissa?, show isDigit '-' = false by decide,
      show isDigit '+' = false by decide]

/-- A text without sign that reads as a decimal has neither a sign nor the mark of a base. -/
theorem numeral?_of_unsigned {cs : List Char} {n : Number}
    (h : unsignedDecimal? false cs = some n) : numeral? cs = some n := by
  unfold numeral?
  split
  · simp [unsignedDecimal?, mantissa?] at h
  · next mark digits =>
    have marked : ∀ c, isDigit c = false → c ≠ '.' → c ≠ 'e' ∧ c ≠ 'E' → mark ≠ c := by
      rintro c hd hp he rfl
      rw [unsignedDecimal?_prefixed hd hp he] at h
      cases h
    rw [if_neg (not_or.mpr ⟨marked 'x' (by decide) (by decide) (by decide),
        marked 'X' (by decide) (by decide) (by decide)⟩),
      if_neg (not_or.mpr ⟨marked 'o' (by decide) (by decide) (by decide),
        marked 'O' (by decide) (by decide) (by decide)⟩),
      if_neg (not_or.mpr ⟨marked 'b' (by decide) (by decide) (by decide),
        marked 'B' (by decide) (by decide) (by decide)⟩), h]
  · next hnil hzero =>
    cases cs with
    | nil => exact absurd rfl hnil
    | cons c rest =>
      have hs : sign (c :: rest) = (false, c :: rest) := by
        unfold sign
        split
        · next heq =>
          rw [heq, unsignedDecimal?_signed (.inl rfl)] at h
          cases h
        · next heq =>
          rw [heq, unsignedDecimal?_signed (.inr rfl)] at h
          cases h
        · rfl
      rw [hs]
      exact h

theorem numeral?_minus (cs : List Char) : numeral? ('-' :: cs) = unsignedDecimal? true cs := by
  simp [numeral?, sign]

theorem bound_le : bound * Nat.pow 5 1074 ≤ Decimal.powTen 1400 := by decide +kernel

theorem le_pow_five : Decimal.powTen 750 ≤ Nat.pow 5 1074 := by decide +kernel

theorem pow_five_scale : Nat.pow 5 1074 * scale = Decimal.powTen 1074 := by decide +kernel

theorem toNumber_exactDecimal {units : Nat} (hu : 0 < units) (exact : Exact units) :
    (exactDecimal units).toNumber false = .finite units exact := by
  have h5 : 0 < Nat.pow 5 1074 :=
    Nat.lt_of_lt_of_le (Decimal.powTen_pos 750) le_pow_five
  have hne : (exactDecimal units).digits ≠ 0 := Nat.mul_ne_zero (by omega) (by omega)
  have hlen : Decimal.length (exactDecimal units).digits ≤ 1400 := by
    apply (Decimal.length_le_iff (by decide)).mpr
    exact Nat.lt_of_lt_of_le (Nat.mul_lt_mul_of_pos_right exact.1 h5) bound_le
  have hlow : 750 < Decimal.length (exactDecimal units).digits := by
    apply Nat.lt_of_not_le
    intro h
    have hlt := (Decimal.length_le_iff (by decide)).mp h
    have hge : Nat.pow 5 1074 ≤ units * Nat.pow 5 1074 := Nat.le_mul_of_pos_left _ hu
    exact absurd (Nat.lt_of_le_of_lt hge hlt) (Nat.not_lt.mpr le_pow_five)
  have hp : (exactDecimal units).places = Decimal.length (exactDecimal units).digits - 1074 := rfl
  have hnum : Decimal.sign false * ((exactDecimal units).digits *
      Decimal.powTen (exactDecimal units).exponent.toNat * scale : Nat) =
      (units : Int) * (Decimal.powTen 1074 : Nat) := by
    rw [← pow_five_scale]
    change 1 * ((units * Nat.pow 5 1074 * 1 * scale : Nat) : Int) = _
    rw [Int.one_mul, Nat.mul_one, Nat.mul_assoc, Nat.cast_mul]
  have hden : Decimal.powTen (-(exactDecimal units).exponent).toNat = 1 * Decimal.powTen 1074 :=
    (Nat.one_mul _).symm
  rw [Decimal.toNumber_eq_nearest hne (by omega) (by omega), hnum, hden,
    nearest_scaled _ _ (Decimal.powTen_pos _), nearest_exact _ exact]

theorem toNumber_shortest {units : Nat} (hu : 0 < units) (exact : Exact units) :
    (shortest units exact).toNumber false = .finite units exact := by
  rw [shortest, Decimal.stripped, Decimal.toNumber_stripZeros]
  cases hf : List.find? (fun d : Decimal => decide (d.toNumber false = .finite units exact))
      ((List.range 17).flatMap fun i => neighbours units (i + 1)) with
  | some d => simpa using List.find?_some hf
  | none => exact toNumber_exactDecimal hu exact

theorem unsignedDecimal?_toDigits (negative : Bool) (n : Nat) :
    unsignedDecimal? negative (Nat.toDigits 10 n) = some (Decimal.toNumber negative ⟨n, 0⟩) := by
  have h := read_whole negative (show Nat.toDigits 10 n ≠ [] from Nat.toDigits_ne_nil)
    (fun c => isDigit_of_mem_toDigits) 0
  rwa [List.replicate_zero, List.append_nil, decimalValue_toDigits] at h

theorem toNumber_whole {n : Nat} (h : n < Nat.pow 2 53) (exact : Exact (n * scale : Nat)) :
    Decimal.toNumber false ⟨n, 0⟩ = .finite (n * scale : Nat) exact := by
  rw [← nearest_exact _ exact]
  rcases Nat.eq_zero_or_pos n with rfl | hn
  · rw [Decimal.toNumber_of_out (.inl rfl), zero_eq, ← nearest_exact]
    generalize scale = s
    rw [Nat.zero_mul]
    rfl
  have hlen : Decimal.length n ≤ 16 :=
    (Decimal.length_le_iff (by decide)).mpr (Nat.lt_trans h (by decide))
  have hp : Decimal.places ⟨n, 0⟩ = Decimal.length n := Int.add_zero _
  rw [Decimal.toNumber_eq_nearest (by dsimp only; omega) (by omega) (by omega)]
  generalize scale = s
  simp [Decimal.sign, Decimal.powTen_zero]

theorem numeral?_signed {u : Int} {exact : Exact u} {cs : List Char} {d : Decimal}
    (hr : ∀ negative, unsignedDecimal? negative cs = some (d.toNumber negative))
    (hd : d.toNumber false = .finite u.natAbs (exact.of_natAbs_eq rfl)) :
    numeral? (if u < 0 then '-' :: cs else cs) = some (.finite u exact) := by
  by_cases hu : u < 0
  · rw [if_pos hu, numeral?_minus, hr, Decimal.toNumber_true, hd]
    change some (Number.finite (-(u.natAbs : Int)) _) = _
    congr 2
    omega
  · rw [if_neg hu, numeral?_of_unsigned (hr false), hd]
    congr 2
    omega

theorem toList_intText (m : Int) :
    (toString m).toList =
      if m < 0 then '-' :: Nat.toDigits 10 m.natAbs else Nat.toDigits 10 m.natAbs := by
  rw [Int.toString_eq_repr, Int.repr_eq_if]
  by_cases h : m < 0
  · rw [if_neg (by omega), if_pos h, String.toList_append, Nat.toList_repr,
      show (-m).toNat = m.natAbs by omega]
    rfl
  · rw [if_pos (by omega), if_neg h, Nat.toList_repr, show m.toNat = m.natAbs by omega]

private theorem mul_neg_iff_neg {s m : Int} (hs : 0 < s) : s * m < 0 ↔ m < 0 := by
  refine ⟨fun h => Int.not_le.mp fun hm => ?_, fun h => Int.mul_neg_of_pos_of_neg hs h⟩
  exact absurd h (Int.not_lt.mpr (Int.mul_nonneg (Int.le_of_lt hs) hm))

section Text

variable {units : Int} {exact : Exact units}

theorem numeral?_text_of_whole
    (h : (scale : Int) ∣ units ∧ (units / scale).natAbs < Nat.pow 2 53) :
    numeral? (text (.finite units exact)).toList = some (.finite units exact) := by
  have ht : text (.finite units exact) = toString (units / scale) := if_pos h
  have hs : (0 : Int) < scale := Int.natCast_pos.mpr scale_pos
  obtain ⟨m, hm⟩ := h.1
  have hdiv : units / scale = m := by rw [hm, Int.mul_ediv_cancel_left _ (by omega)]
  have habs : units.natAbs = m.natAbs * scale := by
    rw [hm, Int.natAbs_mul, Int.natAbs_natCast, Nat.mul_comm]
  have hneg : m < 0 ↔ units < 0 := by rw [hm, mul_neg_iff_neg hs]
  rw [ht, hdiv, toList_intText]
  simp only [hneg]
  refine numeral?_signed (fun negative => unsignedDecimal?_toDigits negative m.natAbs) ?_
  simp only [habs]
  exact toNumber_whole (hdiv ▸ h.2) _

theorem numeral?_text_of_not_whole
    (h : ¬ ((scale : Int) ∣ units ∧ (units / scale).natAbs < Nat.pow 2 53)) :
    numeral? (text (.finite units exact)).toList = some (.finite units exact) := by
  have ht : text (.finite units exact) =
      if units < 0 then "-" ++ (shortest units.natAbs (exact.of_natAbs_eq rfl)).layout
      else (shortest units.natAbs (exact.of_natAbs_eq rfl)).layout := if_neg h
  have hu : 0 < units.natAbs := by
    refine Nat.pos_of_ne_zero fun h0 => h ?_
    rw [Int.natAbs_eq_zero.mp h0]
    refine ⟨Int.dvd_zero _, ?_⟩
    rw [Int.zero_ediv]
    decide
  have key := @numeral?_signed units exact _ _
    (fun negative => unsignedDecimal?_layout negative _) (toNumber_shortest hu _)
  rw [ht]
  by_cases hn : units < 0
  · rw [if_pos hn] at key ⊢
    rw [String.toList_append]
    exact key
  · rw [if_neg hn] at key ⊢
    exact key

end Text

theorem numeral?_text {n : Number} (h : n ≠ .undefined) : numeral? n.text.toList = some n := by
  cases n with
  | undefined => exact absurd rfl h
  | infinite negative => cases negative <;> rfl
  | finite units exact =>
    by_cases hw : (scale : Int) ∣ units ∧ (units / scale).natAbs < Nat.pow 2 53
    · exact numeral?_text_of_whole hw
    · exact numeral?_text_of_not_whole hw

theorem text_injective {m n : Number} (h : m.text = n.text) : m = n := by
  have undefined_text : numeral? (Number.text .undefined).toList = none := rfl
  by_cases hm : m = .undefined <;> by_cases hn : n = .undefined
  · rw [hm, hn]
  · have := numeral?_text hn
    rw [← h, hm, undefined_text] at this
    cases this
  · have := numeral?_text hm
    rw [h, hn, undefined_text] at this
    cases this
  · have := numeral?_text hm
    rw [h, numeral?_text hn] at this
    exact (Option.some.inj this).symm

def IsNumeric (c : Char) : Prop := c.isAlphanum = true ∨ c ∈ ['.', '+', '-']

instance (c : Char) : Decidable (IsNumeric c) := inferInstanceAs (Decidable (_ ∨ _))

theorem isNumeric_of_mem_toDigits {n : Nat} {c : Char} (h : c ∈ Nat.toDigits 10 n) :
    IsNumeric c := by
  have digit : c.isDigit = true := Nat.isDigit_of_mem_toDigits (by decide) (by decide) h
  left
  simp [Char.isAlphanum, digit]

theorem isNumeric_of_mem_zeros {k : Nat} {c : Char} (h : c ∈ List.replicate k '0') :
    IsNumeric c := by
  rw [List.eq_of_mem_replicate h]
  decide

theorem isNumeric_of_mem_layout {d : Decimal} {c : Char} (h : c ∈ d.layout.toList) :
    IsNumeric c := by
  have digits : ∀ x ∈ Nat.toDigits 10 d.digits, IsNumeric x := fun _ => isNumeric_of_mem_toDigits
  unfold Decimal.layout at h
  dsimp only at h
  generalize Nat.toDigits 10 d.digits = ds at digits h
  split at h
  · rw [String.toList_ofList, List.mem_append] at h
    rcases h with whole | zero
    · exact digits c whole
    · exact isNumeric_of_mem_zeros zero
  split at h
  · rw [String.toList_ofList, List.mem_append, List.mem_cons] at h
    rcases h with whole | rfl | fraction
    · exact digits c (List.mem_of_mem_take whole)
    · decide
    · exact digits c (List.mem_of_mem_drop fraction)
  split at h
  · rw [String.toList_ofList] at h
    simp only [List.cons_append, List.mem_cons, List.mem_append] at h
    rcases h with rfl | rfl | zero | fraction
    · decide
    · decide
    · exact isNumeric_of_mem_zeros zero
    · exact digits c fraction
  · rw [String.toList_ofList] at h
    simp only [List.mem_append, List.mem_cons] at h
    rcases h with ((first | fraction) | rfl | sign) | power
    · exact digits c (List.mem_of_mem_take first)
    · split at fraction
      · cases fraction
      · rcases List.mem_cons.mp fraction with rfl | later
        · decide
        · exact digits c (List.mem_of_mem_drop later)
    · decide
    · split at sign <;>
        obtain rfl := List.mem_singleton.mp sign <;>
        decide
    · exact isNumeric_of_mem_toDigits power

theorem isNumeric_of_mem_text {n : Number} {c : Char} (h : c ∈ n.text.toList) :
    IsNumeric c := by
  cases n with
  | undefined =>
    have all : (text .undefined).toList.all (fun x => decide (IsNumeric x)) = true := by decide
    exact of_decide_eq_true (List.all_eq_true.mp all c h)
  | infinite negative =>
    have all : (text (.infinite negative)).toList.all (fun x => decide (IsNumeric x)) = true := by
      cases negative <;> decide
    exact of_decide_eq_true (List.all_eq_true.mp all c h)
  | finite units exact =>
    unfold text at h
    dsimp only at h
    split at h
    · rw [toList_intText] at h
      split at h
      · rcases List.mem_cons.mp h with rfl | digit
        · decide
        · exact isNumeric_of_mem_toDigits digit
      · exact isNumeric_of_mem_toDigits h
    · split at h
      · rw [String.toList_append, List.mem_append] at h
        rcases h with sign | layout
        · obtain rfl : c = '-' := by simpa using sign
          decide
        · exact isNumeric_of_mem_layout layout
      · exact isNumeric_of_mem_layout h

end Number
end SafetyBoard
