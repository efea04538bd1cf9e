import SafetyBoard.Text.Percent
import Mathlib.Tactic.SplitIfs

/-!
Reading undoes writing: octets of characters, and percent-encoded parts. An encoded part holds none
of the characters that identifiers are split at.
-/

namespace SafetyBoard.Text

namespace Utf8

theorem charOctets_lt (c : Char) : ∀ b ∈ charOctets c, b < 256 := by
  have h : c.toNat < 0x110000 := by
    rcases c.valid with h | h <;> simp only [Char.toNat] <;> omega
  intro b hb
  unfold charOctets at hb
  dsimp only at hb
  split_ifs at hb <;> simp at hb <;> omega

theorem decodeFrom_more (owed value least d : Nat) (rest : List Nat) (h : d < 64) :
    decodeFrom (owed + 2) value least ((0x80 + d) :: rest) =
      decodeFrom (owed + 1) (value * 64 + d) least rest := by
  rw [decodeFrom, if_pos (by omega)]
  simp

theorem decodeFrom_last (value least d : Nat) (rest : List Nat) (h : d < 64)
    (hl : least ≤ value * 64 + d) (hv : (value * 64 + d).isValidChar) :
    decodeFrom 1 value least ((0x80 + d) :: rest) =
      (decodeFrom 0 0 0 rest).map (Char.ofNat (value * 64 + d) :: ·) := by
  rw [decodeFrom, if_pos (by omega)]
  simp [hl, hv]

/-- Each character reads back from its octets, whatever follows them. -/
theorem decodeFrom_charOctets (c : Char) (rest : List Nat) :
    decodeFrom 0 0 0 (charOctets c ++ rest) = (decodeFrom 0 0 0 rest).map (c :: ·) := by
  have hv : c.toNat.isValidChar := c.valid
  have hlt : c.toNat < 0x110000 := by
    rcases hv with h | h <;> omega
  have hc : Char.ofNat c.toNat = c := Char.ofNat_toNat c
  generalize hn : c.toNat = n at hv hlt hc
  unfold charOctets
  rw [hn]
  dsimp only
  split_ifs with h1 h2 h3
  · simp [decodeFrom, h1, hc]
  · have e : n / 64 * 64 + n % 64 = n := by omega
    rw [List.cons_append, decodeFrom, if_neg (by omega), if_neg (by omega), if_pos (by omega),
      show 0xC0 + n / 64 - 0xC0 = n / 64 by omega, List.cons_append, List.nil_append,
      decodeFrom_last _ _ _ _ (by omega) (by omega) (by rwa [e]), e, hc]
  · have e : (n / 4096 * 64 + n / 64 % 64) * 64 + n % 64 = n := by omega
    rw [List.cons_append, decodeFrom, if_neg (by omega), if_neg (by omega), if_neg (by omega),
      if_pos (by omega), show 0xE0 + n / 4096 - 0xE0 = n / 4096 by omega, List.cons_append,
      decodeFrom_more _ _ _ _ _ (by omega), List.cons_append, List.nil_append,
      decodeFrom_last _ _ _ _ (by omega) (by omega) (by rwa [e]), e, hc]
  · have e : ((n / 262144 * 64 + n / 4096 % 64) * 64 + n / 64 % 64) * 64 + n % 64 = n := by omega
    rw [List.cons_append, decodeFrom, if_neg (by omega), if_neg (by omega), if_neg (by omega),
      if_neg (by omega), if_pos (by omega), show 0xF0 + n / 262144 - 0xF0 = n / 262144 by omega,
      List.cons_append, decodeFrom_more _ _ _ _ _ (by omega), List.cons_append,
      decodeFrom_more _ _ _ _ _ (by omega), List.cons_append, List.nil_append,
      decodeFrom_last _ _ _ _ (by omega) (by omega) (by rwa [e]), e, hc]

theorem decode_encode (s : List Char) : decode (encode s) = some s := by
  unfold decode
  induction s with
  | nil => rfl
  | cons c s ih =>
    rw [encode, List.flatMap_cons, decodeFrom_charOctets]
    rw [encode] at ih
    rw [ih]
    rfl

end Utf8

namespace Percent

theorem hexValue?_hexDigit : ∀ n < 16, hexValue? (hexDigit n) = some n := by decide

theorem octets?_octet (b : Nat) (hb : b < 256) (rest : List Char) :
    octets? (octet b ++ rest) = (octets? rest).map (b :: ·) := by
  have e : b / 16 * 16 + b % 16 = b := by omega
  simp [octet, octets?, hexValue?_hexDigit (b / 16) (by omega),
    hexValue?_hexDigit (b % 16) (by omega), e]

theorem octets?_escaped (bs : List Nat) (h : ∀ b ∈ bs, b < 256) (rest : List Char) :
    octets? (bs.flatMap octet ++ rest) = (octets? rest).map (bs ++ ·) := by
  induction bs with
  | nil => simp
  | cons b bs ih =>
    rw [List.flatMap_cons, List.append_assoc, octets?_octet b (h b List.mem_cons_self),
      ih fun x hx => h x (List.mem_cons_of_mem _ hx)]
    simp [Option.map_map, Function.comp_def]

theorem ne_percent_of_isPlain {c : Char} (h : isPlain c = true) : c ≠ '%' := by
  rintro rfl
  revert h
  decide

theorem octets?_plain (c : Char) (hc : c ≠ '%') (rest : List Char) :
    octets? (c :: rest) = (octets? rest).map (Utf8.charOctets c ++ ·) := by
  rw [octets?, if_neg hc]
  rintro high low tail rfl
  exact absurd rfl hc

theorem octets?_encodeChar (c : Char) (rest : List Char) :
    octets? (encodeChar c ++ rest) = (octets? rest).map (Utf8.charOctets c ++ ·) := by
  unfold encodeChar
  split
  · next h => exact octets?_plain c (ne_percent_of_isPlain h) rest
  · exact octets?_escaped _ (Utf8.charOctets_lt c) rest

theorem octets?_encode (s : List Char) : octets? (encode s) = some (Utf8.encode s) := by
  induction s with
  | nil => rfl
  | cons c s ih =>
    rw [encode, List.flatMap_cons, octets?_encodeChar, ← encode, ih]
    rfl

theorem decode_encode (s : List Char) : decode (encode s) = some s := by
  rw [decode, octets?_encode, Option.bind_some, Utf8.decode_encode]

theorem encode_injective {s t : List Char} (h : encode s = encode t) : s = t := by
  have e := congrArg decode h
  rwa [decode_encode, decode_encode, Option.some.injEq] at e

theorem not_mem_encode {c : Char} (hp : isPlain c = false) (hc : c ≠ '%')
    (hd : ∀ n < 16, c ≠ hexDigit n) (s : List Char) : c ∉ encode s := by
  intro h
  obtain ⟨d, -, h⟩ := List.mem_flatMap.mp h
  unfold encodeChar at h
  split at h
  · next hplain =>
    rw [List.mem_singleton] at h
    subst h
    rw [hp] at hplain
    cases hplain
  · obtain ⟨b, hb, h⟩ := List.mem_flatMap.mp h
    have hlt := Utf8.charOctets_lt d b hb
    simp only [octet, List.mem_cons, List.not_mem_nil, or_false] at h
    rcases h with h | h | h
    · exact hc h
    · exact hd _ (by omega) h
    · exact hd _ (by omega) h

end Percent
end SafetyBoard.Text
