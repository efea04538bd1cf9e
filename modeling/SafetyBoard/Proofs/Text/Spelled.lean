import Mathlib.Data.List.Basic
import SafetyBoard.Text.Basic

/-!
# Spelled texts

A text is spelled if it is some string. Of a list of texts the part before the first garbled one is
spelled; it is the whole list exactly if all texts are.
-/

namespace SafetyBoard.Text

theorem plain_injective : Function.Injective plain := fun _ _ same => by cases same; rfl

@[simp]
theorem spelled?_eq_some {t : Text} {s : String} : t.spelled? = some s ↔ t = s := by
  cases t with
  | plain => simp [spelled?]
  | garbled => simp [spelled?]

@[simp]
theorem isSpelled_plain (s : String) : (plain s).isSpelled = true := rfl

theorem isSpelled_iff {t : Text} : t.isSpelled = true ↔ ∃ s : String, t = s := by
  rw [isSpelled, Option.isSome_iff_exists]
  simp only [spelled?_eq_some]

theorem mem_spelledPrefix {ts : List Text} {s : String} (h : s ∈ spelledPrefix ts) :
    (s : Text) ∈ ts := by
  fun_induction spelledPrefix ts with
  | case1 first rest ih =>
    rcases List.mem_cons.mp h with rfl | later
    · exact List.mem_cons_self
    · exact List.mem_cons_of_mem _ (ih later)
  | case2 | case3 => cases h

theorem spelledPrefix_of_all {ts : List Text} (spelled : ts.all isSpelled = true) :
    (spelledPrefix ts).map plain = ts := by
  fun_induction spelledPrefix ts with
  | case1 first rest ih =>
    rw [List.map_cons, ih (by simpa using spelled)]
  | case2 => simp [isSpelled, Text.spelled?] at spelled
  | case3 => rfl

theorem mem_spelledPrefix_iff {ts : List Text} (spelled : ts.all isSpelled = true) {s : String} :
    s ∈ spelledPrefix ts ↔ (s : Text) ∈ ts := by
  refine ⟨mem_spelledPrefix, fun member => ?_⟩
  rw [← spelledPrefix_of_all spelled] at member
  exact (List.mem_map_of_injective plain_injective).mp member

theorem spelledPrefix_map (ss : List String) : spelledPrefix (ss.map plain) = ss := by
  induction ss with
  | nil => rfl
  | cons s rest ih => rw [List.map_cons, spelledPrefix, ih]

theorem all_isSpelled_map (ss : List String) : (ss.map plain).all isSpelled = true := by
  simp

end SafetyBoard.Text
