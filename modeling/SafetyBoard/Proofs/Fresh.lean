import Mathlib.Data.List.Nodup
import Mathlib.Tactic.Tauto

/-!
# Ids that were not seen before

A check for repeated ids goes through a list and remembers what it has seen. It finds nothing
exactly if no id of the list is used twice and none was seen before.
-/

namespace SafetyBoard

variable {ι : Type}

def Fresh (seen ids : List ι) : Prop := ids.Nodup ∧ ∀ id ∈ ids, id ∉ seen

theorem fresh_nil {ids : List ι} : Fresh [] ids ↔ ids.Nodup :=
  and_iff_left fun _ _ => List.not_mem_nil

theorem fresh_append {seen first rest : List ι} :
    Fresh seen (first ++ rest) ↔ Fresh seen first ∧ Fresh (first.reverse ++ seen) rest := by
  have apart : (∀ a ∈ first, ∀ b ∈ rest, a ≠ b) ↔ ∀ id ∈ rest, id ∉ first :=
    ⟨fun apart id inRest inFirst => apart id inFirst id inRest rfl,
      fun apart a inFirst b inRest same => apart b inRest (same ▸ inFirst)⟩
  have unseen : (∀ id ∈ rest, id ∉ first.reverse ++ seen) ↔
      (∀ id ∈ rest, id ∉ first) ∧ ∀ id ∈ rest, id ∉ seen := by
    simp only [List.mem_append, List.mem_reverse, not_or, forall_and]
  rw [Fresh, Fresh, Fresh, List.nodup_append, List.forall_mem_append, apart, unseen]
  tauto

theorem fresh_cons {seen rest : List ι} {id : ι} :
    Fresh seen (id :: rest) ↔ id ∉ seen ∧ Fresh (id :: seen) rest := by
  rw [← List.singleton_append, fresh_append]
  simp [Fresh]

end SafetyBoard
