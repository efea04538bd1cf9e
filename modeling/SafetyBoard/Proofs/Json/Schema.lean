import Mathlib.Data.List.Forall2
import Mathlib.Data.List.Nodup
import SafetyBoard.Json.Schema

/-!
# What a reader accepts, and what it makes of what was written

A reader and a writer fit each other over a property: only values with the property are read, and
each of these is read from what is written for it. The laws here build such a pair the way readers
are built, part by part. A reader of members gives a value exactly if each of its parts does; and
a member is read back from an object of parts, as long as no two parts have one name.
-/

namespace SafetyBoard

namespace Checked

variable {α β : Type}

def Gives (c : Checked α) (P : α → Prop) : Prop := ∃ a, c = .good a ∧ P a

theorem eq_good_iff {c : Checked α} {a : α} : c = .good a ↔ c.Gives (· = a) := by
  constructor
  · exact fun good => ⟨a, good, rfl⟩
  · rintro ⟨_, good, rfl⟩
    exact good

theorem gives_map {f : α → β} {x : Checked α} {P : β → Prop} :
    (f <$> x).Gives P ↔ x.Gives fun a => P (f a) := by
  constructor
  · rintro ⟨_, given, holds⟩
    cases x with
    | good a =>
      cases given
      exact ⟨a, rfl, holds⟩
    | bad first more => cases given
  · rintro ⟨a, rfl, holds⟩
    exact ⟨f a, rfl, holds⟩

theorem gives_seq {f : Checked (α → β)} {x : Checked α} {P : β → Prop} :
    (f <*> x).Gives P ↔ f.Gives fun g => x.Gives fun a => P (g a) := by
  constructor
  · rintro ⟨_, given, holds⟩
    cases f with
    | good g =>
      cases x with
      | good a =>
        cases given
        exact ⟨g, rfl, a, rfl, holds⟩
      | bad first more => cases given
    | bad first more => cases given
  · rintro ⟨g, rfl, a, rfl, holds⟩
    exact ⟨g a, rfl, holds⟩

theorem inside_eq_good {step : String} {c : Checked α} {a : α} :
    c.inside step = .good a ↔ c = .good a := by
  cases c with
  | good _ => exact Iff.rfl
  | bad _ _ => exact ⟨nofun, nofun⟩

end Checked

namespace Reader

variable {α : Type} {read : Reader α} {P : α → Prop} {write : α → Json}

/-- What is read has the property, and what has the property is read back as it was written. -/
structure Reads (read : Reader α) (P : α → Prop) (write : α → Json) : Prop where
  sound {j : Json} {a : α} : read j = .good a → P a
  back {a : α} : P a → read (write a) = .good a

theorem reads_text : text.Reads (· ≠ "") .string where
  sound {j a} read := by
    rw [text.eq_def] at read
    split at read
    · split at read
      · cases read
      · next filled =>
        cases read
        exact filled
    · cases read
  back {a} filled := if_neg filled

theorem reads_flag : flag.Reads (fun _ => True) .bool where
  sound _ := trivial
  back _ := rfl

theorem reads_choice {options : List α} {name : α → String}
    (distinct : (options.map name).Nodup) :
    (choice options name).Reads (· ∈ options) fun a => .string (name a) where
  sound {j a} read := by
    rw [choice.eq_def] at read
    split at read
    · split at read
      · next found =>
        cases read
        exact List.mem_of_find?_eq_some found
      · cases read
    · cases read
  back {a} option := by
    have found : (options.find? fun o => (name o : Text) = name a).isSome :=
      List.find?_isSome.mpr ⟨a, option, decide_eq_true rfl⟩
    obtain ⟨first, found⟩ := Option.isSome_iff_exists.mp found
    have same : name first = name a := by simpa using List.find?_some found
    have only : first = a :=
      List.inj_on_of_nodup_map distinct (List.mem_of_find?_eq_some found) option same
    rw [choice, found, only]

theorem reads_anyChoice {options : List α} {name : α → String} (every : ∀ a, a ∈ options)
    (distinct : (options.map name).Nodup) :
    (choice options name).Reads (fun _ => True) fun a => .string (name a) where
  sound _ := trivial
  back {a} _ := (reads_choice distinct).back (every a)

theorem elements_eq_good {i : Nat} {items : List Json} {as : List α} :
    elements read i items = .good as ↔ List.Forall₂ (fun j a => read j = .good a) items as := by
  induction items generalizing i as with
  | nil =>
    rw [List.forall₂_nil_left_iff]
    exact ⟨fun same => by cases same; rfl, fun none => by rw [none]; rfl⟩
  | cons j rest ih =>
    rw [elements, Checked.eq_good_iff, Checked.gives_seq, Checked.gives_map,
      List.forall₂_cons_left_iff]
    constructor
    · rintro ⟨a, first, others, more, rfl⟩
      exact ⟨a, others, Checked.inside_eq_good.mp first, ih.mp more, rfl⟩
    · rintro ⟨a, others, first, more, rfl⟩
      exact ⟨a, Checked.inside_eq_good.mpr first, others, ih.mpr more, rfl⟩

theorem Reads.list (reads : read.Reads P write) :
    (list read).Reads (fun as => ∀ a ∈ as, P a) fun as => .array (as.map write) where
  sound {j as} given := by
    rw [Reader.list.eq_def] at given
    split at given
    · have each := (elements_eq_good.mp given).flip.imp fun a j good =>
        And.intro (reads.sound good) good
      exact ((List.forall₂_and_left _ _).mp each).1
    · cases given
  back {as} holds := by
    refine elements_eq_good.mpr (List.forall₂_map_left_iff.mpr ?_)
    exact List.forall₂_same.mpr fun a member => reads.back (holds a member)

theorem Reads.nonemptyList (reads : read.Reads P write) :
    (nonemptyList read).Reads (fun as => as ≠ [] ∧ ∀ a ∈ as, P a)
      fun as => .array (as.map write) where
  sound {j as} given := by
    cases j with
    | array items =>
      cases items with
      | nil => cases given
      | cons first rest =>
        refine ⟨?_, reads.list.sound (j := .array (first :: rest)) given⟩
        rintro rfl
        cases List.forall₂_nil_right_iff.mp (elements_eq_good.mp given)
    | _ => cases given
  back {as} holds := by
    cases as with
    | nil => exact absurd rfl holds.1
    | cons a rest => exact reads.list.back holds.2

section Members

variable {name : String} {members : Members} {parts : List (Text × Option Json)}

theorem Reads.of_required (reads : read.Reads P write) {a : α}
    (given : required name read members = .good a) : P a := by
  rw [required, Checked.inside_eq_good] at given
  split at given
  · exact reads.sound given
  · cases given

theorem Reads.of_optional (reads : read.Reads P write) {value : Option α}
    (given : optional name read members = .good value) : ∀ a, value = some a → P a := by
  rintro a rfl
  rw [optional] at given
  split at given
  · rw [Checked.inside_eq_good, Checked.eq_good_iff] at given
    obtain ⟨_, good, same⟩ := Checked.gives_map.mp given
    cases same
    exact reads.sound good
  · cases given

theorem Reads.of_defaulted (reads : read.Reads P write) {a fallback : α} (default : P fallback)
    (given : defaulted name fallback read members = .good a) : P a := by
  rw [defaulted] at given
  split at given
  · exact reads.sound (Checked.inside_eq_good.mp given)
  · cases given
    exact default

def written (parts : List (Text × Option Json)) : Members :=
  parts.filterMap fun p => p.2.map fun v => (p.1, v)

theorem mem_names_of_mem_written {member : Text × Json} (written : member ∈ written parts) :
    member.1 ∈ parts.map Prod.fst := by
  obtain ⟨part, isPart, same⟩ := List.mem_filterMap.mp written
  obtain ⟨_, _, rfl⟩ := Option.map_eq_some_iff.mp same
  exact List.mem_map.mpr ⟨part, isPart, rfl⟩

theorem member?_written_of_not_mem {name : Text} (unnamed : name ∉ parts.map Prod.fst) :
    Json.member? (written parts) name = none := by
  refine List.lookup_eq_none_iff.mpr fun member isMember => ?_
  have other : name ≠ member.1 := by
    rintro rfl
    exact unnamed (mem_names_of_mem_written isMember)
  exact bne_iff_ne.mpr other

theorem member?_written {name : Text} {part : Option Json} (distinct : (parts.map Prod.fst).Nodup)
    (isPart : (name, part) ∈ parts) : Json.member? (written parts) name = part := by
  induction parts with
  | nil => cases isPart
  | cons first rest ih =>
    rw [List.map_cons, List.nodup_cons] at distinct
    obtain rfl | inRest := List.mem_cons.mp isPart
    · cases part with
      | some value => exact List.lookup_cons_self
      | none =>
        have absent : Json.member? (written rest) name = none :=
          member?_written_of_not_mem distinct.1
        exact absent
    · have other : name ≠ first.1 := by
        rintro rfl
        exact distinct.1 (List.mem_map.mpr ⟨_, inRest, rfl⟩)
      obtain ⟨n, _ | value⟩ := first
      · exact ih distinct.2 inRest
      · show ((n, value) :: written rest).lookup name = part
        rw [List.lookup_cons, beq_false_of_ne other]
        exact ih distinct.2 inRest

theorem Reads.required_written (reads : read.Reads P write) {a : α} (holds : P a)
    (distinct : (parts.map Prod.fst).Nodup) (isPart : ((name : Text), some (write a)) ∈ parts) :
    required name read (written parts) = .good a := by
  rw [required, member?_written distinct isPart, Checked.inside_eq_good]
  exact reads.back holds

theorem Reads.optional_written (reads : read.Reads P write) {value : Option α}
    (holds : ∀ a, value = some a → P a) (distinct : (parts.map Prod.fst).Nodup)
    (isPart : ((name : Text), value.map write) ∈ parts) :
    optional name read (written parts) = .good value := by
  rw [optional, member?_written distinct isPart]
  cases value with
  | none => rfl
  | some a =>
    dsimp only [Option.map_some]
    rw [reads.back (holds a rfl)]
    rfl

theorem Reads.defaulted_written (reads : read.Reads P write) {a fallback : α} (holds : P a)
    (distinct : (parts.map Prod.fst).Nodup) (isPart : ((name : Text), some (write a)) ∈ parts) :
    defaulted name fallback read (written parts) = .good a := by
  rw [defaulted, member?_written distinct isPart]
  exact Checked.inside_eq_good.mpr (reads.back holds)

theorem onlyMembers_written {known : List Text} (isKnown : parts.map Prod.fst ⊆ known) :
    onlyMembers known (written parts) = .good () := by
  have none : ((written parts).map Prod.fst).filter (fun n => !known.contains n) = [] := by
    refine List.filter_eq_nil_iff.mpr fun name member => ?_
    obtain ⟨member, isMember, rfl⟩ := List.mem_map.mp member
    simpa using isKnown (mem_names_of_mem_written isMember)
  rw [onlyMembers, none]

theorem reads_object {read : Members → Checked α} {parts : α → List (Text × Option Json)}
    (sound : ∀ members a, (read members).Gives (· = a) → P a)
    (back : ∀ a, P a → (read (written (parts a))).Gives (· = a)) :
    (object read).Reads P fun a => .ofParts (parts a) where
  sound {j a} given := by
    cases j with
    | object members => exact sound members a (Checked.eq_good_iff.mp given)
    | _ => cases given
  back {a} holds := Checked.eq_good_iff.mpr (back a holds)

end Members

end Reader

end SafetyBoard
