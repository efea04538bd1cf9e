import SafetyBoard.Proofs.Json.Schema

/-!
# What a value means

What a JSON value means is told here by its form, part by part and without a reader: a text is meant
by a string that is not empty, a list by an array, element by element, and a record by the members of
an object. A member that may be left out means nothing, or a fallback, where it is missing; members
of other names mean nothing at all. A reader is exact if it gives what is meant, and only that.
-/

namespace SafetyBoard

open Reader (Members)

namespace Json

variable {α : Type}

def MeansText (j : Json) (s : Text) : Prop := j = .string s ∧ s ≠ ""

def MeansFlag (j : Json) (b : Bool) : Prop := j = .bool b

def MeansName (name : α → String) (may : α → Prop) (j : Json) (a : α) : Prop :=
  j = .string (name a) ∧ may a

def MeansList (means : Json → α → Prop) (j : Json) (as : List α) : Prop :=
  ∃ items, j = .array items ∧ List.Forall₂ means items as

def MeansRecord (means : Members → α → Prop) (j : Json) (a : α) : Prop :=
  ∃ members, j = .object members ∧ means members a

section Members

variable (means : Json → α → Prop) (name : String) (members : Members)

def MemberMeans (a : α) : Prop := ∃ j, member? members name = some j ∧ means j a

def MemberMayMean : Option α → Prop
  | none => member? members name = none
  | some a => MemberMeans means name members a

def MemberMeansOr (fallback a : α) : Prop :=
  MemberMeans means name members a ∨ member? members name = none ∧ a = fallback

end Members

end Json

namespace Reader

open Json

variable {α : Type} {read : Reader α} {means : Json → α → Prop}

def Exact (read : Reader α) (means : Json → α → Prop) : Prop := ∀ j a, read j = .good a ↔ means j a

theorem exact_text : text.Exact MeansText := by
  intro j s
  cases j with
  | string given =>
    rw [text, MeansText, Json.string.injEq]
    split
    · next empty =>
      refine iff_of_false nofun ?_
      rintro ⟨rfl, filled⟩
      exact filled empty
    · next filled =>
      rw [Checked.good.injEq]
      refine (and_iff_left_of_imp ?_).symm
      rintro rfl
      exact filled
  | _ => exact iff_of_false nofun fun meant => nomatch meant.1

theorem exact_flag : flag.Exact MeansFlag := by
  intro j b
  cases j with
  | bool given => rw [flag, MeansFlag, Checked.good.injEq, Json.bool.injEq]
  | _ => exact iff_of_false nofun nofun

theorem exact_choice {options : List α} {name : α → String} {may : α → Prop}
    (distinct : (options.map name).Nodup) (all : ∀ a, a ∈ options ↔ may a) :
    (choice options name).Exact (MeansName name may) := by
  intro j a
  constructor
  · intro given
    rw [choice.eq_def] at given
    split at given
    · next s =>
      split at given
      · next found =>
        cases given
        have named : name a = s := by simpa using List.find?_some found
        exact ⟨congrArg Json.string named.symm, (all a).mp (List.mem_of_find?_eq_some found)⟩
      · cases given
    · cases given
  · rintro ⟨rfl, allowed⟩
    exact (reads_choice distinct).back ((all a).mpr allowed)

theorem Exact.list (exact : read.Exact means) : (list read).Exact (MeansList means) := by
  intro j as
  cases j with
  | array items =>
    have each : (fun j a => read j = .good a) = means :=
      funext fun j => funext fun a => propext (exact j a)
    have given : Reader.list read (.array items) = .good as ↔ List.Forall₂ means items as :=
      each ▸ elements_eq_good
    rw [given]
    constructor
    · exact fun meant => ⟨items, rfl, meant⟩
    · rintro ⟨_, same, meant⟩
      cases same
      exact meant
  | _ =>
    refine iff_of_false nofun ?_
    rintro ⟨_, other, -⟩
    cases other

theorem exact_object {read : Members → Checked α} {means : Members → α → Prop}
    (exact : ∀ members a, (read members).Gives (· = a) ↔ means members a) :
    (object read).Exact (MeansRecord means) := by
  intro j a
  cases j with
  | object members =>
    have given : object read (.object members) = .good a ↔ means members a :=
      Checked.eq_good_iff.trans (exact members a)
    rw [given]
    constructor
    · exact fun meant => ⟨members, rfl, meant⟩
    · rintro ⟨_, same, meant⟩
      cases same
      exact meant
  | _ =>
    refine iff_of_false nofun ?_
    rintro ⟨_, other, -⟩
    cases other

section Members

variable {name : String} {members : Members}

theorem Exact.required (exact : read.Exact means) {a : α} :
    required name read members = .good a ↔ MemberMeans means name members a := by
  rw [Reader.required, Checked.inside_eq_good, MemberMeans]
  cases member? members name with
  | none => simp [Checked.fail]
  | some j => simp [exact j a]

theorem Exact.optional (exact : read.Exact means) {value : Option α} :
    optional name read members = .good value ↔ MemberMayMean means name members value := by
  have wrapped (j : Json) : ((read j).map some).inside name = .good value ↔
      ∃ a, means j a ∧ some a = value := by
    rw [Checked.inside_eq_good, Checked.eq_good_iff]
    refine (Checked.gives_map (f := some)).trans (exists_congr fun a => ?_)
    rw [exact]
  rw [Reader.optional]
  cases value with
  | none =>
    rw [MemberMayMean]
    cases member? members name with
    | none => exact iff_of_true rfl rfl
    | some j => exact (wrapped j).trans (by simp)
  | some a =>
    rw [MemberMayMean, MemberMeans]
    cases member? members name with
    | none => simp
    | some j => exact (wrapped j).trans (by simp)

theorem Exact.defaulted (exact : read.Exact means) {fallback a : α} :
    defaulted name fallback read members = .good a ↔
      MemberMeansOr means name members fallback a := by
  rw [Reader.defaulted, MemberMeansOr, MemberMeans]
  cases member? members name with
  | none => simp [eq_comm]
  | some j => simp [Checked.inside_eq_good, exact j a]

end Members

end Reader

end SafetyBoard
