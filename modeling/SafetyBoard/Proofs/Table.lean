import Mathlib.Data.List.Induction
import SafetyBoard.Table

/-!
What is in a table: looking up a key finds a pair exactly when the pair is among the entries, and a
table is filled again from its entries. Where a list that fills a table repeats a key, the key
stands where it first occurs, with what is written last. What holds of every value goes on to hold
when values are dropped, and when one is written of which it holds. Where values stand under names
of their own, dropping some values drops just the look-ups of their names.
-/

namespace SafetyBoard.Table

variable {κ α : Type} [DecidableEq κ]

theorem mem_of_find? {k : κ} {v : α} {es : List (κ × α)} (h : find? k es = some v) :
    (k, v) ∈ es := by
  induction es with
  | nil => cases h
  | cons e rest ih =>
    rw [find?] at h
    split at h
    · next hk =>
      cases h
      subst hk
      exact List.mem_cons_self
    · exact List.mem_cons_of_mem _ (ih h)

theorem find?_of_mem {k : κ} {v : α} {es : List (κ × α)} (nodup : (es.map Prod.fst).Nodup)
    (h : (k, v) ∈ es) : find? k es = some v := by
  induction es with
  | nil => cases h
  | cons e rest ih =>
    rw [List.map_cons, List.nodup_cons] at nodup
    rcases List.mem_cons.mp h with rfl | h
    · exact if_pos rfl
    · have hk : e.1 ≠ k := by
        rintro rfl
        exact nodup.1 (List.mem_map.mpr ⟨(e.1, v), h, rfl⟩)
      rw [find?, if_neg hk]
      exact ih nodup.2 h

theorem get?_eq_some_iff {t : Table κ α} {k : κ} {v : α} :
    t.get? k = some v ↔ (k, v) ∈ t.entries :=
  ⟨mem_of_find?, find?_of_mem t.nodup_keys⟩

theorem isEmpty_iff {t : Table κ α} : t.isEmpty = true ↔ ∀ k, t.get? k = none := by
  rw [isEmpty, List.isEmpty_iff]
  constructor
  · intro h k
    rw [get?, h]
    rfl
  · intro h
    apply List.eq_nil_iff_forall_not_mem.mpr
    rintro ⟨k, v⟩ hm
    have := get?_eq_some_iff.mpr hm
    rw [h k] at this
    cases this

theorem mem_values_iff {t : Table κ α} {v : α} : v ∈ t.values ↔ ∃ k, t.get? k = some v := by
  simp only [values, List.mem_map, get?_eq_some_iff]
  constructor
  · rintro ⟨⟨k, v⟩, hm, rfl⟩
    exact ⟨k, hm⟩
  · rintro ⟨k, hm⟩
    exact ⟨(k, v), hm, rfl⟩

theorem get?_mapValues {β : Type} (t : Table κ α) (f : α → β) (k : κ) :
    (t.mapValues f).get? k = (t.get? k).map f := by
  have mapped (es : List (κ × α)) :
      find? k (es.map fun e => (e.1, f e.2)) = (find? k es).map f := by
    induction es with
    | nil => rfl
    | cons e rest ih =>
      rw [List.map_cons, find?, find?, ih]
      split <;> rfl
  exact mapped t.entries

theorem contains_insert (t : Table κ α) (k : κ) (v : α) (k' : κ) :
    (t.insert k v).contains k' = (decide (k = k') || t.contains k') := by
  rw [contains, contains, get?_insert]
  by_cases h : k = k' <;> simp [h]

theorem contains_erase (t : Table κ α) (k k' : κ) :
    (t.erase k).contains k' = (decide (k ≠ k') && t.contains k') := by
  rw [contains, contains, get?_erase]
  by_cases h : k = k' <;> simp [h]

theorem mem_of_get?_foldl {es : List (κ × α)} {t : Table κ α} {k : κ} {v : α}
    (found : (es.foldl (fun t e => t.insert e.1 e.2) t).get? k = some v) :
    (k, v) ∈ es ∨ t.get? k = some v := by
  induction es generalizing t with
  | nil => exact Or.inr found
  | cons e rest ih =>
    rcases ih found with later | before
    · exact Or.inl (List.mem_cons_of_mem _ later)
    · rw [get?_insert] at before
      split at before
      · next same =>
        cases before
        cases same
        exact Or.inl List.mem_cons_self
      · exact Or.inr before

theorem mem_of_get?_ofList {es : List (κ × α)} {k : κ} {v : α}
    (found : (ofList es).get? k = some v) : (k, v) ∈ es :=
  (mem_of_get?_foldl found).resolve_right nofun

theorem put_of_not_mem {k : κ} {es : List (κ × α)} (h : k ∉ es.map Prod.fst) (v : α) :
    put k v es = es ++ [(k, v)] := by
  induction es with
  | nil => rfl
  | cons e rest ih =>
    rw [List.map_cons, List.mem_cons, not_or] at h
    rw [put, if_neg (Ne.symm h.1), ih h.2, List.cons_append]

theorem entries_foldl {es : List (κ × α)} {t : Table κ α}
    (nodup : ((t.entries ++ es).map Prod.fst).Nodup) :
    (es.foldl (fun t e => t.insert e.1 e.2) t).entries = t.entries ++ es := by
  induction es generalizing t with
  | nil => exact (List.append_nil _).symm
  | cons e rest ih =>
    have absent : e.1 ∉ t.entries.map Prod.fst := by
      intro member
      rw [List.map_append, List.map_cons, List.nodup_append] at nodup
      exact nodup.2.2 e.1 member e.1 List.mem_cons_self rfl
    have written : (t.insert e.1 e.2).entries = t.entries ++ [e] := put_of_not_mem absent e.2
    rw [List.foldl_cons, ih, written, List.append_assoc, List.singleton_append]
    rwa [written, List.append_assoc, List.singleton_append]

omit [DecidableEq κ] in
theorem eq_of_entries {t t' : Table κ α} (same : t.entries = t'.entries) : t = t' := by
  obtain ⟨entries, nodup⟩ := t
  obtain ⟨entries', nodup'⟩ := t'
  obtain rfl : entries = entries' := same
  rfl

theorem ofList_entries (t : Table κ α) : ofList t.entries = t :=
  eq_of_entries ((entries_foldl (t := ∅) t.nodup_keys).trans (List.nil_append _))

theorem erase_of_absent {t : Table κ α} {k : κ} (absent : t.get? k = none) : t.erase k = t := by
  refine eq_of_entries (List.filter_eq_self.mpr fun e member => decide_eq_true ?_)
  intro same
  rw [get?_eq_some_iff.mpr (show (k, e.2) ∈ t.entries from same ▸ member)] at absent
  cases absent

theorem insert_of_get? {t : Table κ α} {k : κ} {v : α} (found : t.get? k = some v) :
    t.insert k v = t := by
  have written (es : List (κ × α)) (found : find? k es = some v) : put k v es = es := by
    induction es with
    | nil => cases found
    | cons e rest ih =>
      rw [find?] at found
      rw [put]
      split at found
      · next same =>
        cases found
        rw [if_pos same, ← same]
      · next other => rw [if_neg other, ih found]
  exact eq_of_entries (written t.entries found)

theorem ofList_append_singleton (es : List (κ × α)) (e : κ × α) :
    ofList (es ++ [e]) = (ofList es).insert e.1 e.2 :=
  List.foldl_append

theorem keys_ofList (es : List (κ × α)) : (ofList es).keys = (es.map Prod.fst).eraseDups := by
  induction es using List.reverseRecOn with
  | nil => rfl
  | append_singleton es e ih =>
    rw [ofList_append_singleton, keys_insert, ih, List.map_append, List.eraseDups_append,
      List.map_singleton]
    by_cases known : e.1 ∈ es.map Prod.fst
    · simp [known, List.removeAll]
    · simp [known, List.removeAll, List.eraseDups_cons]

theorem get?_ofList (es : List (κ × α)) (k : κ) : (ofList es).get? k = find? k es.reverse := by
  induction es using List.reverseRecOn with
  | nil => rfl
  | append_singleton es e ih =>
    rw [ofList_append_singleton, get?_insert, ih, List.reverse_append, List.reverse_singleton,
      List.singleton_append, find?]

theorem get?_ofList_of_last {k : κ} {later : List (κ × α)} (last : k ∉ later.map Prod.fst)
    (earlier : List (κ × α)) (v : α) :
    (ofList (earlier ++ (k, v) :: later)).get? k = some v := by
  induction later using List.reverseRecOn with
  | nil =>
    rw [ofList_append_singleton, get?_insert, if_pos rfl]
  | append_singleton later e ih =>
    rw [List.map_append, List.mem_append, not_or, List.map_singleton, List.mem_singleton] at last
    rw [← List.cons_append, ← List.append_assoc, ofList_append_singleton, get?_insert,
      if_neg (Ne.symm last.2), ih last.1]

def Every (P : κ → α → Prop) (t : Table κ α) : Prop := ∀ k v, t.get? k = some v → P k v

section Every

variable {P : κ → α → Prop} {t : Table κ α}

theorem every_empty (P : κ → α → Prop) : (∅ : Table κ α).Every P := nofun

theorem Every.insert (h : t.Every P) {k : κ} {v : α} (written : P k v) :
    (t.insert k v).Every P := by
  intro k' w found
  rw [get?_insert] at found
  split at found
  · next same =>
    cases found
    exact same ▸ written
  · exact h k' w found

theorem Every.filter (h : t.Every P) (p : κ → α → Bool) : (t.filter p).Every P := by
  intro k v found
  rw [get?_filter, Option.filter_eq_some_iff] at found
  exact h k v found.1

end Every

def NamedBy (name : α → κ) (t : Table κ α) : Prop := ∀ k v, t.get? k = some v → k = name v

section Named

variable {name : α → κ} {t : Table κ α}

theorem find?_map_name (name : α → κ) (k : κ) (vs : List α) :
    find? k (vs.map fun v => (name v, v)) = vs.find? (name · = k) := by
  induction vs with
  | nil => rfl
  | cons v rest ih =>
    rw [List.map_cons, find?, List.find?_cons, ih]
    by_cases same : name v = k
    · rw [if_pos same, decide_eq_true same]
    · rw [if_neg same, decide_eq_false same]

theorem namedBy_empty (name : α → κ) : (∅ : Table κ α).NamedBy name := every_empty _

theorem NamedBy.insert (h : t.NamedBy name) (v : α) : (t.insert (name v) v).NamedBy name :=
  Every.insert h rfl

theorem NamedBy.filter (h : t.NamedBy name) (p : κ → α → Bool) : (t.filter p).NamedBy name :=
  Every.filter h p

theorem NamedBy.mapValues {β : Type} {name' : β → κ} {f : α → β} (h : t.NamedBy name)
    (kept : ∀ v, name' (f v) = name v) : (t.mapValues f).NamedBy name' := by
  intro k w found
  rw [get?_mapValues, Option.map_eq_some_iff] at found
  obtain ⟨v, found, rfl⟩ := found
  exact (h k v found).trans (kept v).symm

theorem NamedBy.erase (h : t.NamedBy name) (k : κ) : (t.erase k).NamedBy name := h.filter _

theorem NamedBy.map_values (h : t.NamedBy name) : t.values.map name = t.keys := by
  rw [values, keys, List.map_map]
  refine List.map_congr_left fun e member => ?_
  exact (h e.1 e.2 (get?_eq_some_iff.mpr member)).symm

theorem NamedBy.mem_values_iff (h : t.NamedBy name) (injective : name.Injective) {v : α} :
    v ∈ t.values ↔ t.contains (name v) = true := by
  rw [Table.mem_values_iff, contains, Option.isSome_iff_exists]
  constructor
  · rintro ⟨k, found⟩
    exact ⟨v, h k v found ▸ found⟩
  · rintro ⟨w, found⟩
    exact ⟨name v, injective (h _ w found) ▸ found⟩

variable {ι : Type} {encode : ι → κ} {key : α → ι}

theorem NamedBy.key_eq (h : t.NamedBy fun v => encode (key v)) (injective : encode.Injective)
    {i : ι} {v : α} (found : t.get? (encode i) = some v) : key v = i :=
  (injective (h _ _ found)).symm

theorem NamedBy.get?_filter (h : t.NamedBy fun v => encode (key v)) (injective : encode.Injective)
    (p : ι → Bool) (i : ι) :
    (t.filter fun _ v => p (key v)).get? (encode i) =
      if p i then t.get? (encode i) else none := by
  rw [Table.get?_filter]
  cases found : t.get? (encode i) with
  | none => simp
  | some v =>
    rw [Option.filter_some, h.key_eq injective found]

theorem NamedBy.contains_filter (h : t.NamedBy fun v => encode (key v))
    (injective : encode.Injective) (p : ι → Bool) (i : ι) :
    (t.filter fun _ v => p (key v)).contains (encode i) = (p i && t.contains (encode i)) := by
  rw [contains, contains, h.get?_filter injective]
  cases p i <;> rfl

end Named

end SafetyBoard.Table
