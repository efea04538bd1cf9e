import Mathlib.Data.Set.Lattice
import Mathlib.Order.CompletePartialOrder
import SafetyBoard.Keys
import SafetyBoard.Proofs.Number.Counting
import SafetyBoard.Proofs.Text.Percent

/-!
Different keys have different encoded forms, whatever characters a source chose: an encoded part
holds no separator, so a key splits in one way only. Nor does the text of a user, so the separators
that stand in an identifier say what it identifies. The key of an issue reads back from its encoded
form if its user has an id that is written in digits; behind a minus sign it does not.
-/

namespace SafetyBoard

theorem Number.equals_iff {a b : Number} : a.equals b = true ↔ a = b ∧ a ≠ .undefined := by
  simp [equals]

theorem Number.equals_of_defined {a b : Number} (defined : b ≠ .undefined) :
    a.equals b = decide (a = b) := by
  rw [Bool.eq_iff_iff, equals_iff, decide_eq_true_iff, and_iff_left_iff_imp]
  rintro rfl
  exact defined

theorem Number.nearest_defined (num : Int) (den : Nat) : nearest num den ≠ .undefined := by
  rw [nearest]
  split <;> split <;> simp only [ne_eq, reduceCtorEq, not_false_eq_true]

theorem Number.ofInt_defined (n : Int) : ofInt n ≠ .undefined := nearest_defined _ _

theorem SourceKey.same_iff {k l : SourceKey} :
    k.same l = true ↔ k = l ∧ k.userId ≠ .undefined := by
  obtain ⟨source, user⟩ := k
  obtain ⟨source', user'⟩ := l
  rw [same, Bool.and_eq_true, decide_eq_true_iff, Number.equals_iff, SourceKey.mk.injEq, and_assoc]

theorem SourceKey.same_of_defined {k l : SourceKey} (defined : l.userId ≠ .undefined) :
    k.same l = decide (k = l) := by
  rw [Bool.eq_iff_iff, same_iff, decide_eq_true_iff, and_iff_left_iff_imp]
  rintro rfl
  exact defined

theorem SourceKey.same_of_ne {k l : SourceKey} (other : k ≠ l) : k.same l = false :=
  Bool.eq_false_iff.mpr fun same => other (same_iff.mp same).1

theorem encodePart_injective {s t : String} (h : encodePart s = encodePart t) : s = t := by
  rw [encodePart, encodePart, String.ofList_inj] at h
  exact String.toList_inj.mp (Text.Percent.encode_injective h)

theorem not_mem_encodePart {c : Char} (h : c ∈ ['@', '/', '#', ':']) (s : String) :
    c ∉ (encodePart s).toList := by
  rw [encodePart, String.toList_ofList]
  simp only [List.mem_cons, List.not_mem_nil, or_false] at h
  rcases h with rfl | rfl | rfl | rfl <;>
    exact Text.Percent.not_mem_encode (by decide) (by decide) (by decide) _

theorem splitFirst?_append {c : Char} {front : List Char} (h : c ∉ front) (rest : List Char) :
    splitFirst? c (front ++ c :: rest) = some (front, rest) := by
  have hf : ∀ x ∈ front, (decide (x ≠ c)) = true := by
    intro x hx
    exact decide_eq_true (ne_of_mem_of_not_mem hx h)
  unfold splitFirst?
  rw [List.takeWhile_append_of_pos hf, List.dropWhile_append_of_pos hf]
  simp

theorem splitLast?_append {c : Char} {rest : List Char} (h : c ∉ rest) (front : List Char) :
    splitLast? c (front ++ c :: rest) = some (front, rest) := by
  have hr : ∀ x ∈ rest.reverse, (decide (x ≠ c)) = true := by
    intro x hx
    exact decide_eq_true (ne_of_mem_of_not_mem (List.mem_reverse.mp hx) h)
  unfold splitLast?
  rw [List.reverse_append, List.reverse_cons, List.append_assoc, List.singleton_append,
    List.takeWhile_append_of_pos hr, List.dropWhile_append_of_pos hr]
  simp

private theorem split_first {c : Char} {a b r t : List Char} (ha : c ∉ a) (hb : c ∉ b)
    (h : a ++ c :: r = b ++ c :: t) : a = b ∧ r = t := by
  have e := splitFirst?_append ha r
  rw [h, splitFirst?_append hb] at e
  simpa [eq_comm] using e

private theorem split_last {c : Char} {a b r t : List Char} (hr : c ∉ r) (ht : c ∉ t)
    (h : a ++ c :: r = b ++ c :: t) : a = b ∧ r = t := by
  have e := splitLast?_append hr a
  rw [h, splitLast?_append ht] at e
  simpa [eq_comm] using e

theorem SourceKey.toList_encode (k : SourceKey) :
    k.encode.toList = (encodePart k.sourceId).toList ++ '@' :: k.userId.text.toList := by
  simp [encode, String.toList_append]

theorem IssueKey.toList_encode (k : IssueKey) :
    k.encode.toList = (encodePart k.sourceId).toList ++ '/' ::
      ((encodePart k.issueId).toList ++ '@' :: k.userId.text.toList) := by
  simp [encode, String.toList_append]

theorem ActionKey.toList_encode (k : ActionKey) :
    k.encode.toList = k.issue.encode.toList ++ '#' :: (encodePart k.actionId).toList := by
  simp [encode, String.toList_append]

theorem SourceKey.encode_injective {k l : SourceKey} (h : k.encode = l.encode) : k = l := by
  have hl := congrArg String.toList h
  rw [toList_encode, toList_encode] at hl
  obtain ⟨hs, hu⟩ := split_first (not_mem_encodePart (by simp) _)
    (not_mem_encodePart (by simp) _) hl
  obtain ⟨s, u⟩ := k
  obtain ⟨s', u'⟩ := l
  rw [SourceKey.mk.injEq]
  exact ⟨encodePart_injective (String.toList_inj.mp hs),
    Number.text_injective (String.toList_inj.mp hu)⟩

theorem IssueKey.encode_injective {k l : IssueKey} (h : k.encode = l.encode) : k = l := by
  have hl := congrArg String.toList h
  rw [toList_encode, toList_encode] at hl
  obtain ⟨hs, hl⟩ := split_first (not_mem_encodePart (by simp) _)
    (not_mem_encodePart (by simp) _) hl
  obtain ⟨hi, hu⟩ := split_first (not_mem_encodePart (by simp) _)
    (not_mem_encodePart (by simp) _) hl
  obtain ⟨s, i, u⟩ := k
  obtain ⟨s', i', u'⟩ := l
  rw [IssueKey.mk.injEq]
  exact ⟨encodePart_injective (String.toList_inj.mp hs),
    encodePart_injective (String.toList_inj.mp hi),
    Number.text_injective (String.toList_inj.mp hu)⟩

theorem ActionKey.encode_injective {k l : ActionKey} (h : k.encode = l.encode) : k = l := by
  have hl := congrArg String.toList h
  rw [toList_encode, toList_encode] at hl
  obtain ⟨hi, ha⟩ := split_last (not_mem_encodePart (by simp) _)
    (not_mem_encodePart (by simp) _) hl
  obtain ⟨i, a⟩ := k
  obtain ⟨i', a'⟩ := l
  rw [ActionKey.mk.injEq]
  exact ⟨IssueKey.encode_injective (String.toList_inj.mp hi),
    encodePart_injective (String.toList_inj.mp ha)⟩

theorem encodeGroupId_injective {g g' : String} (h : encodeGroupId g = encodeGroupId g') :
    g = g' := by
  rw [encodeGroupId, encodeGroupId, String.append_right_inj] at h
  exact encodePart_injective h

def separators (text : String) : List Char := text.toList.filter (· ∈ ['@', '/', '#', ':'])

theorem separators_append (s t : String) : separators (s ++ t) = separators s ++ separators t := by
  rw [separators, String.toList_append, List.filter_append]
  rfl

theorem separators_eq_nil {text : String}
    (none : ∀ c ∈ ['@', '/', '#', ':'], c ∉ text.toList) : separators text = [] := by
  rw [separators, List.filter_eq_nil_iff]
  intro c member separates
  exact none c (of_decide_eq_true separates) member

theorem separators_encodePart (s : String) : separators (encodePart s) = [] :=
  separators_eq_nil fun _ separates => not_mem_encodePart separates s

/-- The text of a user has no separator in it, whatever number the user is. -/
theorem separators_text (user : UserId) : separators user.text = [] := by
  apply separators_eq_nil
  intro c separates member
  have numeric := Number.isNumeric_of_mem_text member
  simp only [List.mem_cons, List.not_mem_nil, or_false] at separates
  rcases separates with rfl | rfl | rfl | rfl <;>
    exact absurd numeric (by decide)

theorem SourceKey.separators_encode (k : SourceKey) : separators k.encode = ['@'] := by
  rw [encode, separators_append, separators_append, separators_encodePart, separators_text]
  decide

theorem IssueKey.separators_encode (k : IssueKey) : separators k.encode = ['/', '@'] := by
  rw [encode, separators_append, separators_append, separators_append, separators_append,
    separators_encodePart, separators_encodePart, separators_text]
  decide

theorem ActionKey.separators_encode (k : ActionKey) : separators k.encode = ['/', '@', '#'] := by
  rw [encode, separators_append, separators_append, IssueKey.separators_encode,
    separators_encodePart]
  decide

theorem separators_encodeGroupId (id : String) : separators (encodeGroupId id) = [':'] := by
  rw [encodeGroupId, separators_append, separators_encodePart]
  decide

/-- Only the id of an entry has a user in it. -/
theorem encodeGroupId_ne (g : String) (key : SourceKey) : encodeGroupId g ≠ key.encode := by
  intro same
  have differ := congrArg separators same
  rw [separators_encodeGroupId, SourceKey.separators_encode] at differ
  exact absurd differ (by decide)

/-- Where the separators differ, so do the texts. -/
theorem disjoint_of_separators {α β : Type} {f : α → String} {g : β → String} {p q : List Char}
    (left : ∀ a, separators (f a) = p) (right : ∀ b, separators (g b) = q) (differ : p ≠ q) :
    Disjoint (Set.range f) (Set.range g) := by
  rw [Set.disjoint_left]
  rintro text ⟨a, rfl⟩ ⟨b, same⟩
  apply differ
  rw [← left a, ← right b, same]

/-- No two things have one identifier. Sources, issues, actions and groups are told from others of
their kind by the parts that were encoded, whatever characters stand in them and whatever number the
user is, and the kinds from one another by the separators. -/
theorem identifiers_told_apart :
    SourceKey.encode.Injective ∧ IssueKey.encode.Injective ∧ ActionKey.encode.Injective ∧
      encodeGroupId.Injective ∧
      [Set.range SourceKey.encode, Set.range IssueKey.encode, Set.range ActionKey.encode,
        Set.range encodeGroupId].Pairwise Disjoint := by
  refine ⟨fun _ _ => SourceKey.encode_injective, fun _ _ => IssueKey.encode_injective,
    fun _ _ => ActionKey.encode_injective, fun _ _ => encodeGroupId_injective, ?_⟩
  simp only [List.pairwise_cons, List.forall_mem_cons, List.not_mem_nil, false_imp_iff,
    implies_true, List.Pairwise.nil, and_true]
  have source := SourceKey.separators_encode
  have issue := IssueKey.separators_encode
  have action := ActionKey.separators_encode
  have group := separators_encodeGroupId
  refine ⟨⟨?_, ?_, ?_⟩, ⟨?_, ?_⟩, ?_⟩
  · exact disjoint_of_separators source issue (by decide)
  · exact disjoint_of_separators source action (by decide)
  · exact disjoint_of_separators source group (by decide)
  · exact disjoint_of_separators issue action (by decide)
  · exact disjoint_of_separators issue group (by decide)
  · exact disjoint_of_separators action group (by decide)

/-- A user whose id is a count small enough to be written in digits, and digits only. -/
def UserId.Numbered (user : UserId) : Prop := ∃ n, n < 2 ^ 53 ∧ user = .ofNat n

theorem decode_encodePart (s : String) :
    Text.Percent.decode (encodePart s).toList = some s.toList := by
  rw [encodePart, String.toList_ofList, Text.Percent.decode_encode]

/-- The user is read from what stands behind the last `@`, and the ids of the source come back as
they were. -/
theorem IssueKey.decode?_encode_eq {k : IssueKey} (last : '@' ∉ k.userId.text.toList) :
    decode? k.encode =
      (Number.ofDigits? k.userId.text.toList).map (⟨k.sourceId, k.issueId, ·⟩) := by
  have text : k.encode.toList = ((encodePart k.sourceId).toList ++ '/' ::
      (encodePart k.issueId).toList) ++ '@' :: k.userId.text.toList := by
    rw [toList_encode, List.append_assoc, List.cons_append]
  simp only [decode?, text, splitLast?_append last,
    splitFirst?_append (not_mem_encodePart (c := '/') (by simp) _), decode_encodePart,
    Option.bind_eq_bind, Option.bind_some, String.ofList_toList]
  cases Number.ofDigits? k.userId.text.toList <;> rfl

/-- A user with a whole number for an id is read back unless the number is negative. -/
theorem IssueKey.decode?_encode_whole {k : IssueKey} {i : Int} (small : i.natAbs < 2 ^ 53)
    (user : k.userId = .ofInt i) : decode? k.encode = if i < 0 then none else some k := by
  have digits : '@' ∉ Nat.toDigits 10 i.natAbs := by
    intro member
    exact absurd (Number.isDigit_of_mem_toDigits member) (by decide)
  have text := Number.toList_text_ofInt small
  rw [← user] at text
  by_cases negative : i < 0
  · rw [if_pos negative] at text ⊢
    have last : '@' ∉ k.userId.text.toList := by
      rw [text]
      simp [digits]
    rw [decode?_encode_eq last, text, Number.ofDigits?_minus]
    rfl
  · obtain ⟨n, rfl⟩ := Int.eq_ofNat_of_zero_le (Int.not_lt.mp negative)
    rw [if_neg negative] at text ⊢
    have read : Number.ofDigits? k.userId.text.toList = some k.userId := by
      rw [user]
      exact Number.ofDigits?_text_ofNat small
    rw [decode?_encode_eq (text ▸ digits), read]
    rfl

theorem IssueKey.decode?_encode {k : IssueKey} (numbered : k.userId.Numbered) :
    decode? k.encode = some k := by
  obtain ⟨n, small, user⟩ := numbered
  have natural : ¬(n : Int) < 0 := by omega
  rw [decode?_encode_whole (i := n) small user, if_neg natural]

end SafetyBoard
