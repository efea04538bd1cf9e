import SafetyBoard.Inbox

/-!
# How a computation moves the state

A computation moves along a relation if every run of it takes the state along the relation, whether
the run fails or not. Relations that can be composed are kept by sequencing, by catching and by
going through a list. Two computations agree along a relation if they give the same and end in
related states; sequencing, catching and going through a list keep that as well. A computation that
is sure never fails, and one that fails along a relation is only bound to it by the runs that fail.
-/

namespace SafetyBoard.Act

variable {σ α β : Type}

section Run

variable {act : Act σ α} {s t : σ}

@[simp]
theorem run_pure (a : α) (s : σ) : (pure a : Act σ α).run s = (.ok a, s) := rfl

@[simp]
theorem run_throw (f : Fault) (s : σ) : (throw f : Act σ α).run s = (.error f, s) := rfl

@[simp]
theorem run_get (s : σ) : (get : Act σ σ).run s = (.ok s, s) := rfl

@[simp]
theorem run_modify (f : σ → σ) (s : σ) : (modify f : Act σ Unit).run s = (.ok (), f s) := rfl

theorem run_bind_ok {a : α} (h : act.run s = (.ok a, t)) (next : α → Act σ β) :
    (act >>= next).run s = (next a).run t := by
  change (ExceptT.bindCont next (act.run s).1 : StateM σ _) (act.run s).2 = _
  rw [h]
  rfl

theorem run_bind_error {f : Fault} (h : act.run s = (.error f, t)) (next : α → Act σ β) :
    (act >>= next).run s = (.error f, t) := by
  change (ExceptT.bindCont next (act.run s).1 : StateM σ _) (act.run s).2 = _
  rw [h]
  rfl

theorem run_bind_congr {act' : Act σ α} (h : act.run s = act'.run t) (next : α → Act σ β) :
    (act >>= next).run s = (act' >>= next).run t := by
  change (ExceptT.bindCont next (act.run s).1 : StateM σ _) (act.run s).2 = _
  rw [h]
  rfl

theorem run_map (act : Act σ α) (f : α → β) (s : σ) :
    (f <$> act).run s = ((act.run s).1.map f, (act.run s).2) := by
  rw [← bind_pure_comp]
  rcases ran : act.run s with ⟨fault | a, t⟩
  · exact run_bind_error ran _
  · exact run_bind_ok ran _

theorem run_map_ok {a : α} (h : act.run s = (.ok a, t)) (f : α → β) :
    (f <$> act).run s = (.ok (f a), t) := by
  rw [← bind_pure_comp]
  exact run_bind_ok h _

theorem run_bind_eq_ok {next : α → Act σ β} {b : β} (h : (act >>= next).run s = (.ok b, t)) :
    ∃ a u, act.run s = (.ok a, u) ∧ (next a).run u = (.ok b, t) := by
  rcases ran : act.run s with ⟨f | a, u⟩
  · cases (run_bind_error ran next).symm.trans h
  · exact ⟨a, u, rfl, (run_bind_ok ran next).symm.trans h⟩

theorem run_map_eq_ok {f : α → β} {b : β} (h : (f <$> act).run s = (.ok b, t)) :
    ∃ a, act.run s = (.ok a, t) ∧ f a = b := by
  rw [← bind_pure_comp] at h
  obtain ⟨a, u, ran, given⟩ := run_bind_eq_ok h
  cases given
  exact ⟨a, ran, rfl⟩

theorem run_tryCatch_ok {a : α} (h : act.run s = (.ok a, t)) (handler : Fault → Act σ α) :
    (tryCatch act handler).run s = (.ok a, t) := by
  change act s = _ at h
  change (ExceptT.tryCatch act handler) s = _
  simp only [ExceptT.tryCatch, ExceptT.mk, bind, StateT.bind, h]
  rfl

theorem run_tryCatch_error {f : Fault} (h : act.run s = (.error f, t))
    (handler : Fault → Act σ α) : (tryCatch act handler).run s = (handler f).run t := by
  change act s = _ at h
  change (ExceptT.tryCatch act handler) s = _
  simp only [ExceptT.tryCatch, ExceptT.mk, bind, StateT.bind, h]
  rfl

end Run

def Moves (R : σ → σ → Prop) (act : Act σ α) : Prop := ∀ s, R s (act.run s).2

section Moves

variable {R : σ → σ → Prop} (refl : ∀ s, R s s) (trans : ∀ s t u, R s t → R t u → R s u)

section

include refl

theorem moves_pure (a : α) : Moves R (pure a : Act σ α) := refl

theorem moves_throw (f : Fault) : Moves R (throw f : Act σ α) := refl

theorem moves_get : Moves R (get : Act σ σ) := refl

end

include trans

theorem moves_bind_at {act : Act σ α} {s : σ} (first : R s (act.run s).2) {next : α → Act σ β}
    (k : ∀ a, Moves R (next a)) : R s ((act >>= next).run s).2 := by
  rcases ran : act.run s with ⟨_ | a, t⟩
  · rw [run_bind_error ran]
    rw [ran] at first
    exact first
  · rw [run_bind_ok ran]
    rw [ran] at first
    exact trans _ _ _ first (k a t)

theorem moves_bind {act : Act σ α} (h : Moves R act) {next : α → Act σ β}
    (k : ∀ a, Moves R (next a)) : Moves R (act >>= next) :=
  fun s => moves_bind_at trans (h s) k

theorem moves_tryCatch {act : Act σ α} (h : Moves R act) {handler : Fault → Act σ α}
    (k : ∀ f, Moves R (handler f)) : Moves R (tryCatch act handler) := by
  intro s
  have first := h s
  rcases ran : act.run s with ⟨f | a, t⟩
  · rw [run_tryCatch_error ran]
    rw [ran] at first
    exact trans _ _ _ first (k f t)
  · rw [run_tryCatch_ok ran]
    rw [ran] at first
    exact first

include refl

theorem moves_forM {as : List α} {f : α → Act σ PUnit} (h : ∀ a ∈ as, Moves R (f a)) :
    Moves R (as.forM f) := by
  induction as with
  | nil => exact moves_pure refl _
  | cons a rest ih =>
    change Moves R (f a >>= fun _ => rest.forM f)
    refine moves_bind trans (h a List.mem_cons_self) fun _ => ih fun b hb => ?_
    exact h b (List.mem_cons_of_mem _ hb)

theorem moves_map {act : Act σ α} (h : Moves R act) (f : α → β) : Moves R (f <$> act) := by
  rw [← bind_pure_comp]
  exact moves_bind trans h fun a => moves_pure refl (f a)

end Moves

/-- The computations give the same from these states, a result or a failure, and end in related
ones. -/
def Agree (R : σ → σ → Prop) (act act' : Act σ α) (s s' : σ) : Prop :=
  (act.run s).1 = (act'.run s').1 ∧ R (act.run s).2 (act'.run s').2

section Agree

variable {R : σ → σ → Prop} {act act' : Act σ α} {s s' : σ}

theorem agree_pure (a : α) (h : R s s') : Agree R (pure a) (pure a) s s' := ⟨rfl, h⟩

theorem Agree.cases (h : Agree R act act' s s') :
    (∃ a t t', act.run s = (.ok a, t) ∧ act'.run s' = (.ok a, t') ∧ R t t') ∨
      ∃ f t t', act.run s = (.error f, t) ∧ act'.run s' = (.error f, t') ∧ R t t' := by
  obtain ⟨same, ends⟩ := h
  rcases ran : act.run s with ⟨f | a, t⟩
  · rw [ran] at same ends
    exact Or.inr ⟨f, t, (act'.run s').2, rfl, Prod.ext same.symm rfl, ends⟩
  · rw [ran] at same ends
    exact Or.inl ⟨a, t, (act'.run s').2, rfl, Prod.ext same.symm rfl, ends⟩

theorem agree_bind (h : Agree R act act' s s') {next next' : α → Act σ β}
    (k : ∀ a t t', R t t' → Agree R (next a) (next' a) t t') :
    Agree R (act >>= next) (act' >>= next') s s' := by
  rcases h.cases with ⟨a, t, t', ran, ran', ends⟩ | ⟨f, t, t', ran, ran', ends⟩
  · rw [Agree, run_bind_ok ran, run_bind_ok ran']
    exact k a t t' ends
  · rw [Agree, run_bind_error ran, run_bind_error ran']
    exact ⟨rfl, ends⟩

theorem agree_tryCatch (h : Agree R act act' s s') {handler handler' : Fault → Act σ α}
    (k : ∀ f t t', R t t' → Agree R (handler f) (handler' f) t t') :
    Agree R (tryCatch act handler) (tryCatch act' handler') s s' := by
  rcases h.cases with ⟨a, t, t', ran, ran', ends⟩ | ⟨f, t, t', ran, ran', ends⟩
  · rw [Agree, run_tryCatch_ok ran, run_tryCatch_ok ran']
    exact ⟨rfl, ends⟩
  · rw [Agree, run_tryCatch_error ran, run_tryCatch_error ran']
    exact k f t t' ends

theorem agree_forM {as : List α} {f : α → Act σ PUnit} (r : R s s')
    (h : ∀ a ∈ as, ∀ t t', R t t' → Agree R (f a) (f a) t t') :
    Agree R (as.forM f) (as.forM f) s s' := by
  induction as generalizing s s' with
  | nil => exact agree_pure _ r
  | cons a rest ih =>
    change Agree R (f a >>= fun _ => rest.forM f) (f a >>= fun _ => rest.forM f) s s'
    refine agree_bind (h a List.mem_cons_self s s' r) fun _ t t' r => ih r fun b hb => ?_
    exact h b (List.mem_cons_of_mem _ hb)

theorem agree_map (h : Agree R act act' s s') (f : α → β) :
    Agree R (f <$> act) (f <$> act') s s' := by
  rw [← bind_pure_comp, ← bind_pure_comp]
  exact agree_bind h fun a _ _ r => agree_pure (f a) r

end Agree

def Sure (act : Act σ α) : Prop := ∀ s, ∃ a t, act.run s = (.ok a, t)

section Sure

theorem sure_pure (a : α) : Sure (pure a : Act σ α) := fun s => ⟨a, s, rfl⟩

theorem sure_get : Sure (get : Act σ σ) := fun s => ⟨s, s, rfl⟩

theorem sure_bind {act : Act σ α} (h : Sure act) {next : α → Act σ β} (k : ∀ a, Sure (next a)) :
    Sure (act >>= next) := by
  intro s
  obtain ⟨a, t, ran⟩ := h s
  rw [run_bind_ok ran]
  exact k a t

theorem sure_tryCatch {act : Act σ α} {handler : Fault → Act σ α} (k : ∀ f, Sure (handler f)) :
    Sure (tryCatch act handler) := by
  intro s
  rcases ran : act.run s with ⟨f | a, t⟩
  · rw [run_tryCatch_error ran]
    exact k f t
  · exact ⟨a, t, run_tryCatch_ok ran handler⟩

theorem sure_forM {as : List α} {f : α → Act σ PUnit} (h : ∀ a, Sure (f a)) :
    Sure (as.forM f) := by
  induction as with
  | nil => exact sure_pure _
  | cons a rest ih =>
    change Sure (f a >>= fun _ => rest.forM f)
    exact sure_bind (h a) fun _ => ih

end Sure

/-- The runs that fail move along the relation that their fault gives. -/
def Fails (R : Fault → σ → σ → Prop) (act : Act σ α) : Prop :=
  ∀ s f t, act.run s = (.error f, t) → R f s t

section Fails

variable {R : Fault → σ → σ → Prop} {act : Act σ α}

theorem Sure.fails (h : Sure act) : Fails R act := by
  intro s f t failed
  obtain ⟨a, u, ran⟩ := h s
  cases ran.symm.trans failed

theorem fails_throw {f : Fault} (refl : ∀ s, R f s s) : Fails R (throw f : Act σ α) := by
  intro s g t failed
  cases (run_throw f s).symm.trans failed
  exact refl s

theorem fails_bind (h : Fails R act) {next : α → Act σ β} (k : ∀ a, Sure (next a)) :
    Fails R (act >>= next) := by
  intro s f t failed
  rcases ran : act.run s with ⟨g | a, u⟩
  · cases (run_bind_error ran next).symm.trans failed
    exact h s _ _ ran
  · obtain ⟨b, v, went_on⟩ := k a u
    cases ((run_bind_ok ran next).trans went_on).symm.trans failed

theorem fails_map (h : Fails R act) (f : α → β) : Fails R (f <$> act) := by
  rw [← bind_pure_comp]
  exact fails_bind h fun a => sure_pure (f a)

end Fails

end SafetyBoard.Act
