import SafetyBoard.Inbox.Script
import SafetyBoard.Proofs.Inbox.Draining

/-!
# Scripted desks

The inbox of scripted messages is the inbox of a desk. What a message posts, and what its messages
post in turn, is counted by its weight, so a turn makes what waits lighter, and a scripted draining
ends within as many turns as the queue weighs. Reporting a calm message cannot fail.
-/

namespace SafetyBoard.Inbox

def scriptedDesk (reporting : Reporting) : Desk Run Letter Unit where
  gate := Run.gate
  box := Run.box
  setBox box r := { r with box }
  handler l := do
    modify (Run.note fun r => .handling l.id r.held r.pending)
    actAll l.body
  followUp l _ :=
    match l.followUp with
    | none => pure ()
    | some actions => do
      modify (Run.note fun r => .following l.id r.held r.pending)
      actAll actions
  onError := Letter.report reporting
  drained := id
  turns := Run.turns
  box_setBox _ _ := rfl
  held_setBox _ _ := rfl
  box_setHeld _ _ := rfl
  held_setHeld _ _ := rfl
  box_drained _ := rfl
  held_drained _ := rfl

theorem scriptedDesk_inbox (reporting : Reporting) :
    (scriptedDesk reporting).inbox = scripted reporting := rfl

def Action.isFail : Action → Bool
  | .fail _ => true
  | .post .. | .enter | .look => false

mutual

/-- An action that posts, now or later, only messages whose reports do not fail. -/
def Action.calm : Action → Bool
  | .post _ body followUp onFault =>
    calmAll body && calmAll? followUp && calmAll onFault && onFault.all (!·.isFail)
  | .enter | .fail _ | .look => true

def calmAll : List Action → Bool
  | [] => true
  | a :: rest => a.calm && calmAll rest

def calmAll? : Option (List Action) → Bool
  | none => true
  | some actions => calmAll actions

end

/-- A message whose report does not fail, and which posts only such messages. -/
structure Letter.Calm (l : Letter) : Prop where
  body : calmAll l.body = true
  followUp : calmAll? l.followUp = true
  onFault : calmAll l.onFault = true
  unfailing : l.onFault.all (!·.isFail) = true

@[simp]
theorem totalWeight_append (letters more : List Letter) :
    totalWeight (letters ++ more) = totalWeight letters + totalWeight more := by
  induction letters with
  | nil => simp [totalWeight]
  | cons l rest ih =>
    change l.weight + totalWeight (rest ++ more) = l.weight + totalWeight rest + _
    omega

variable {reporting : Reporting} {α β : Type}

/-- While the mailbox is draining, calm messages join it that weigh no more than this. -/
def Adds (reporting : Reporting) (n : Nat) (s t : Run) : Prop :=
  s.box.draining = true →
    ∃ posts, (scriptedDesk reporting).Grown Letter.Calm s posts t ∧ totalWeight posts ≤ n

def Adding (reporting : Reporting) (n : Nat) (act : Act Run α) : Prop :=
  Act.Moves (Adds reporting n) act

section Adding

variable {n m : Nat} {s t u : Run}

theorem Adds.trans (first : Adds reporting n s t) (next : Adds reporting m t u) :
    Adds reporting (n + m) s u := by
  intro draining
  obtain ⟨posts, grown, light⟩ := first draining
  obtain ⟨more, further, lighter⟩ := next grown.draining
  refine ⟨posts ++ more, grown.trans further, ?_⟩
  rw [totalWeight_append]
  omega

theorem Adds.mono (h : Adds reporting n s t) (le : n ≤ m) : Adds reporting m s t := by
  intro draining
  obtain ⟨posts, grown, light⟩ := h draining
  exact ⟨posts, grown, Nat.le_trans light le⟩

theorem Adds.of_same (box : t.box = s.box) (held : t.held = s.held) : Adds reporting 0 s t := by
  intro draining
  refine ⟨[], ⟨?_, held, fun _ h => absurd h List.not_mem_nil⟩, Nat.le_refl 0⟩
  change t.box = ⟨s.box.queue ++ [], true⟩
  rw [box, List.append_nil, ← draining]

theorem Adds.posts (h : Adds reporting n s t) : (scriptedDesk reporting).Posts Letter.Calm s t := by
  intro draining
  obtain ⟨posts, grown, -⟩ := h draining
  exact ⟨posts, grown⟩

theorem Adding.posts {act : Act Run α} (h : Adding reporting n act) :
    Act.Moves ((scriptedDesk reporting).Posts Letter.Calm) act := fun s => (h s).posts

theorem adding_pure (a : α) : Adding reporting 0 (pure a) := fun _ => Adds.of_same rfl rfl

theorem adding_note (f : Run → Trace) : Adding reporting 0 (modify (Run.note f)) :=
  fun _ => Adds.of_same rfl rfl

theorem adding_bind {act : Act Run α} (h : Adding reporting n act) {next : α → Act Run β}
    (k : ∀ a, Adding reporting m (next a)) : Adding reporting (n + m) (act >>= next) := by
  intro s
  have first := h s
  rcases ran : act.run s with ⟨_ | a, t⟩
  · rw [Act.run_bind_error ran]
    rw [ran] at first
    exact first.mono (by omega)
  · rw [Act.run_bind_ok ran]
    rw [ran] at first
    exact first.trans (k a t)

theorem adding_tryCatch {act : Act Run α} (h : Adding reporting n act)
    {handler : Fault → Act Run α} (k : ∀ f, Adding reporting m (handler f)) :
    Adding reporting (n + m) (tryCatch act handler) := by
  intro s
  have first := h s
  rcases ran : act.run s with ⟨f | a, t⟩
  · rw [Act.run_tryCatch_error ran]
    rw [ran] at first
    exact first.trans (k f t)
  · rw [Act.run_tryCatch_ok ran]
    rw [ran] at first
    exact first.mono (by omega)

theorem adding_gate {body : Act Run α} (h : Adding reporting n body) :
    Adding reporting n (Run.gate.run body) := by
  intro s
  by_cases held : s.held = true
  · rw [Gate.run_of_held Run.gate body held]
    exact (Adds.of_same rfl rfl).mono (Nat.zero_le n)
  · have free : s.held = false := by simpa using held
    have inside := h (Run.gate.setHeld true s)
    rcases ran : body.run (Run.gate.setHeld true s) with ⟨result, t⟩
    rw [ran] at inside
    rw [Gate.run_of_ran Run.gate body free ran]
    intro draining
    obtain ⟨posts, grown, light⟩ := inside draining
    exact ⟨posts, ⟨grown.box, free.symm, grown.may⟩, light⟩

end Adding

theorem adding_after_note {n : Nat} (f : Run → Trace) {act : Act Run α}
    (h : Adding reporting n act) :
    Adding reporting n (modify (Run.note f) >>= fun _ => act) := by
  have added := adding_bind (adding_note f) fun _ => h
  rwa [Nat.zero_add] at added

theorem adding_act {a : Action} (calm : a.calm = true) : Adding reporting a.weight a.act := by
  cases a with
  | post id body followUp onFault =>
    simp only [Action.calm, Bool.and_eq_true] at calm
    obtain ⟨⟨⟨body_calm, follow_calm⟩, fault_calm⟩, unfailing⟩ := calm
    refine adding_bind (n := Letter.weight ⟨id, body, followUp, onFault⟩) ?_
      fun _ => adding_note _
    intro s draining
    refine ⟨[⟨id, body, followUp, onFault⟩], ⟨?_, rfl, ?_⟩, Nat.le_refl _⟩
    · change s.box.push _ = ⟨s.box.queue ++ _, true⟩
      rw [← draining]
      rfl
    · intro l among
      obtain rfl := List.mem_singleton.mp among
      exact ⟨body_calm, follow_calm, fault_calm, unfailing⟩
  | enter => exact adding_gate (adding_note _)
  | fail message => exact fun _ => Adds.of_same rfl rfl
  | look => exact adding_note _

theorem adding_actAll {actions : List Action} (calm : calmAll actions = true) :
    Adding reporting (weights actions) (actAll actions) := by
  induction actions with
  | nil => exact adding_pure _
  | cons a rest ih =>
    rw [calmAll, Bool.and_eq_true] at calm
    exact adding_bind (adding_act calm.1) fun _ => ih calm.2

variable {l : Letter}

theorem adding_handler (calm : l.Calm) :
    Adding reporting (weights l.body) ((scriptedDesk reporting).handler l) :=
  adding_after_note _ (adding_actAll calm.body)

theorem adding_followUp (calm : l.Calm) (wanted : Unit) :
    Adding reporting (weights? l.followUp) ((scriptedDesk reporting).followUp l wanted) := by
  obtain ⟨id, body, followUp, onFault⟩ := l
  cases followUp with
  | none => exact adding_pure _
  | some actions => exact adding_after_note _ (adding_actAll calm.followUp)

theorem adding_report (calm : l.Calm) (f : Fault) :
    Adding reporting (weights l.onFault) (l.report reporting f) := by
  cases reporting with
  | silent => exact fun s => (adding_pure () s).mono (Nat.zero_le _)
  | scripted => exact adding_after_note _ (adding_actAll calm.onFault)
  | failing =>
    have added : Adding .failing 0 (l.report .failing f) :=
      adding_bind (adding_note _) fun _ _ => Adds.of_same rfl rfl
    exact fun s => (added s).mono (Nat.zero_le _)

theorem adding_turn (calm : l.Calm) :
    Adding reporting (l.weight - 1) ((scripted reporting).turn l) := by
  have handled : Adding reporting (weights l.body + weights? l.followUp)
      ((scripted reporting).handle l) :=
    adding_bind (adding_gate (adding_handler calm)) (adding_followUp calm)
  have weight : l.weight - 1 = weights l.body + weights? l.followUp + weights l.onFault := by
    rw [Letter.weight]
    omega
  rw [weight]
  exact adding_tryCatch handled (adding_report calm)

/-- So a draining of calm messages ends, within the turns that its queue weighs. -/
theorem ends_within (n : Nat) (s : Run) (draining : s.box.draining = true)
    (calm : ∀ l ∈ s.box.queue, l.Calm) (light : totalWeight s.box.queue ≤ n) :
    ((scripted reporting).advance^[n] s).box.queue = [] := by
  induction n generalizing s with
  | zero =>
    rcases queue : s.box.queue with _ | ⟨l, rest⟩
    · exact queue
    · rw [queue] at light
      change 1 + weights l.body + _ + _ + totalWeight rest ≤ 0 at light
      omega
  | succ n ih =>
    rw [Function.iterate_succ_apply]
    rcases queue : s.box.queue with _ | ⟨l, rest⟩
    · rw [advance_of_empty (scripted reporting) queue]
      exact ih s draining calm (by rw [queue]; exact Nat.zero_le n)
    · rw [queue] at calm light
      have turn : Adding reporting (l.weight - 1) ((scripted reporting).turn l) :=
        adding_turn (calm l List.mem_cons_self)
      obtain ⟨posts, grown, lighter⟩ :=
        turn ((scripted reporting).change ({ · with queue := rest }) s) draining
      have box : ((scripted reporting).advance s).box = ⟨rest ++ posts, true⟩ := by
        rw [advance_of_queue (scripted reporting) queue]
        exact grown.box
      refine ih _ (by rw [box]) ?_ ?_
      · rw [box]
        intro other waits
        rcases List.mem_append.mp waits with earlier | posted
        · exact calm other (List.mem_cons_of_mem _ earlier)
        · exact grown.may other posted
      · have heavy : 0 < l.weight := by
          rw [Letter.weight]
          omega
        change l.weight + totalWeight rest ≤ n + 1 at light
        rw [box, totalWeight_append]
        omega

theorem run_actAll_of_unfailing {actions : List Action}
    (unfailing : actions.all (!·.isFail) = true) {s : Run} (free : s.held = false) :
    ∃ t, (actAll actions).run s = (.ok (), t) ∧ t.held = false := by
  induction actions generalizing s with
  | nil => exact ⟨s, rfl, free⟩
  | cons a rest ih =>
    rw [List.all_cons, Bool.and_eq_true] at unfailing
    obtain ⟨t, ran, after⟩ : ∃ t, a.act.run s = (.ok (), t) ∧ t.held = false := by
      cases a with
      | post id body followUp onFault => exact ⟨_, rfl, free⟩
      | enter => exact ⟨_, Gate.run_of_ran Run.gate _ free (Act.run_modify _ _), rfl⟩
      | fail message => simp [Action.isFail] at unfailing
      | look => exact ⟨_, rfl, free⟩
    obtain ⟨u, went_on, freed⟩ := ih unfailing.2 after
    exact ⟨u, (Act.run_bind_ok ran _).trans went_on, freed⟩

/-- Unless its reports are made to fail, a scripted desk obliges its inbox. -/
theorem scriptedDesk_obliging (reports : reporting ≠ .failing) :
    (scriptedDesk reporting).Obliging Letter.Calm where
  handler _ calm := (adding_handler calm).posts
  followUp _ wanted calm := (adding_followUp calm wanted).posts
  onError f _ calm := (adding_report calm f).posts
  onError_ok f l calm s _ free := by
    cases reporting with
    | silent => rfl
    | scripted =>
      have noted : (Run.note (fun r => .reported l.id f r.held) s).held = false := free
      obtain ⟨t, ran, -⟩ := run_actAll_of_unfailing calm.unfailing noted
      have told : (l.report .scripted f).run s = (.ok (), t) :=
        (Act.run_bind_ok (Act.run_modify _ s) fun _ => actAll l.onFault).trans ran
      exact congrArg Prod.fst told
    | failing => exact absurd rfl reports
  enough s calm _ := by
    have light : totalWeight s.box.queue ≤ s.turns := Nat.le_refl _
    exact ends_within s.turns ((scripted reporting).setDraining true s) rfl calm light

end SafetyBoard.Inbox
