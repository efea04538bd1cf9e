import SafetyBoard.Gate.Program
import SafetyBoard.Proofs.Act

/-!
# Programs over one gate

A program enters the gate, looks whether it is held, does what does not concern it, fails and
catches, in any order and to any depth. Its entries are watched by noting, beside the state, when
one is asked for and answered and when its body begins and ends. Behind the gate every entry is
refused where it stands; in front of it one visit follows another, each with one body, and after
each the gate is free, however the body ended. Watching changes nothing of what a program does.
-/

namespace SafetyBoard.Gate

variable {σ α β : Type}

structure Lawful (g : Gate σ) : Prop where
  isHeld_setHeld : ∀ held s, g.isHeld (g.setHeld held s) = held
  setHeld_isHeld : ∀ s, g.setHeld (g.isHeld s) s = s

def Aside (g : Gate σ) (act : Act σ α) : Prop :=
  ∀ held s, act.run (g.setHeld held s) = ((act.run s).1, g.setHeld held (act.run s).2)

theorem aside_pure (g : Gate σ) (a : α) : g.Aside (pure a) := fun _ _ => rfl

theorem aside_throw (g : Gate σ) (f : Fault) : g.Aside (throw f : Act σ α) := fun _ _ => rfl

theorem Lawful.isHeld_of_aside {g : Gate σ} (lawful : g.Lawful) {act : Act σ α}
    (aside : g.Aside act) (s : σ) : g.isHeld (act.run s).2 = g.isHeld s := by
  have own := aside (g.isHeld s) s
  rw [lawful.setHeld_isHeld] at own
  have kept : (act.run s).2 = g.setHeld (g.isHeld s) (act.run s).2 := congrArg Prod.snd own
  rw [kept, lawful.isHeld_setHeld]

/-- What can be put together over a gate. Other effects, values and failures stand aside of it. -/
inductive Program (g : Gate σ) : Type → Type 1 where
  | aside {α : Type} (act : Act σ α) (own : g.Aside act) : Program g α
  | look : Program g Bool
  | sequence {α β : Type} (first : Program g β) (next : β → Program g α) : Program g α
  | attempt {α : Type} (tried : Program g α) (handler : Fault → Program g α) : Program g α
  | enter {α : Type} (body : Program g α) : Program g α

inductive Event where
  | called (held : Bool)
  | began (held : Bool)
  | ended (outcome : Except Fault Unit) (held : Bool)
  | returned (outcome : Except Fault Unit) (held : Bool)
  deriving Repr

def outcome (result : Except Fault α) : Except Fault Unit := result.map fun _ => ()

def watched (g : Gate σ) : Gate (σ × List Event) :=
  ⟨fun x => g.isHeld x.1, fun held x => (g.setHeld held x.1, x.2)⟩

def noting (before : σ → Event) (after : Except Fault α → σ → Event)
    (act : Act (σ × List Event) α) : Act (σ × List Event) α := ExceptT.mk fun (s, seen) =>
  let (result, t, seen) := act.run (s, seen ++ [before s])
  (result, t, seen ++ [after result t])

theorem run_noting {act : Act (σ × List Event) α} {before : σ → Event}
    {after : Except Fault α → σ → Event} {s t : σ} {result : Except Fault α}
    {seen more : List Event} (ran : act.run (s, seen ++ [before s]) = (result, t, more)) :
    (noting before after act).run (s, seen) = (result, t, more ++ [after result t]) := by
  change act (s, seen ++ [before s]) = _ at ran
  change ((act (s, seen ++ [before s])).1, _, _) = _
  rw [ran]

def watchBody (g : Gate σ) (body : Act (σ × List Event) α) : Act (σ × List Event) α :=
  noting (fun s => .began (g.isHeld s)) (fun result s => .ended (outcome result) (g.isHeld s)) body

def watchRun (g : Gate σ) (body : Act (σ × List Event) α) : Act (σ × List Event) α :=
  noting (fun s => .called (g.isHeld s))
    (fun result s => .returned (outcome result) (g.isHeld s)) (g.watched.run (g.watchBody body))

section Watch

variable {g : Gate σ} {body : Act (σ × List Event) α} {s t : σ} {result : Except Fault α}
  {seen more : List Event}

theorem run_watchBody (ran : body.run (s, seen ++ [.began (g.isHeld s)]) = (result, t, more)) :
    (g.watchBody body).run (s, seen) =
      (result, t, more ++ [.ended (outcome result) (g.isHeld t)]) :=
  run_noting ran

theorem run_watchRun (ran : (g.watched.run (g.watchBody body)).run
      (s, seen ++ [.called (g.isHeld s)]) = (result, t, more)) :
    (g.watchRun body).run (s, seen) =
      (result, t, more ++ [.returned (outcome result) (g.isHeld t)]) :=
  run_noting ran

end Watch

inductive Inside : List Event → Prop where
  | nil : Inside []
  | refused {rest : List Event} (others : Inside rest) :
      Inside (.called true :: .returned (.error (.hub .reentrant)) true :: rest)

/-- In front of the gate: an entry runs its body behind the gate, and returns as its body ended and
with the gate free. -/
inductive Outside : List Event → Prop where
  | nil : Outside []
  | visit {inside rest : List Event} (ending : Except Fault Unit) (within : Inside inside)
      (others : Outside rest) : Outside (.called false :: .began true ::
        (inside ++ .ended ending true :: .returned ending false :: rest))

def Orderly : Bool → List Event → Prop
  | true => Inside
  | false => Outside

theorem Inside.append {events more : List Event} (first : Inside events) (next : Inside more) :
    Inside (events ++ more) := by
  induction first with
  | nil => exact next
  | refused _ ih => exact ih.refused

theorem Outside.append {events more : List Event} (first : Outside events) (next : Outside more) :
    Outside (events ++ more) := by
  induction first with
  | nil => exact next
  | visit ending within _ ih =>
    have extended := Outside.visit ending within ih
    simpa only [List.cons_append, List.append_assoc] using extended

theorem orderly_nil (held : Bool) : Orderly held [] := by
  cases held with
  | true => exact .nil
  | false => exact .nil

theorem Orderly.append {held : Bool} {events more : List Event} (first : Orderly held events)
    (next : Orderly held more) : Orderly held (events ++ more) := by
  cases held with
  | true => exact Inside.append first next
  | false => exact Outside.append first next

def tally (active : Int) : Event → Int
  | .began _ => active + 1
  | .ended _ _ => active - 1
  | .called _ | .returned _ _ => active

theorem mem_scanl_append {n m : Int} {events more : List Event}
    (h : m ∈ (events ++ more).scanl tally n) :
    m ∈ events.scanl tally n ∨ m ∈ more.scanl tally (events.foldl tally n) := by
  rw [List.scanl_append, List.mem_append] at h
  exact h.imp_right List.mem_of_mem_tail

section Tally

variable {events : List Event} {n m : Int}

theorem Inside.foldl_tally (inside : Inside events) : events.foldl tally n = n := by
  induction inside with
  | nil => rfl
  | refused _ ih => exact ih

theorem Outside.foldl_tally (outside : Outside events) : events.foldl tally 0 = 0 := by
  induction outside with
  | nil => rfl
  | @visit inside rest ending within _ ih =>
    change (inside ++ .ended ending true :: .returned ending false :: rest).foldl tally 1 = 0
    rw [List.foldl_append, within.foldl_tally]
    exact ih

theorem Inside.active_eq (inside : Inside events) (h : m ∈ events.scanl tally n) : m = n := by
  induction inside with
  | nil => simpa using h
  | refused _ ih =>
    rw [List.scanl_cons, List.scanl_cons, List.mem_cons, List.mem_cons] at h
    rcases h with rfl | rfl | later
    · rfl
    · rfl
    · exact ih later

theorem Outside.active_eq (outside : Outside events) (h : m ∈ events.scanl tally 0) :
    m = 0 ∨ m = 1 := by
  induction outside with
  | nil => left; simpa using h
  | @visit inside rest ending within _ ih =>
    rw [List.scanl_cons, List.scanl_cons, List.mem_cons, List.mem_cons] at h
    rcases h with rfl | rfl | h
    · left; rfl
    · left; rfl
    rcases mem_scanl_append (n := 1) h with during | h
    · right
      exact within.active_eq during
    · rw [within.foldl_tally, List.scanl_cons, List.scanl_cons, List.mem_cons, List.mem_cons] at h
      rcases h with rfl | rfl | later
      · right; rfl
      · left; rfl
      · exact ih later

end Tally

namespace Program

variable {g : Gate σ}

def act : {α : Type} → Program g α → Act σ α
  | _, .aside act _ => act
  | _, .look => do return g.isHeld (← get)
  | _, .sequence first next => first.act >>= fun b => (next b).act
  | _, .attempt tried handler => tryCatch tried.act fun f => (handler f).act
  | _, .enter body => g.run body.act

def watch : {α : Type} → Program g α → Act (σ × List Event) α
  | _, .aside act _ => ExceptT.mk fun (s, seen) =>
    let (result, t) := act.run s
    (result, t, seen)
  | _, .look => do return g.isHeld (← get).1
  | _, .sequence first next => first.watch >>= fun b => (next b).watch
  | _, .attempt tried handler => tryCatch tried.watch fun f => (handler f).watch
  | _, .enter body => g.watchRun body.watch

/-- A run of a program and of the watched one: they give the same, the flag is as before, and these
events are noted. -/
structure Shows (p : Program g α) (s : σ) (result : Except Fault α) (t : σ)
    (events : List Event) : Prop where
  ran : p.act.run s = (result, t)
  noted : ∀ earlier, p.watch.run (s, earlier) = (result, t, earlier ++ events)
  kept : g.isHeld t = g.isHeld s
  orderly : Orderly (g.isHeld s) events

section Shows

variable {s t u : σ} {events more : List Event}

theorem shows_aside (lawful : g.Lawful) {act : Act σ α} (own : g.Aside act) (s : σ) :
    (aside act own).Shows s (act.run s).1 (act.run s).2 [] where
  ran := rfl
  noted earlier := by
    rw [List.append_nil]
    rfl
  kept := lawful.isHeld_of_aside own s
  orderly := orderly_nil _

theorem shows_look (s : σ) : (look (g := g)).Shows s (.ok (g.isHeld s)) s [] where
  ran := rfl
  noted earlier := by
    rw [List.append_nil]
    rfl
  kept := rfl
  orderly := orderly_nil _

theorem Shows.sequence_ok {first : Program g β} {next : β → Program g α} {b : β}
    {result : Except Fault α} (begins : first.Shows s (.ok b) t events)
    (goes_on : (next b).Shows t result u more) :
    (sequence first next).Shows s result u (events ++ more) where
  ran := (Act.run_bind_ok begins.ran _).trans goes_on.ran
  noted earlier := by
    refine (Act.run_bind_ok (begins.noted earlier) _).trans ?_
    rw [goes_on.noted, List.append_assoc]
  kept := goes_on.kept.trans begins.kept
  orderly := begins.orderly.append (begins.kept ▸ goes_on.orderly)

theorem Shows.sequence_error {first : Program g β} {f : Fault}
    (fails : first.Shows s (.error f) t events) (next : β → Program g α) :
    (sequence first next).Shows s (.error f) t events where
  ran := Act.run_bind_error fails.ran _
  noted earlier := Act.run_bind_error (fails.noted earlier) _
  kept := fails.kept
  orderly := fails.orderly

theorem Shows.attempt_ok {tried : Program g α} {a : α} (succeeds : tried.Shows s (.ok a) t events)
    (handler : Fault → Program g α) : (attempt tried handler).Shows s (.ok a) t events where
  ran := Act.run_tryCatch_ok succeeds.ran _
  noted earlier := Act.run_tryCatch_ok (succeeds.noted earlier) _
  kept := succeeds.kept
  orderly := succeeds.orderly

theorem Shows.attempt_error {tried : Program g α} {handler : Fault → Program g α} {f : Fault}
    {result : Except Fault α} (fails : tried.Shows s (.error f) t events)
    (handles : (handler f).Shows t result u more) :
    (attempt tried handler).Shows s result u (events ++ more) where
  ran := (Act.run_tryCatch_error fails.ran _).trans handles.ran
  noted earlier := by
    refine (Act.run_tryCatch_error (fails.noted earlier) _).trans ?_
    rw [handles.noted, List.append_assoc]
  kept := handles.kept.trans fails.kept
  orderly := fails.orderly.append (fails.kept ▸ handles.orderly)

theorem shows_enter_of_held (body : Program g α) (held : g.isHeld s = true) :
    (enter body).Shows s (.error (.hub .reentrant)) s
      [.called true, .returned (.error (.hub .reentrant)) true] where
  ran := run_of_held g body.act held
  noted earlier := by
    have refused := run_of_held g.watched (g.watchBody body.watch)
      (s := (s, earlier ++ [.called (g.isHeld s)])) held
    refine (run_watchRun refused).trans ?_
    rw [held, List.append_assoc]
    rfl
  kept := rfl
  orderly := by
    rw [held]
    exact Inside.nil.refused

theorem Shows.enter_of_free (lawful : g.Lawful) {body : Program g α} {result : Except Fault α}
    (free : g.isHeld s = false) (runs : body.Shows (g.setHeld true s) result t events) :
    (enter body).Shows s result (g.setHeld false t) (.called false :: .began true ::
      (events ++ [.ended (outcome result) true, .returned (outcome result) false])) := by
  have entered : g.isHeld (g.setHeld true s) = true := lawful.isHeld_setHeld true s
  have left : g.isHeld (g.setHeld false t) = false := lawful.isHeld_setHeld false t
  have still : g.isHeld t = true := runs.kept.trans entered
  have within : Inside events := by
    have orderly := runs.orderly
    rwa [entered] at orderly
  constructor
  · exact run_of_ran g body.act free runs.ran
  · intro earlier
    have visited := run_of_ran g.watched (g.watchBody body.watch)
      (s := (s, earlier ++ [.called (g.isHeld s)])) free (run_watchBody (runs.noted _))
    refine (run_watchRun visited).trans ?_
    simp only [entered, left, still, free, List.append_assoc, List.cons_append,
      List.nil_append]
  · rw [left, free]
  · rw [free]
    exact Outside.nil.visit _ within

end Shows

theorem exists_shows (lawful : g.Lawful) (p : Program g α) (s : σ) :
    ∃ result t events, p.Shows s result t events := by
  induction p generalizing s with
  | aside act own => exact ⟨_, _, _, shows_aside lawful own s⟩
  | look => exact ⟨_, _, _, shows_look s⟩
  | sequence first next ih_first ih_next =>
    obtain ⟨result, t, events, begins⟩ := ih_first s
    cases result with
    | error f => exact ⟨_, _, _, begins.sequence_error next⟩
    | ok b =>
      obtain ⟨_, _, _, goes_on⟩ := ih_next b t
      exact ⟨_, _, _, begins.sequence_ok goes_on⟩
  | attempt tried handler ih_tried ih_handler =>
    obtain ⟨result, t, events, tries⟩ := ih_tried s
    cases result with
    | error f =>
      obtain ⟨_, _, _, handles⟩ := ih_handler f t
      exact ⟨_, _, _, tries.attempt_error handles⟩
    | ok a => exact ⟨_, _, _, tries.attempt_ok handler⟩
  | enter body ih =>
    cases flag : g.isHeld s with
    | true => exact ⟨_, _, _, shows_enter_of_held body flag⟩
    | false =>
      obtain ⟨_, _, _, runs⟩ := ih (g.setHeld true s)
      exact ⟨_, _, _, runs.enter_of_free lawful flag⟩

/-- Nesting is excluded and the gate is always released. In a state in which the gate is held an
entry fails where it stands, whatever its body, and all that a program does from there on happens
behind the gate. From a state in which it is free a program makes one visit after another, at no
time are two bodies active, and in the end the gate is free, so that a later entry runs its body
and gives what that gives. -/
theorem exclusive_and_released (lawful : g.Lawful) (p : Program g α) (s : σ) :
    ∃ result t events, p.Shows s result t events ∧
      (g.isHeld s = true → g.isHeld t = true ∧ Inside events ∧
        ∀ (β : Type) (body : Program g β) (handler : Fault → Program g β),
          (enter body).act.run s = (.error (.hub .reentrant), s) ∧
          (attempt (enter body) handler).act.run s = (handler (.hub .reentrant)).act.run s) ∧
      (g.isHeld s = false → g.isHeld t = false ∧ Outside events ∧
        (∀ active ∈ events.scanl tally 0, active = 0 ∨ active = 1) ∧
        ∀ (β : Type) (body : Program g β), (enter body).act.run t =
          ((body.act.run (g.setHeld true t)).1,
            g.setHeld false (body.act.run (g.setHeld true t)).2)) := by
  obtain ⟨result, t, events, shows⟩ := exists_shows lawful p s
  refine ⟨result, t, events, shows, ?_, ?_⟩
  · intro held
    have inside : Inside events := by
      have orderly := shows.orderly
      rwa [held] at orderly
    refine ⟨shows.kept.trans held, inside, fun β body handler => ?_⟩
    have refused : (enter body).act.run s = (.error (.hub .reentrant), s) :=
      run_of_held g body.act held
    exact ⟨refused, Act.run_tryCatch_error refused _⟩
  · intro free
    have outside : Outside events := by
      have orderly := shows.orderly
      rwa [free] at orderly
    have released : g.isHeld t = false := shows.kept.trans free
    refine ⟨released, outside, fun _ => outside.active_eq, fun β body => ?_⟩
    exact run_of_free g body.act released

end Program

theorem lawful_gate : Run.gate.Lawful := ⟨fun _ _ => rfl, fun _ => rfl⟩

def noted (f : Bool → Trace) : Program Run.gate Unit :=
  .sequence .look fun held =>
    .aside (modify fun r => { r with trace := r.trace ++ [f held] }) fun _ _ => rfl

mutual

def Command.program : Command → Program Run.gate Unit
  | .enter body value =>
    .sequence (.enter (.sequence (noted .entered) fun _ => programAll body))
      fun _ => noted (.left · value)
  | .attempt body =>
    .attempt (.sequence (programAll body) fun _ => noted fun _ => .passed)
      fun f => noted (.caught f)
  | .fail message => .aside (throw (.foreign message)) (aside_throw _ _)
  | .look => noted .looked

def programAll : List Command → Program Run.gate Unit
  | [] => .aside (pure ()) (aside_pure _ _)
  | c :: rest => .sequence c.program fun _ => programAll rest

end

theorem act_noted (f : Bool → Trace) : (noted f).act = modify (Run.note f) := rfl

mutual

theorem Command.act_program (c : Command) : c.program.act = c.exec := by
  cases c with
  | enter body value =>
    rw [Command.program, Command.exec, Program.act, Program.act, Program.act, act_programAll body]
    rfl
  | attempt body =>
    rw [Command.program, Command.exec, Program.act, Program.act, act_programAll body]
    rfl
  | fail message =>
    rw [Command.program, Command.exec, Program.act]
  | look =>
    rw [Command.program, Command.exec, act_noted]

theorem act_programAll (commands : List Command) :
    (programAll commands).act = execAll commands := by
  cases commands with
  | nil => rfl
  | cons c rest =>
    rw [programAll, execAll, Program.act, Command.act_program c, act_programAll rest]

end

/-- A visit that catches the refusal of a second one and then fails, and after it another visit. -/
def twoVisits : List Command :=
  [.attempt [.enter [.attempt [.enter [.look] none], .look, .fail "no route"] none],
    .enter [.look] (some (.string "again"))]

/-- The body of the nested entry does not run, the first visit goes on behind the gate, and the
second one finds the gate free. -/
theorem exclusive_and_released_nested :
    Run.gate.Lawful ∧ Run.gate.isHeld Run.start = false ∧
    (execAll twoVisits).run Run.start = (.ok (), ⟨false,
      [.entered true, .caught (.hub .reentrant) true, .looked true,
        .caught (.foreign "no route") false,
        .entered true, .looked true, .left false (some (.string "again"))]⟩) ∧
    Outside
      [.called false, .began true, .called true, .returned (.error (.hub .reentrant)) true,
        .ended (.error (.foreign "no route")) true,
        .returned (.error (.foreign "no route")) false,
        .called false, .began true, .ended (.ok ()) true, .returned (.ok ()) false] := by
  obtain ⟨result, t, events, shows, -, front⟩ :=
    Program.exclusive_and_released lawful_gate (programAll twoVisits) Run.start
  obtain ⟨-, outside, -, -⟩ := front rfl
  have seen : ((programAll twoVisits).watch.run (Run.start, [])).2.2 =
      [.called false, .began true, .called true, .returned (.error (.hub .reentrant)) true,
        .ended (.error (.foreign "no route")) true,
        .returned (.error (.foreign "no route")) false,
        .called false, .began true, .ended (.ok ()) true, .returned (.ok ()) false] := rfl
  rw [shows.noted [], List.nil_append] at seen
  refine ⟨lawful_gate, rfl, ?_, ?_⟩
  · rw [← act_programAll]
    rfl
  · rw [← seen]
    exact outside

end SafetyBoard.Gate
