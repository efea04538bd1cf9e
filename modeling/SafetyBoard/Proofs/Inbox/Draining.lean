import SafetyBoard.Proofs.Inbox.Desk

/-!
# Draining an inbox

Draining is one turn after another. A turn takes the first message, handles it, and reports it if
that failed; what its callbacks post joins the queue at its end. So what has been handled, followed
by what still waits, is at every turn what has been posted. A draining ends if some number of turns
leaves nothing to take, and then the inbox has gone through the queue it started from and all that
was posted on the way.
-/

namespace SafetyBoard

variable {σ μ β α γ : Type}

namespace Inbox

variable (inbox : Inbox σ μ)

def turn (message : μ) : Act σ Unit :=
  tryCatch (inbox.handle message) fun f => inbox.report f message

def advance (s : σ) : σ :=
  match (inbox.box s).queue with
  | [] => s
  | message :: rest =>
    ((inbox.turn message).run (inbox.change ({ · with queue := rest }) s)).2

def EndsIn (turns : Nat) (s : σ) : Prop :=
  (inbox.box (inbox.advance^[turns] (inbox.setDraining true s))).queue = []

def Ends (s : σ) : Prop := ∃ turns, inbox.EndsIn turns s

def EndsAll : List μ → σ → Prop
  | [], _ => True
  | message :: rest, s =>
    inbox.Ends (inbox.change (·.push message) s) ∧ EndsAll rest ((inbox.post message).run s).2

variable {s t : σ} {message : μ} {rest : List μ}

theorem run_drain_of_empty (empty : (inbox.box s).queue = []) (n : Nat) :
    (inbox.drain n).run s = (.ok (), s) := by
  cases n with
  | zero => rfl
  | succ n =>
    refine (Act.run_bind_ok (Act.run_get s) _).trans ?_
    rw [empty]
    rfl

theorem run_drain_of_turn (queue : (inbox.box s).queue = message :: rest)
    (ran : (inbox.turn message).run (inbox.change ({ · with queue := rest }) s) = (.ok (), t))
    (n : Nat) : (inbox.drain (n + 1)).run s = (inbox.drain n).run t := by
  refine (Act.run_bind_ok (Act.run_get s) _).trans ?_
  rw [queue]
  refine (Act.run_bind_ok (Act.run_modify _ s) _).trans ?_
  exact Act.run_bind_ok ran _

theorem advance_of_empty (empty : (inbox.box s).queue = []) : inbox.advance s = s := by
  unfold advance
  rw [empty]

theorem advance_of_queue (queue : (inbox.box s).queue = message :: rest) :
    inbox.advance s =
      ((inbox.turn message).run (inbox.change ({ · with queue := rest }) s)).2 := by
  unfold advance
  rw [queue]

theorem run_post_of_drain
    (still : (inbox.box (inbox.change (·.push message) s)).draining = false)
    (ran : (inbox.drain (inbox.turns (inbox.change (·.push message) s))).run
      (inbox.setDraining true (inbox.change (·.push message) s)) = (.ok (), t)) :
    (inbox.post message).run s = (.ok (), inbox.drained (inbox.setDraining false t)) := by
  refine (Act.run_bind_ok (Act.run_modify _ s) _).trans ?_
  refine (Act.run_bind_ok (Act.run_get _) _).trans ?_
  rw [if_neg (by simp [still])]
  have drained : inbox.drainAll.run (inbox.change (·.push message) s) =
      (.ok (), inbox.setDraining false t) := by
    rw [run_drainAll, ran]
  exact (Act.run_bind_ok drained _).trans (Act.run_modify _ _)

end Inbox

namespace Desk

/-- What an inbox relies on for the messages that can come: its callbacks touch it only by posting
such messages, reporting does not fail, and its turns are enough for every draining that ends. -/
structure Obliging (desk : Desk σ μ β) (P : μ → Prop) : Prop where
  handler : ∀ message, P message → Act.Moves (desk.Posts P) (desk.handler message)
  followUp : ∀ message wanted, P message →
    Act.Moves (desk.Posts P) (desk.followUp message wanted)
  onError : ∀ f message, P message → Act.Moves (desk.Posts P) (desk.onError f message)
  onError_ok : ∀ f message, P message → ∀ s, (desk.box s).draining = true →
    desk.gate.isHeld s = false → ((desk.onError f message).run s).1 = .ok ()
  enough : ∀ s, (∀ message ∈ (desk.box s).queue, P message) → desk.inbox.Ends s →
    desk.inbox.EndsIn (desk.turns s) s

/-- Whatever the callbacks do, some count of turns is enough. -/
theorem exists_turns_enough (desk : Desk σ μ β) : ∃ turns : σ → Nat, ∀ s, desk.inbox.Ends s →
    ({ desk with turns } : Desk σ μ β).inbox.EndsIn (turns s) s := by
  classical
  refine ⟨fun s => if ends : desk.inbox.Ends s then ends.choose else 0, fun s ends => ?_⟩
  simp only [dif_pos ends]
  exact ends.choose_spec

/-- Nothing is pending, nothing is draining, and the gate is free. -/
structure Idle (desk : Desk σ μ β) (s : σ) : Prop where
  box : desk.box s = Mailbox.empty
  free : desk.gate.isHeld s = false

/-- What is seen of one message: its handler behind the gate, then what follows, and after a failure
of either its report, these two with the gate free. -/
inductive Turn (message : μ) : List (Event μ) → Prop where
  | handled (posts more : List μ) : Turn message
      (segment .handler message true posts none ++ segment .followUp message false more none)
  | refused (f : Fault) (posts more : List μ) : Turn message
      (segment .handler message true posts (some f) ++
        segment (.report f) message false more none)
  | unfinished (f : Fault) (posts more last : List μ) : Turn message
      (segment .handler message true posts none ++
        (segment .followUp message false more (some f) ++
          segment (.report f) message false last none))

inductive Turns : List (Event μ) → Prop where
  | nil : Turns []
  | cons {message : μ} {block events : List (Event μ)} :
      Turn message block → Turns events → Turns (block ++ events)

theorem Turn.handledIn {message : μ} {block : List (Event μ)} (turn : Turn message block) :
    handledIn block = [message] := by
  cases turn with
  | handled | refused | unfinished => simp

/-- A computation and the watched one: they give the same, the state grows by what was posted, and
these events are noted. -/
structure Seen (desk : Desk σ μ β) (P : μ → Prop) (act : Act σ α)
    (watched : Act (σ × List (Event μ)) α) (s : σ) (result : Except Fault α) (t : σ)
    (events : List (Event μ)) : Prop where
  ran : act.run s = (result, t)
  noted : ∀ seen, watched.run (s, seen) = (result, t, seen ++ events)
  grown : desk.Grown P s (postedIn events) t

variable {desk : Desk σ μ β} {P : μ → Prop} {s t u : σ} {message : μ}

section Seen

variable {act : Act σ α} {watched : Act (σ × List (Event μ)) α} {events more : List (Event μ)}

theorem Seen.draining (seen : desk.Seen P act watched s result t events) :
    (desk.box t).draining = true := seen.grown.draining

theorem Seen.held (seen : desk.Seen P act watched s result t events) :
    desk.gate.isHeld t = desk.gate.isHeld s := seen.grown.held

theorem grown_append (first : desk.Grown P s (postedIn events) t)
    (next : desk.Grown P t (postedIn more) u) :
    desk.Grown P s (postedIn (events ++ more)) u := by
  rw [postedIn_append]
  exact first.trans next

theorem Seen.bind_ok {a : α} (first : desk.Seen P act watched s (.ok a) t events)
    {next : α → Act σ γ} {watchedNext : α → Act (σ × List (Event μ)) γ} {result : Except Fault γ}
    (rest : desk.Seen P (next a) (watchedNext a) t result u more) :
    desk.Seen P (act >>= next) (watched >>= watchedNext) s result u (events ++ more) where
  ran := (Act.run_bind_ok first.ran _).trans rest.ran
  noted seen := by
    rw [Act.run_bind_ok (first.noted seen), rest.noted, List.append_assoc]
  grown := grown_append first.grown rest.grown

theorem Seen.bind_error {f : Fault} (first : desk.Seen P act watched s (.error f) t events)
    (next : α → Act σ γ) (watchedNext : α → Act (σ × List (Event μ)) γ) :
    desk.Seen P (act >>= next) (watched >>= watchedNext) s (.error f) t events where
  ran := Act.run_bind_error first.ran _
  noted seen := Act.run_bind_error (first.noted seen) _
  grown := first.grown

theorem Seen.tryCatch_ok {a : α} (first : desk.Seen P act watched s (.ok a) t events)
    (handler : Fault → Act σ α) (watchedHandler : Fault → Act (σ × List (Event μ)) α) :
    desk.Seen P (tryCatch act handler) (tryCatch watched watchedHandler) s (.ok a) t events where
  ran := Act.run_tryCatch_ok first.ran _
  noted seen := Act.run_tryCatch_ok (first.noted seen) _
  grown := first.grown

theorem Seen.tryCatch_error {f : Fault} (first : desk.Seen P act watched s (.error f) t events)
    {handler : Fault → Act σ α} {watchedHandler : Fault → Act (σ × List (Event μ)) α}
    {result : Except Fault α}
    (rest : desk.Seen P (handler f) (watchedHandler f) t result u more) :
    desk.Seen P (tryCatch act handler) (tryCatch watched watchedHandler) s result u
      (events ++ more) where
  ran := (Act.run_tryCatch_error first.ran _).trans rest.ran
  noted seen := by
    rw [Act.run_tryCatch_error (first.noted seen), rest.noted, List.append_assoc]
  grown := grown_append first.grown rest.grown

end Seen

theorem seen_watch {act : Act σ α} (h : Act.Moves (desk.Posts P) act)
    (draining : (desk.box s).draining = true) (call : Call) (message : μ) :
    ∃ result posts t, desk.Seen P act (desk.watch call message act) s result t
      (segment call message (desk.gate.isHeld s) posts (failure result)) := by
  obtain ⟨result, posts, t, ran, grown, noted⟩ := run_watch_posts h draining call message
  exact ⟨result, posts, t, ran, noted, by simpa using grown⟩

theorem seen_run_watch {act : Act σ α} (h : Act.Moves (desk.Posts P) act)
    (draining : (desk.box s).draining = true) (free : desk.gate.isHeld s = false) (call : Call)
    (message : μ) :
    ∃ result posts t,
      desk.Seen P (desk.gate.run act) (desk.watched.gate.run (desk.watch call message act)) s
        result t (segment call message true posts (failure result)) := by
  obtain ⟨result, posts, t, seen⟩ :=
    seen_watch h (s := desk.gate.setHeld true s) (by simpa using draining) call message
  rw [desk.held_setHeld] at seen
  refine ⟨result, posts, desk.gate.setHeld false t, ?_, fun before => ?_, ?_, ?_, ?_⟩
  · exact Gate.run_of_ran desk.gate act free seen.ran
  · exact Gate.run_of_ran desk.watched.gate _ (s := (s, before)) free (seen.noted before)
  · have box := seen.grown.box
    rw [desk.box_setHeld] at box
    exact (desk.box_setHeld _ _).trans box
  · exact (desk.held_setHeld _ _).trans free.symm
  · exact seen.grown.may

theorem Obliging.seen_report (ob : desk.Obliging P) (may : P message) (f : Fault)
    (draining : (desk.box s).draining = true) (free : desk.gate.isHeld s = false) :
    ∃ posts t, desk.Seen P (desk.onError f message) (desk.watched.onError f message) s (.ok ()) t
      (segment (.report f) message false posts none) := by
  obtain ⟨result, posts, t, seen⟩ :=
    seen_watch (ob.onError f message may) draining (.report f) message
  obtain rfl : result = .ok () :=
    (congrArg Prod.fst seen.ran).symm.trans (ob.onError_ok f message may s draining free)
  rw [free] at seen
  exact ⟨posts, t, seen⟩

/-- A turn does not fail, whatever its callbacks do. -/
theorem Obliging.seen_turn (ob : desk.Obliging P) (may : P message)
    (draining : (desk.box s).draining = true) (free : desk.gate.isHeld s = false) :
    ∃ block t, Turn message block ∧
      desk.Seen P (desk.inbox.turn message) (desk.watched.inbox.turn message) s (.ok ()) t
        block := by
  obtain ⟨result, posts, t, handler⟩ :=
    seen_run_watch (ob.handler message may) draining free .handler message
  have freed : desk.gate.isHeld t = false := handler.held.trans free
  rcases result with f | wanted
  · obtain ⟨more, u, report⟩ := ob.seen_report may f handler.draining freed
    exact ⟨_, u, .refused f posts more, (handler.bind_error _ _).tryCatch_error report⟩
  · obtain ⟨result, more, u, follow⟩ :=
      seen_watch (ob.followUp message wanted may) handler.draining .followUp message
    rw [freed] at follow
    rcases result with f | _
    · obtain ⟨last, v, report⟩ :=
        ob.seen_report may f follow.draining (follow.held.trans freed)
      have unfinished : desk.Seen P (desk.inbox.handle message)
          (desk.watched.inbox.handle message) s (.error f) u _ := handler.bind_ok follow
      have turn : desk.Seen P (desk.inbox.turn message) (desk.watched.inbox.turn message) s
          (.ok ()) v _ := unfinished.tryCatch_error report
      rw [List.append_assoc] at turn
      exact ⟨_, v, .unfinished f posts more last, turn⟩
    · exact ⟨_, u, .handled posts more, (handler.bind_ok follow).tryCatch_ok _ _⟩

/-- A draining that has gone through the queue and through all that was posted on the way. -/
structure Drained (desk : Desk σ μ β) (n : Nat) (s t : σ) (events : List (Event μ)) : Prop where
  ran : (desk.inbox.drain n).run s = (.ok (), t)
  noted : ∀ seen, (desk.watched.inbox.drain n).run (s, seen) = (.ok (), t, seen ++ events)
  turns : Turns events
  order : handledIn events = (desk.box s).queue ++ postedIn events
  box : desk.box t = ⟨[], true⟩
  free : desk.gate.isHeld t = false

theorem drained_of_empty (empty : (desk.box s).queue = [])
    (draining : (desk.box s).draining = true) (free : desk.gate.isHeld s = false) (n : Nat) :
    desk.Drained n s s [] where
  ran := Inbox.run_drain_of_empty desk.inbox empty n
  noted seen := by
    rw [List.append_nil]
    exact Inbox.run_drain_of_empty desk.watched.inbox (s := (s, seen)) empty n
  turns := .nil
  order := by rw [empty]; rfl
  box := by rw [← empty, ← draining]
  free := free

/-- A turn before a draining takes the first message, and what it posts comes after the messages
that were waiting. -/
theorem Drained.after_turn {n : Nat} {rest : List μ} {block events : List (Event μ)}
    (queue : (desk.box s).queue = message :: rest) (turn : Turn message block)
    (seen : desk.Seen P (desk.inbox.turn message) (desk.watched.inbox.turn message)
      (desk.inbox.change ({ · with queue := rest }) s) (.ok ()) t block)
    (waiting : (desk.box t).queue = rest ++ postedIn block)
    (drained : desk.Drained n t u events) : desk.Drained (n + 1) s u (block ++ events) where
  ran := (Inbox.run_drain_of_turn desk.inbox queue seen.ran n).trans drained.ran
  noted before := by
    refine (Inbox.run_drain_of_turn desk.watched.inbox (s := (s, before)) queue
      (seen.noted before) n).trans ?_
    rw [drained.noted, List.append_assoc]
  turns := .cons turn drained.turns
  order := by
    rw [handledIn_append, turn.handledIn, drained.order, waiting, queue, postedIn_append]
    simp
  box := drained.box
  free := drained.free

/-- By induction on the turns: what has been handled, followed by what waits, is what waited at the
start followed by what has been posted. -/
theorem Obliging.drains (ob : desk.Obliging P) (n : Nat) (s : σ)
    (draining : (desk.box s).draining = true) (free : desk.gate.isHeld s = false)
    (may : ∀ message ∈ (desk.box s).queue, P message)
    (ends : (desk.box (desk.inbox.advance^[n] s)).queue = []) :
    ∃ t events, desk.Drained n s t events := by
  induction n generalizing s with
  | zero => exact ⟨s, [], drained_of_empty ends draining free 0⟩
  | succ n ih =>
    rcases queue : (desk.box s).queue with _ | ⟨message, rest⟩
    · exact ⟨s, [], drained_of_empty queue draining free _⟩
    rw [queue] at may
    have taken : desk.box (desk.inbox.change ({ · with queue := rest }) s) = ⟨rest, true⟩ := by
      rw [box_change, draining]
    have untouched : desk.gate.isHeld (desk.inbox.change ({ · with queue := rest }) s) = false :=
      (desk.held_change _ s).trans free
    obtain ⟨block, t, turn, seen⟩ := ob.seen_turn (may message List.mem_cons_self)
      (by rw [taken]) untouched
    have box := seen.grown.box
    rw [taken] at box
    have waiting : (desk.box t).queue = rest ++ postedIn block := by rw [box]
    rw [Function.iterate_succ_apply, Inbox.advance_of_queue desk.inbox queue, seen.ran] at ends
    obtain ⟨u, events, drained⟩ := ih t seen.draining
      (seen.held.trans untouched)
      (fun other waits => by
        rw [waiting] at waits
        rcases List.mem_append.mp waits with earlier | posted
        · exact may other (List.mem_cons_of_mem _ earlier)
        · exact seen.grown.may other posted)
      ends
    exact ⟨u, block ++ events, drained.after_turn queue turn seen waiting⟩

/-- An outermost post comes back with nothing pending, and everything posted until then has been
handled in the order of the posts. -/
theorem Obliging.posts (ob : desk.Obliging P) (idle : desk.Idle s) (may : P message)
    (ends : desk.inbox.Ends (desk.inbox.change (·.push message) s)) :
    ∃ t events, (desk.inbox.post message).run s = (.ok (), t) ∧
      (∀ seen, (desk.watchedPost message).run (s, seen) =
        (.ok (), t, seen ++ .posted message :: events)) ∧
      Turns events ∧ handledIn events = message :: postedIn events ∧ desk.Idle t := by
  have pushed : desk.box (desk.inbox.change (·.push message) s) = ⟨[message], false⟩ := by
    rw [box_change, idle.box]
    rfl
  have opened : desk.box (desk.inbox.setDraining true (desk.inbox.change (·.push message) s)) =
      ⟨[message], true⟩ := by
    rw [Inbox.setDraining, box_change, pushed]
  have free : desk.gate.isHeld
      (desk.inbox.setDraining true (desk.inbox.change (·.push message) s)) = false := by
    rw [Inbox.setDraining, held_change, held_change, idle.free]
  obtain ⟨t, events, drained⟩ := ob.drains _ _ (by rw [opened]) free
    (by rw [opened]; simpa using may) (ob.enough _ (by rw [pushed]; simpa using may) ends)
  have still : (desk.box (desk.inbox.change (·.push message) s)).draining = false := by
    rw [pushed]
  refine ⟨desk.drained (desk.inbox.setDraining false t), events, ?_, fun seen => ?_,
    drained.turns, ?_, ?_, ?_⟩
  · exact Inbox.run_post_of_drain desk.inbox still drained.ran
  · have noted := drained.noted (seen ++ [.posted message])
    rw [List.append_assoc] at noted
    refine (Act.run_bind_ok (Act.run_modify _ _) _).trans ?_
    exact Inbox.run_post_of_drain desk.watched.inbox
      (s := (s, seen ++ [Event.posted message])) still noted
  · rw [drained.order, opened]
    rfl
  · rw [desk.box_drained, Inbox.setDraining, box_change, drained.box]
    rfl
  · rw [desk.held_drained, Inbox.setDraining, held_change, drained.free]

end Desk

end SafetyBoard
