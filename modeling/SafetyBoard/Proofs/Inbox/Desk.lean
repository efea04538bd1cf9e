import SafetyBoard.Inbox
import SafetyBoard.Proofs.Act
import Mathlib.Logic.Function.Iterate

/-!
# Callbacks behind an inbox

A desk is an inbox whose messages are handled behind a gate: the handler runs behind it, what the
handler asks for follows once the gate is free, and a failure of either is reported with the
message. Its callbacks are watched by noting, beside the state, when each of them starts and ends,
whether the gate was held, and which messages were posted on the way. Watching changes nothing of
what the callbacks do. A callback that touches the inbox only by posting leaves a draining mailbox
longer by what it posted.
-/

namespace SafetyBoard

/-- An inbox on a gate. What the handler returns is what is to follow; a handler that asks for
nothing is followed by nothing, and without a callback for failures the report does nothing. The
laws say that the mailbox and the gate are kept apart, and that writing the last line of a draining
touches neither. -/
structure Desk (σ μ β : Type) where
  gate : Gate σ
  box : σ → Mailbox μ
  setBox : Mailbox μ → σ → σ
  handler : μ → Act σ β
  followUp : μ → β → Act σ Unit
  onError : Fault → μ → Act σ Unit
  drained : σ → σ
  turns : σ → Nat
  box_setBox : ∀ b s, box (setBox b s) = b
  held_setBox : ∀ b s, gate.isHeld (setBox b s) = gate.isHeld s
  box_setHeld : ∀ h s, box (gate.setHeld h s) = box s
  held_setHeld : ∀ h s, gate.isHeld (gate.setHeld h s) = h
  box_drained : ∀ s, box (drained s) = box s
  held_drained : ∀ s, gate.isHeld (drained s) = gate.isHeld s

namespace Desk

variable {σ μ β α : Type}

attribute [simp] box_setBox held_setBox box_setHeld held_setHeld box_drained held_drained

/-- The inbox itself: a message is handled behind the gate, and what follows runs outside. -/
def inbox (desk : Desk σ μ β) : Inbox σ μ where
  box := desk.box
  setBox := desk.setBox
  handle message := do
    let wanted ← desk.gate.run (desk.handler message)
    desk.followUp message wanted
  report := desk.onError
  drained := desk.drained
  turns := desk.turns

@[simp]
theorem box_change (desk : Desk σ μ β) (f : Mailbox μ → Mailbox μ) (s : σ) :
    desk.box (desk.inbox.change f s) = f (desk.box s) := desk.box_setBox _ s

@[simp]
theorem held_change (desk : Desk σ μ β) (f : Mailbox μ → Mailbox μ) (s : σ) :
    desk.gate.isHeld (desk.inbox.change f s) = desk.gate.isHeld s := desk.held_setBox _ s

inductive Call where
  | handler
  | followUp
  | report (fault : Fault)
  deriving Repr

inductive Event (μ : Type) where
  | posted (message : μ)
  | called (call : Call) (message : μ) (held : Bool)
  | returned (call : Call) (message : μ) (fault : Option Fault)
  deriving Repr

namespace Event

def posted? : Event μ → Option μ
  | .posted message => some message
  | .called .. | .returned .. => none

def handled? : Event μ → Option μ
  | .called .handler message _ => some message
  | .called .. | .posted _ | .returned .. => none

end Event

def postedIn (events : List (Event μ)) : List μ := events.filterMap Event.posted?

def handledIn (events : List (Event μ)) : List μ := events.filterMap Event.handled?

def segment (call : Call) (message : μ) (held : Bool) (posts : List μ) (fault : Option Fault) :
    List (Event μ) :=
  .called call message held :: (posts.map .posted ++ [.returned call message fault])

@[simp]
theorem postedIn_append (events more : List (Event μ)) :
    postedIn (events ++ more) = postedIn events ++ postedIn more := List.filterMap_append

@[simp]
theorem handledIn_append (events more : List (Event μ)) :
    handledIn (events ++ more) = handledIn events ++ handledIn more := List.filterMap_append

@[simp]
theorem postedIn_posted (message : μ) (events : List (Event μ)) :
    postedIn (.posted message :: events) = message :: postedIn events := rfl

@[simp]
theorem handledIn_posted (message : μ) (events : List (Event μ)) :
    handledIn (.posted message :: events) = handledIn events := rfl

section Segment

variable (call : Call) (message : μ) (held : Bool) (posts : List μ) (fault : Option Fault)

@[simp]
theorem postedIn_segment : postedIn (segment call message held posts fault) = posts := by
  have posted : postedIn (posts.map Event.posted) = posts := by
    simp [postedIn, List.filterMap_map, Function.comp_def, Event.posted?]
  change postedIn (posts.map Event.posted ++ _) = posts
  rw [postedIn_append, posted]
  exact List.append_nil posts

theorem handledIn_posts : handledIn (posts.map Event.posted) = [] := by
  simp [handledIn, Event.handled?]

@[simp]
theorem handledIn_segment_handler :
    handledIn (segment .handler message held posts fault) = [message] := by
  change message :: handledIn (posts.map Event.posted ++ _) = _
  rw [handledIn_append, handledIn_posts]
  rfl

@[simp]
theorem handledIn_segment_followUp :
    handledIn (segment .followUp message held posts fault) = [] := by
  change handledIn (posts.map Event.posted ++ _) = _
  rw [handledIn_append, handledIn_posts]
  rfl

@[simp]
theorem handledIn_segment_report (f : Fault) :
    handledIn (segment (.report f) message held posts fault) = [] := by
  change handledIn (posts.map Event.posted ++ _) = _
  rw [handledIn_append, handledIn_posts]
  rfl

end Segment

section Watch

variable (desk : Desk σ μ β)

def postedSince (s t : σ) : List μ := (desk.box t).queue.drop (desk.box s).queue.length

def failure : Except Fault α → Option Fault
  | .ok _ => none
  | .error f => some f

def watch (call : Call) (message : μ) (act : Act σ α) : Act (σ × List (Event μ)) α :=
  ExceptT.mk fun (s, seen) =>
    let (result, t) := act.run s
    (result, t, seen ++
      segment call message (desk.gate.isHeld s) (desk.postedSince s t) (failure result))

def watched : Desk (σ × List (Event μ)) μ β where
  gate := ⟨fun x => desk.gate.isHeld x.1, fun held x => (desk.gate.setHeld held x.1, x.2)⟩
  box x := desk.box x.1
  setBox b x := (desk.setBox b x.1, x.2)
  handler message := desk.watch .handler message (desk.handler message)
  followUp message wanted := desk.watch .followUp message (desk.followUp message wanted)
  onError f message := desk.watch (.report f) message (desk.onError f message)
  drained x := (desk.drained x.1, x.2)
  turns x := desk.turns x.1
  box_setBox b x := desk.box_setBox b x.1
  held_setBox b x := desk.held_setBox b x.1
  box_setHeld h x := desk.box_setHeld h x.1
  held_setHeld h x := desk.held_setHeld h x.1
  box_drained x := desk.box_drained x.1
  held_drained x := desk.held_drained x.1

def watchedPost (message : μ) : Act (σ × List (Event μ)) Unit := do
  modify fun x => (x.1, x.2 ++ [.posted message])
  desk.watched.inbox.post message

theorem run_watch {call : Call} {message : μ} {act : Act σ α} {s t : σ} {result : Except Fault α}
    (ran : act.run s = (result, t)) (seen : List (Event μ)) :
    (desk.watch call message act).run (s, seen) = (result, t, seen ++
      segment call message (desk.gate.isHeld s) (desk.postedSince s t) (failure result)) := by
  change act s = (result, t) at ran
  change ((act s).1, (act s).2, _) = _
  rw [ran]

end Watch

section Posts

variable (desk : Desk σ μ β) {P : μ → Prop} {s t u : σ} {posts more : List μ}

/-- From a state with a draining mailbox to one whose queue has grown by some messages that can
come, with the gate as it was. -/
structure Grown (P : μ → Prop) (s : σ) (posts : List μ) (t : σ) : Prop where
  box : desk.box t = ⟨(desk.box s).queue ++ posts, true⟩
  held : desk.gate.isHeld t = desk.gate.isHeld s
  may : ∀ message ∈ posts, P message

/-- While the mailbox is draining, all that happens to it is that messages are posted. -/
def Posts (P : μ → Prop) (s t : σ) : Prop :=
  (desk.box s).draining = true → ∃ posts, desk.Grown P s posts t

variable {desk}

theorem Grown.trans (first : desk.Grown P s posts t) (next : desk.Grown P t more u) :
    desk.Grown P s (posts ++ more) u where
  box := by rw [next.box, first.box, List.append_assoc]
  held := next.held.trans first.held
  may message h := (List.mem_append.mp h).elim (first.may message) (next.may message)

theorem Grown.draining (grown : desk.Grown P s posts t) : (desk.box t).draining = true := by
  rw [grown.box]

theorem Grown.postedSince (grown : desk.Grown P s posts t) : desk.postedSince s t = posts := by
  rw [Desk.postedSince, grown.box, List.drop_left]

theorem Posts.push {message : μ} (may : P message) (s : σ) :
    desk.Posts P s (desk.inbox.change (·.push message) s) := by
  intro draining
  refine ⟨[message], ?_, desk.held_change _ s, by simpa using may⟩
  rw [box_change, ← draining]
  rfl

/-- A post from a callback only adds to the queue. -/
theorem moves_post {message : μ} (may : P message) :
    Act.Moves (desk.Posts P) (desk.inbox.post message) := by
  intro s draining
  have still : (desk.inbox.box (desk.inbox.change (·.push message) s)).draining = true :=
    (congrArg Mailbox.draining (desk.box_change _ s)).trans draining
  have ran : (desk.inbox.post message).run s =
      (.ok (), desk.inbox.change (·.push message) s) := by
    refine (Act.run_bind_ok (Act.run_modify _ s) _).trans ?_
    refine (Act.run_bind_ok (Act.run_get _) _).trans ?_
    rw [if_pos still]
    rfl
  rw [ran]
  exact Posts.push may s draining

/-- A watched callback that only posts is seen from its start to its end. -/
theorem run_watch_posts {act : Act σ α} (h : Act.Moves (desk.Posts P) act)
    (draining : (desk.box s).draining = true) (call : Call) (message : μ) :
    ∃ result posts t, act.run s = (result, t) ∧ desk.Grown P s posts t ∧
      ∀ seen, (desk.watch call message act).run (s, seen) = (result, t, seen ++
        segment call message (desk.gate.isHeld s) posts (failure result)) := by
  obtain ⟨posts, grown⟩ := h s draining
  rcases ran : act.run s with ⟨result, t⟩
  rw [ran] at grown
  refine ⟨result, posts, t, rfl, grown, fun seen => ?_⟩
  rw [run_watch desk ran, grown.postedSince]

end Posts

end Desk

end SafetyBoard
