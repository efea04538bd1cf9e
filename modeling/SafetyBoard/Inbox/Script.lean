import SafetyBoard.Inbox

/-!
Scripted messages: each says what its handler does, what follows once the gate is free, and what the
report of its failure does. As a run handles each message once, every run of handlers that ends is
the run of some script.
-/

namespace SafetyBoard.Inbox

inductive Action where
  | post (id : String) (body : List Action) (followUp : Option (List Action))
      (onFault : List Action)
  | enter
  | fail (message : String)
  | look
  deriving Repr

structure Letter where
  id : String
  body : List Action
  followUp : Option (List Action)
  onFault : List Action
  deriving Repr

inductive Reporting where
  | silent
  | scripted
  | failing
  deriving DecidableEq, Repr

inductive Trace where
  | posted (id : String) (pending : Nat)
  | entered
  | looked (held : Bool) (pending : Nat)
  | handling (id : String) (held : Bool) (pending : Nat)
  | following (id : String) (held : Bool) (pending : Nat)
  | reported (id : String) (fault : Fault) (held : Bool)
  deriving Repr

structure Run where
  held : Bool
  box : Mailbox Letter
  trace : List Trace
  deriving Repr

namespace Run

def start : Run := ⟨false, .empty, []⟩

def gate : Gate Run := ⟨held, fun held r => { r with held }⟩

def note (f : Run → Trace) (r : Run) : Run := { r with trace := r.trace ++ [f r] }

def pending (r : Run) : Nat := r.box.queue.length

end Run

mutual

def Action.weight : Action → Nat
  | .post _ body followUp onFault => 1 + weights body + weights? followUp + weights onFault
  | .enter | .fail _ | .look => 0

def weights : List Action → Nat
  | [] => 0
  | a :: rest => a.weight + weights rest

def weights? : Option (List Action) → Nat
  | none => 0
  | some actions => weights actions

end

def Letter.weight (l : Letter) : Nat :=
  1 + weights l.body + weights? l.followUp + weights l.onFault

def totalWeight (letters : List Letter) : Nat := letters.foldr (fun l n => l.weight + n) 0

def Run.turns (r : Run) : Nat := totalWeight r.box.queue

/-- Posting while the inbox is draining only adds to the queue. -/
def push (l : Letter) (r : Run) : Run := { r with box := r.box.push l }

/-- One action of a handler, a follow-up or a report: these run while the inbox is draining. -/
def Action.act : Action → Act Run Unit
  | .post id body followUp onFault => do
    modify (push ⟨id, body, followUp, onFault⟩)
    modify (Run.note fun r => .posted id r.pending)
  | .enter => Run.gate.run (modify (Run.note fun _ => .entered))
  | .fail message => throw (.foreign message)
  | .look => modify (Run.note fun r => .looked r.held r.pending)

def actAll (actions : List Action) : Act Run Unit := actions.forM Action.act

def Letter.handle (l : Letter) : Act Run Unit := do
  Run.gate.run do
    modify (Run.note fun r => .handling l.id r.held r.pending)
    actAll l.body
  match l.followUp with
  | none => pure ()
  | some actions =>
    modify (Run.note fun r => .following l.id r.held r.pending)
    actAll actions

def Letter.report (reporting : Reporting) (f : Fault) (l : Letter) : Act Run Unit :=
  match reporting with
  | .silent => pure ()
  | .scripted => do
    modify (Run.note fun r => .reported l.id f r.held)
    actAll l.onFault
  | .failing => do
    modify (Run.note fun r => .reported l.id f r.held)
    throw (.foreign ("onError " ++ l.id))

def scripted (reporting : Reporting) : Inbox Run Letter where
  box := Run.box
  setBox box r := { r with box }
  handle := Letter.handle
  report := Letter.report reporting
  drained := id
  turns := Run.turns

end SafetyBoard.Inbox
