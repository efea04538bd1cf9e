import SafetyBoard.Gate

/-!
The inbox of the hub. Messages are handled in the order in which they were posted; one that is
posted while the inbox is draining waits for its turn. A handler that fails is reported together
with its message and does not keep later messages from their turn. Only a failing report ends the
draining early: then the messages that are left wait for the next post.
-/

namespace SafetyBoard

structure Mailbox (μ : Type) where
  queue : List μ
  draining : Bool
  deriving DecidableEq, Repr

def Mailbox.empty {μ : Type} : Mailbox μ := ⟨[], false⟩

def Mailbox.push {μ : Type} (b : Mailbox μ) (message : μ) : Mailbox μ :=
  { b with queue := b.queue ++ [message] }

/-- Where a state keeps the mailbox, how a message is handled and how a failure is reported. `turns`
bounds the messages that will be handled from a state on. -/
structure Inbox (σ μ : Type) where
  box : σ → Mailbox μ
  setBox : Mailbox μ → σ → σ
  handle : μ → Act σ Unit
  report : Fault → μ → Act σ Unit
  drained : σ → σ
  turns : σ → Nat

namespace Inbox

variable {σ μ : Type} (inbox : Inbox σ μ)

def change (f : Mailbox μ → Mailbox μ) (s : σ) : σ := inbox.setBox (f (inbox.box s)) s

/-- Takes messages one by one until none is left or the turns are used up. -/
def drain : Nat → Act σ Unit
  | 0 => pure ()
  | turns + 1 => do
    match (inbox.box (← get)).queue with
    | [] => pure ()
    | message :: rest =>
      modify (inbox.change ({ · with queue := rest }))
      tryCatch (inbox.handle message) fun f => inbox.report f message
      drain turns

def setDraining (draining : Bool) : σ → σ := inbox.change ({ · with draining })

def drainAll : Act σ Unit := ExceptT.mk fun s =>
  let (result, s) := (inbox.drain (inbox.turns s)).run (inbox.setDraining true s)
  (result, inbox.setDraining false s)

theorem run_drainAll (s : σ) :
    inbox.drainAll.run s =
      let drained := (inbox.drain (inbox.turns s)).run (inbox.setDraining true s)
      (drained.1, inbox.setDraining false drained.2) := rfl

def post (message : μ) : Act σ Unit := do
  modify (inbox.change (·.push message))
  if (inbox.box (← get)).draining then pure ()
  else
    inbox.drainAll
    modify inbox.drained

end Inbox

end SafetyBoard
