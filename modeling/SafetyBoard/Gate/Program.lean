import SafetyBoard.Gate

/-!
Programs over one gate: sequences of entering it, failing, catching and looking. Running one gives
the trace of what happened.
-/

namespace SafetyBoard.Gate

inductive Command where
  | enter (body : List Command) (value : Option Json)
  | attempt (body : List Command)
  | fail (message : String)
  | look
  deriving Repr

inductive Trace where
  | entered (held : Bool)
  | left (held : Bool) (value : Option Json)
  | passed
  | caught (fault : Fault) (held : Bool)
  | looked (held : Bool)
  deriving Repr

structure Run where
  held : Bool
  trace : List Trace
  deriving Repr

def Run.gate : Gate Run := ⟨Run.held, fun held r => { r with held }⟩

def Run.note (f : Bool → Trace) (r : Run) : Run := { r with trace := r.trace ++ [f r.held] }

mutual

def Command.exec : Command → Act Run Unit
  | .enter body value => do
    Run.gate.run do
      modify (Run.note .entered)
      execAll body
    modify (Run.note (.left · value))
  | .attempt body =>
    tryCatch (do execAll body; modify (Run.note fun _ => .passed))
      fun f => modify (Run.note (.caught f))
  | .fail message => throw (.foreign message)
  | .look => modify (Run.note .looked)

def execAll : List Command → Act Run Unit
  | [] => pure ()
  | c :: rest => do
    c.exec
    execAll rest

end

def Run.start : Run := ⟨false, []⟩

end SafetyBoard.Gate
