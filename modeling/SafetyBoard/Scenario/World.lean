import SafetyBoard.Hub.Operations
import SafetyBoard.Scenario.Step
import SafetyBoard.Shell

/-!
The surroundings of the hubs of a scenario: a clock that is set by hand, timers that are fired by
hand, and a record of every call that a hub makes.
-/

namespace SafetyBoard.Scenario

inductive Reply where
  | answer (answer : Answer)
  | number (value : Number)
  | noSuchTask
  | shell (outcome : Shell.Outcome)
  deriving Repr

inductive Effect where
  | request (request : RefreshRequest)
  | schedule (task : Nat) (delay : Number)
  | cancel (task : Nat)
  | event (event : TelemetryEvent)
  | view (listener : String) (view : View)
  | onError (fault : Fault) (messageType : String)
  | log (line : LogLine)
  | nested (step : String) (outcome : Except Fault Reply)

structure Task where
  hub : Nat
  sessionId : String
  deriving DecidableEq, Repr

structure Listener where
  name : String
  scripts : List Script

structure World where
  plan : Plan
  clock : Number
  verbose : Bool
  hubs : List (Setup × Hub)
  tasks : List Task
  listeners : List Listener
  unsubscribers : Table String (Nat × Nat)
  calls : Table String Nat
  sessions : List String
  nextUnique : Nat
  exported : List PersistedRecord
  effects : List Effect

abbrev Play (α : Type) := Act World α

namespace World

def initial (plan : Plan) : World where
  plan := plan
  clock := plan.clock
  verbose := false
  hubs := []
  tasks := []
  listeners := []
  unsubscribers := ∅
  calls := ∅
  sessions := []
  nextUnique := 0
  exported := []
  effects := []

def note (e : Effect) (w : World) : World := { w with effects := w.effects ++ [e] }

def logLine (line : LogLine) (w : World) : World :=
  if line.isShown w.verbose then w.note (.log line) else w

def current (w : World) : Nat := w.hubs.length - 1

def sawSession (id : String) (w : World) : World :=
  if w.sessions.contains id then w else { w with sessions := w.sessions ++ [id] }

def uniqueText (n : Nat) : String :=
  let digits := toString n
  "00000000-0000-4000-8000-" ++ String.ofList (List.replicate (12 - digits.length) '0') ++ digits

def sessionId (w : World) (request : Option String) : SessionName → String
  | .nth n => w.sessions.getD n "no such session"
  | .id text => text
  | .ofRequest => request.getD "$request"

def setHub (i : Nat) (hub : Hub) (w : World) : World :=
  { w with hubs := w.hubs.modify i fun h => (h.1, hub) }

def build (overrides : Overrides) (w : World) : World :=
  let settings := w.plan.environment.settings.override overrides
  let w := w.plan.environment.warnings.foldl (fun w line => w.logLine line) w
  { w with
    verbose := w.verbose || settings.verboseLogging
    hubs := w.hubs ++ [(⟨w.plan.registry, w.plan.resolver, settings⟩, .initial settings)] }

end World

def onHub {α : Type} (i : Nat) (act : Setup → HubAct World α) : Play α := ExceptT.mk fun w =>
  match w.hubs[i]? with
  | none => (.error (.foreign "no such hub"), w)
  | some (setup, hub) =>
    let (result, hub, w) := (act setup).run (hub, w)
    (result, w.setHub i hub)

/-- Lets the world act while a hub is out: the hub is put back for the time being. -/
def outside {α : Type} (i : Nat) (play : Play α) : HubAct World α := ExceptT.mk fun (hub, w) =>
  let (result, w) := play.run (w.setHub i hub)
  match w.hubs[i]? with
  | none => (result, hub, w)
  | some (_, hub) => (result, hub, w)

def nextScript (collaborator : String) (scripts : List Script) : Play Script := do
  let w ← get
  let n := (w.calls.get? collaborator).getD 0
  modify fun v => { v with calls := v.calls.insert collaborator (n + 1) }
  return scripts.getD n []

end SafetyBoard.Scenario
