import SafetyBoard.Hub.Message
import SafetyBoard.Settings
import SafetyBoard.Source.Registry

/-!
Scenarios: what is done to a hub step by step, and what its collaborators do when they are called.
A collaborator has a list of scripts and runs the next one at each call, until there is none left.
-/

namespace SafetyBoard.Scenario

/-- How a step names a session: by when it was first seen, by its id, or as the session of the
request that the step answers. -/
inductive SessionName where
  | nth (n : Nat)
  | id (text : String)
  | ofRequest
  deriving DecidableEq, Repr

inductive Step where
  | operation (name : String) (operation : OperationOf SessionName)
  | importExported
  | subscribe (name : String) (group : UserGroup) (scripts : List (List (Bool × Step)))
  | unsubscribe (name : String)
  | advance (ms : Number)
  | fire (task : Number)
  | shell (arguments : List String)
  | restart (overrides : Option Overrides)
  | fail (message : String)

/-- Steps in a row. One that is marked passes its failure on instead of only noting it. -/
abbrev Script := List (Bool × Step)

def Step.name : Step → String
  | .operation name _ => name
  | .importExported => "importIssueRecords"
  | .subscribe _ _ _ => "subscribe"
  | .unsubscribe _ => "unsubscribe"
  | .advance _ => "advance"
  | .fire _ => "fire"
  | .shell _ => "shell"
  | .restart _ => "restart"
  | .fail _ => "throw"

mutual

def Step.size : Step → Nat
  | .subscribe _ _ scripts => 1 + scriptsSize scripts
  | .operation _ _ | .importExported | .unsubscribe _ | .advance _ | .fire _ | .shell _
  | .restart _ | .fail _ => 1

def scriptSize : List (Bool × Step) → Nat
  | [] => 0
  | (_, step) :: rest => step.size + scriptSize rest

def scriptsSize : List (List (Bool × Step)) → Nat
  | [] => 0
  | script :: rest => scriptSize script + scriptsSize rest

end

inductive ErrorCallback where
  | absent
  | recording
  | failing
  deriving DecidableEq, Repr

inductive Sink where
  | recording
  | console
  deriving DecidableEq, Repr

/-- A scenario apart from its steps: `respond` is by encoded source key, `onEvent` by event kind. -/
structure Plan where
  registry : Registry
  resolver : ActionResolver
  environment : Environment
  overrides : Overrides
  clock : Number
  sink : Sink
  onError : ErrorCallback
  respond : List (String × List Script)
  onEvent : List (String × List Script)

def total {α : Type} (size : α → Nat) (xs : List α) : Nat := xs.foldr (fun x n => size x + n) 0

def Plan.scriptSteps (p : Plan) : Nat :=
  total (fun e => scriptsSize e.2) (p.respond ++ p.onEvent)

end SafetyBoard.Scenario
