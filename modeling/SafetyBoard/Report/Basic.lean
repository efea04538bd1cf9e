import SafetyBoard.Severity
import SafetyBoard.Text.Basic

/-!
What a source reports for a user: perhaps a status, and issues with the actions that remedy them.
The ids are whatever the source chose, garbled ones included.
-/

namespace SafetyBoard

inductive IssueCategory where
  | device
  | account
  | general
  deriving DecidableEq, Repr

inductive IconType where
  | gear
  | info
  deriving DecidableEq, Repr

def IssueCategory.all : List IssueCategory := [.device, .account, .general]

def IssueCategory.name : IssueCategory → String
  | .device => "device"
  | .account => "account"
  | .general => "general"

def IconType.all : List IconType := [.gear, .info]

def IconType.name : IconType → String
  | .gear => "gear"
  | .info => "info"

structure IssueAction where
  id : Text
  label : Text
  resolving : Bool
  successMessage : Option Text
  pendingAction : Option Text
  deriving DecidableEq, Repr

structure Issue where
  id : Text
  typeId : Text
  severity : SourceSeverity
  category : IssueCategory
  title : Text
  summary : Text
  subtitle : Option Text
  actions : List IssueAction
  deriving DecidableEq, Repr

structure IconAction where
  type : IconType
  pendingAction : Text
  deriving DecidableEq, Repr

structure Status where
  title : Text
  summary : Text
  severity : SourceSeverity
  enabled : Bool
  pendingAction : Option Text
  iconAction : Option IconAction
  deriving DecidableEq, Repr

structure Report where
  status : Option Status
  issues : List Issue
  deriving DecidableEq, Repr

def Issue.action? (i : Issue) (actionId : Text) : Option IssueAction :=
  i.actions.find? (·.id = actionId)

def Report.issue? (r : Report) (issueId : Text) : Option Issue := r.issues.find? (·.id = issueId)

def Report.issueIds (r : Report) : List Text := r.issues.map (·.id)

def Report.isSpelled (r : Report) : Bool := r.issueIds.all Text.isSpelled

end SafetyBoard
