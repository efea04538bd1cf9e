import SafetyBoard.Report.Basic
import SafetyBoard.Source.Basic
import SafetyBoard.Json.Schema
import SafetyBoard.Error

/-!
Whether a payload is a report that its source may make. The payload is read with all defaults filled
in and unknown members dropped; then it is held against the configuration of the source.
-/

namespace SafetyBoard

namespace Report

open Reader

def readAction : Reader IssueAction := object fun members =>
  (fun id label resolving successMessage pendingAction =>
    { id, label, resolving, successMessage, pendingAction : IssueAction }) <$>
    required "id" text members <*>
    required "label" text members <*>
    defaulted "resolving" false flag members <*>
    optional "successMessage" text members <*>
    optional "pendingAction" text members

def issueSeverities : List SourceSeverity := [.information, .recommendation, .criticalWarning]

def readIssue : Reader Issue := object fun members =>
  (fun id typeId severity category title summary subtitle actions =>
    { id, typeId, severity, category, title, summary, subtitle, actions : Issue }) <$>
    required "id" text members <*>
    required "typeId" text members <*>
    required "severity" (choice issueSeverities SourceSeverity.name) members <*>
    defaulted "category" .general (choice IssueCategory.all IssueCategory.name) members <*>
    required "title" text members <*>
    required "summary" text members <*>
    optional "subtitle" text members <*>
    defaulted "actions" [] (list readAction) members

def readIconAction : Reader IconAction := object fun members =>
  (fun type pendingAction => { type, pendingAction : IconAction }) <$>
    required "type" (choice IconType.all IconType.name) members <*>
    required "pendingAction" text members

def readStatus : Reader Status := object fun members =>
  (fun title summary severity enabled pendingAction iconAction =>
    { title, summary, severity, enabled, pendingAction, iconAction : Status }) <$>
    required "title" text members <*>
    required "summary" text members <*>
    required "severity" (choice SourceSeverity.all SourceSeverity.name) members <*>
    defaulted "enabled" true flag members <*>
    optional "pendingAction" text members <*>
    optional "iconAction" readIconAction members

def read : Reader Report := object fun members =>
  (fun status issues => { status, issues : Report }) <$>
    optional "status" readStatus members <*>
    defaulted "issues" [] (list readIssue) members

end Report

inductive Rejection where
  | fixedSource
  | malformed (first : Finding) (more : List Finding)
  | statusFromIssueOnly
  | statusTooSevere (severity max : SourceSeverity)
  | duplicateIssue (issue : Text)
  | issueTooSevere (issue : Text) (severity max : SourceSeverity)
  | issueAboveStatus (issue : Text) (severity status : SourceSeverity)
  | duplicateAction (issue action : Text)
  deriving DecidableEq, Repr

namespace Rejection

def message (sourceId : Text) : Rejection → Text
  | .fixedSource => "Static source " ++ sourceId ++ " does not accept data"
  | .malformed first more =>
    "Malformed data from " ++ sourceId ++ ": " ++
      Text.join "; " ((first :: more).map Finding.text)
  | .statusFromIssueOnly => "Issue-only source " ++ sourceId ++ " cannot set a status"
  | .statusTooSevere severity max =>
    "Status severity " ++ severity.name ++ " exceeds " ++ max.name ++ " for " ++ sourceId
  | .duplicateIssue issue => "Duplicate issue id " ++ issue ++ " from " ++ sourceId
  | .issueTooSevere issue severity max =>
    "Issue " ++ issue ++ " severity " ++ severity.name ++ " exceeds " ++ max.name ++ " for " ++
      sourceId
  | .issueAboveStatus issue severity status =>
    "Issue " ++ issue ++ " severity " ++ severity.name ++ " exceeds status severity " ++
      status.name ++ " for " ++ sourceId
  | .duplicateAction issue action =>
    "Duplicate action id " ++ action ++ " in issue " ++ issue

def toError (sourceId : Text) (r : Rejection) : HubError :=
  .invalidSourceData sourceId (r.message sourceId)

end Rejection

namespace Admission

def actionFault? (issue : Text) : List Text → List IssueAction → Option Rejection
  | _, [] => none
  | seen, a :: rest =>
    if seen.contains a.id then some (.duplicateAction issue a.id)
    else actionFault? issue (a.id :: seen) rest

/-- The first fault of an issue list. An issue above information may not outrank the status of its
own report. -/
def issueFault? (max : SourceSeverity) (status : Option SourceSeverity) :
    List Text → List Issue → Option Rejection
  | _, [] => none
  | seen, i :: rest =>
    if seen.contains i.id then some (.duplicateIssue i.id)
    else if i.severity.exceeds max then some (.issueTooSevere i.id i.severity max)
    else
      let above := status.filter fun s =>
        i.severity.exceeds .information && i.severity.exceeds s
      match above with
      | some s => some (.issueAboveStatus i.id i.severity s)
      | none => actionFault? i.id [] i.actions <|> issueFault? max status (i.id :: seen) rest

def statusFault? (mayHaveStatus : Bool) (max : SourceSeverity) (status : Option Status) :
    Option Rejection :=
  match status with
  | none => none
  | some s =>
    if !mayHaveStatus then some .statusFromIssueOnly
    else if s.severity.exceeds max then some (.statusTooSevere s.severity max)
    else none

def fault? (mayHaveStatus : Bool) (max : SourceSeverity) (r : Report) : Option Rejection :=
  statusFault? mayHaveStatus max r.status <|>
    issueFault? max (r.status.map (·.severity)) [] r.issues

def readReporting (mayHaveStatus : Bool) (max : SourceSeverity) (payload : Json) :
    Except Rejection Report :=
  match Report.read payload with
  | .bad first more => .error (.malformed first more)
  | .good report =>
    match fault? mayHaveStatus max report with
    | some rejection => .error rejection
    | none => .ok report

end Admission

def SourceOf.accept {ι : Type} (s : SourceOf ι) (payload : Json) : Except Rejection Report :=
  match s.kind with
  | .fixed _ => .error .fixedSource
  | .dynamic reporting _ => Admission.readReporting true reporting.maxSeverity payload
  | .issueOnly reporting => Admission.readReporting false reporting.maxSeverity payload

end SafetyBoard
