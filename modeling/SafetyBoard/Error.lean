import SafetyBoard.Json.Basic
import SafetyBoard.Keys

/-!
What can go wrong, as causes. Each error has one message and one category; a category carries the
advice that is shown to a user.
-/

namespace SafetyBoard

inductive ErrorCategory where
  | invalidConfig
  | invalidSourceData
  | unknownSource
  | unknownIssue
  | reentrantCall
  | featureDisabled
  | unknown
  deriving DecidableEq, Repr

namespace ErrorCategory

def all : List ErrorCategory :=
  [.invalidConfig, .invalidSourceData, .unknownSource, .unknownIssue, .reentrantCall,
    .featureDisabled, .unknown]

def name : ErrorCategory → String
  | .invalidConfig => "INVALID_CONFIG"
  | .invalidSourceData => "INVALID_SOURCE_DATA"
  | .unknownSource => "UNKNOWN_SOURCE"
  | .unknownIssue => "UNKNOWN_ISSUE"
  | .reentrantCall => "REENTRANT_CALL"
  | .featureDisabled => "FEATURE_DISABLED"
  | .unknown => "UNKNOWN"

def code (c : ErrorCategory) : String := "ERR_" ++ c.name

end ErrorCategory

structure Advice where
  userMessage : String
  retryable : Bool
  suggestedActions : List String
  deriving DecidableEq, Repr

def ErrorCategory.advice : ErrorCategory → Advice
  | .invalidConfig =>
    ⟨"The safety source configuration could not be loaded.", false, ["Fix configuration"]⟩
  | .invalidSourceData =>
    ⟨"A safety source sent data that could not be accepted.", false, ["Check source data"]⟩
  | .unknownSource => ⟨"That safety source is not configured.", false, ["Check source id"]⟩
  | .unknownIssue => ⟨"That issue is no longer reported.", false, ["Refresh"]⟩
  | .reentrantCall => ⟨"Something unexpected happened. Please try again.", true, ["Retry"]⟩
  | .featureDisabled =>
    ⟨"Safety status is turned off on this device.", false, ["Enable the feature"]⟩
  | .unknown =>
    ⟨"Something unexpected happened. Please try again.", true, ["Retry", "Contact support"]⟩

inductive HubError where
  | general (message : Text) (category : ErrorCategory) (retryable : Bool)
      (correlation : Option String)
  | invalidConfig (message : Text) (issues : List Text)
  | invalidSourceData (sourceId message : Text)
  | unknownSource (sourceId : Text)
  | unknownIssue (message : Text)
  | reentrant
  | featureDisabled (operation : String)
  deriving DecidableEq, Repr

namespace HubError

def message : HubError → Text
  | .general message _ _ _ => message
  | .invalidConfig message issues =>
    if issues = [] then message else message ++ ": " ++ Text.join "; " issues
  | .invalidSourceData _ message => message
  | .unknownSource sourceId => "Unexpected source id: " ++ sourceId
  | .unknownIssue message => message
  | .reentrant => "Critical section entered while already held"
  | .featureDisabled operation => operation ++ " called while the hub is disabled"

def category : HubError → ErrorCategory
  | .general _ category _ _ => category
  | .invalidConfig _ _ => .invalidConfig
  | .invalidSourceData _ _ => .invalidSourceData
  | .unknownSource _ => .unknownSource
  | .unknownIssue _ => .unknownIssue
  | .reentrant => .reentrantCall
  | .featureDisabled _ => .featureDisabled

def retryable : HubError → Bool
  | .general _ _ retryable _ => retryable
  | _ => false

def correlation : HubError → Option String
  | .general _ _ _ correlation => correlation
  | _ => none

def issueNotReported (key : IssueKey) : HubError :=
  .unknownIssue ("Issue " ++ key.encode ++ " is not currently reported")

def actionNotFound (key : IssueKey) (actionId : String) : HubError :=
  .unknownIssue ("No action " ++ actionId ++ " on issue " ++ key.encode)

def managedUnsupported (sourceId : Text) (user : UserId) : HubError :=
  .invalidSourceData sourceId
    ("Source " ++ sourceId ++ " does not support managed profile " ++ user.text)

def invalidConfiguration (issues : List Text) : HubError :=
  .invalidConfig "Invalid safety source configuration" issues

def invalidRecords (issues : List Text) : HubError :=
  .invalidConfig "Invalid persisted issue records" issues

end HubError

/-- Anything that an operation can fail with: an error of the hub, the refusal to encode a garbled
text, an error of a collaborator, or a bare value in place of an error. -/
inductive Fault where
  | hub (error : HubError)
  | malformedUri
  | foreign (message : String)
  | bare (value : Json)
  deriving Repr

namespace Fault

def category : Fault → ErrorCategory
  | .hub error => error.category
  | .malformedUri | .foreign _ | .bare _ => .unknown

def details : Fault → Text
  | .hub error => error.message
  | .malformedUri => "URI malformed"
  | .foreign message => message
  | .bare value => value.plainText

end Fault

/-- An error as handed to a caller. Without a correlation id a fresh one is generated. -/
structure ErrorResponse where
  category : ErrorCategory
  details : Text
  correlation : Option String
  deriving DecidableEq, Repr

/-- An error of the hub has its correlation id already; the given one is for all others. The empty
id counts as none. -/
def Fault.response (f : Fault) (correlation : Option String) : ErrorResponse :=
  let own := match f with
    | .hub error => error.correlation
    | .malformedUri | .foreign _ | .bare _ => correlation
  ⟨f.category, f.details, own.filter (· ≠ "")⟩

end SafetyBoard
