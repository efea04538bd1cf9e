import SafetyBoard.Keys
import SafetyBoard.Report.Basic
import SafetyBoard.Refresh.Reason
import SafetyBoard.Source.Basic

/-!
What a group of users is shown. A view holds nothing of its own; it is made anew for every look.
-/

namespace SafetyBoard

structure ViewAction where
  id : Text
  label : Text
  resolving : Bool
  inFlight : Bool
  successMessage : Option Text
  pendingAction : Option Text
  deriving DecidableEq, Repr

structure ViewIssue where
  id : String
  key : IssueKey
  typeId : Text
  severity : IssueSeverity
  category : IssueCategory
  title : Text
  summary : Text
  subtitle : Option Text
  shouldConfirmDismissal : Bool
  actions : List ViewAction
  deriving DecidableEq, Repr

inductive UnspecifiedIcon where
  | noIcon
  | noRecommendation
  | privacy
  deriving DecidableEq, Repr

def UnspecifiedIcon.name : UnspecifiedIcon → String
  | .noIcon => "no_icon"
  | .noRecommendation => "no_recommendation"
  | .privacy => "privacy"

structure Entry where
  id : String
  key : SourceKey
  title : Text
  summary : Option Text
  severity : EntrySeverity
  enabled : Bool
  pendingAction : Option Text
  unspecifiedIcon : UnspecifiedIcon
  iconAction : Option IconAction
  deriving DecidableEq, Repr

structure EntryGroup where
  id : String
  title : Text
  summary : Option Text
  severity : EntrySeverity
  unspecifiedIcon : UnspecifiedIcon
  entries : List Entry
  deriving DecidableEq, Repr

inductive EntryItem where
  | single (entry : Entry)
  | group (group : EntryGroup)
  deriving DecidableEq, Repr

def EntryItem.entries : EntryItem → List Entry
  | .single e => [e]
  | .group g => g.entries

/-- An entry of a rigid group: only what is needed to tap it. -/
structure StaticEntry where
  title : Text
  summary : Option Text
  pendingAction : Text
  deriving DecidableEq, Repr

structure StaticEntryGroup where
  title : Text
  entries : List StaticEntry
  deriving DecidableEq, Repr

structure View where
  overallSeverity : OverallSeverity
  refreshStatus : RefreshStatus
  title : String
  summary : String
  hasSettingsToReview : Bool
  issues : List ViewIssue
  entries : List EntryItem
  staticEntryGroups : List StaticEntryGroup
  deriving DecidableEq, Repr

/-- What is shown while the hub is disabled. -/
def View.disabled : View := ⟨.unknown, .none, "", "", false, [], [], []⟩

abbrev ActionResolver := Source → (user : UserId) → (paused : Bool) → Option Text

def ActionResolver.configured : ActionResolver := fun source _ _ => source.configuredAction

end SafetyBoard
