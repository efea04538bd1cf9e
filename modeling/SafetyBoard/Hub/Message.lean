import SafetyBoard.Dismissal.Basic
import SafetyBoard.Json.Basic
import SafetyBoard.Refresh.Reason
import SafetyBoard.Telemetry
import SafetyBoard.View.Basic

/-!
What goes in and out of a hub: messages of the transport, requests to sources, operations of callers
and their answers. Messages and operations leave open how a session is named.
-/

namespace SafetyBoard

inductive MessageOf (ι : Type) where
  | sourceData (key : SourceKey) (payload : Json) (session : Option ι)
  | sourceError (key : SourceKey) (session : Option ι)
  | refreshTimeout (session : ι)
  | userRemoved (user : UserId)
  deriving Repr

abbrev Message := MessageOf String

namespace MessageOf

def map {ι κ : Type} (f : ι → κ) : MessageOf ι → MessageOf κ
  | .sourceData key payload session => .sourceData key payload (session.map f)
  | .sourceError key session => .sourceError key (session.map f)
  | .refreshTimeout session => .refreshTimeout (f session)
  | .userRemoved user => .userRemoved user

def type {ι : Type} : MessageOf ι → String
  | .sourceData .. => "source_data"
  | .sourceError .. => "source_error"
  | .refreshTimeout _ => "refresh_timeout"
  | .userRemoved _ => "user_removed"

end MessageOf

structure RefreshRequest where
  sessionId : String
  reason : RefreshReason
  sourceId : String
  packageName : Text
  userId : UserId
  deriving DecidableEq, Repr

def RefreshRequest.key (r : RefreshRequest) : SourceKey := ⟨r.sourceId, r.userId⟩

/-- The state of one user group with that of each source that may be logged. -/
structure Snapshot where
  state : SafetyState
  sources : List SourceState
  deriving DecidableEq, Repr

inductive OperationOf (ι : Type) where
  | refresh (reason : RefreshReason) (group : UserGroup)
  | receive (message : MessageOf ι)
  | setSourceData (key : SourceKey) (payload : Json) (session : Option ι)
  | reportSourceError (key : SourceKey) (session : Option ι)
  | dismissIssue (issue : IssueKey)
  | executeIssueAction (issue : IssueKey) (actionId : String)
  | clearAllData
  | clearForUser (user : UserId)
  | exportRecords
  | importRecords (records : List PersistedRecord)
  | view (group : UserGroup)
  | pullSafetyState (groups : List UserGroup)
  | refreshStatus
  | isEnabled
  deriving Repr

abbrev Operation := OperationOf String

def OperationOf.map {ι κ : Type} (f : ι → κ) : OperationOf ι → OperationOf κ
  | .refresh reason group => .refresh reason group
  | .receive message => .receive (message.map f)
  | .setSourceData key payload session => .setSourceData key payload (session.map f)
  | .reportSourceError key session => .reportSourceError key (session.map f)
  | .dismissIssue issue => .dismissIssue issue
  | .executeIssueAction issue actionId => .executeIssueAction issue actionId
  | .clearAllData => .clearAllData
  | .clearForUser user => .clearForUser user
  | .exportRecords => .exportRecords
  | .importRecords records => .importRecords records
  | .view group => .view group
  | .pullSafetyState groups => .pullSafetyState groups
  | .refreshStatus => .refreshStatus
  | .isEnabled => .isEnabled

inductive Answer where
  | nothing
  | session (id : String)
  | flag (value : Bool)
  | action (action : Option IssueAction)
  | records (records : List PersistedRecord)
  | view (view : View)
  | snapshots (snapshots : List Snapshot)
  | status (status : RefreshStatus)
  deriving DecidableEq, Repr

end SafetyBoard
