import SafetyBoard.Dismissal.Ledger
import SafetyBoard.Hub.Message
import SafetyBoard.Refresh.Coordinator
import SafetyBoard.Report.Admission
import SafetyBoard.Report.Store
import SafetyBoard.Settings
import SafetyBoard.View.Remarks

/-!
The state behind the gate and its changes. Each change is a total function of the state; whatever
may be refused is checked first, so a refusal leaves the state as it was.
-/

namespace SafetyBoard

/-- The timer of a session, with the task that the scheduler gave for it. -/
structure PendingTimeout where
  sessionId : String
  task : Nat
  deriving DecidableEq, Repr

structure HubState where
  store : ReportStore
  ledger : DismissalLedger
  coordinator : Coordinator
  pending : Option PendingTimeout
  groups : Table UserId UserGroup
  deriving DecidableEq, Repr

structure Setup where
  registry : Registry
  resolver : ActionResolver
  settings : Settings

namespace HubState

def tag := "SafetyHubOrchestrator"

def initial (settings : Settings) : HubState :=
  ⟨∅, ∅, .fresh settings.untrackedSourceIds, none, ∅⟩

def rememberGroup (s : HubState) (group : UserGroup) : HubState :=
  { s with groups := s.groups.insert group.parent group }

def withCoordinator (s : HubState) (c : Coordinator) : HubState := { s with coordinator := c }

def cancelPending (s : HubState) : Change HubState Unit :=
  match s.pending with
  | none => ⟨[], s, ()⟩
  | some p => ⟨[(s, .cancel p.task)], { s with pending := none }, ()⟩

/-- Before a session opens: the group is remembered, the old timer cancelled and the old session
told off. -/
def beginRefresh (s : HubState) (group : UserGroup) (now : Number) : Change HubState Unit :=
  (s.rememberGroup group).cancelPending.andThen fun s _ =>
    (s.coordinator.supersede now).within s.withCoordinator

/-- Opening the page asks a source again only if it allows that or has not reported. -/
def asks (s : HubState) (reason : RefreshReason) (reporting : Reporting) (key : SourceKey) : Bool :=
  reason ≠ .pageOpen || reporting.refreshOnPageOpenAllowed || (s.store.get? key).isNone

def requests (s : HubState) (registry : Registry) (reason : RefreshReason) (group : UserGroup)
    (id : String) : List RefreshRequest :=
  registry.externalSources.flatMap fun source =>
    match source.reporting? with
    | none => []
    | some reporting =>
      ((group.reportingUsers source.supportsManaged).filter fun user =>
        s.asks reason reporting ⟨source.id, user⟩).map fun user =>
          ⟨id, reason, source.id, reporting.packageName, user⟩

structure Opened where
  id : String
  requests : List RefreshRequest
  awaiting : Bool
  deriving DecidableEq, Repr

/-- Opens a session that awaits the tracked sources it asks; with none to await it ends at once. -/
def openRefresh (s : HubState) (registry : Registry) (reason : RefreshReason) (group : UserGroup)
    (unique : String) (startedAt markedAt : Number) : Change HubState Opened :=
  ((s.coordinator.openSession unique reason group startedAt).within s.withCoordinator).andThen
    fun s id =>
      let requests := s.requests registry reason group id
      ((s.coordinator.mark id (requests.map (·.key)) markedAt).within s.withCoordinator).andThen
        fun s _ =>
          let awaiting := !s.coordinator.inFlightKeys.isEmpty
          let s := if awaiting then s else s.withCoordinator (s.coordinator.clear (some id))
          ⟨[(s, .log (.line .info tag "Refresh requested"
              (some [("sessionId", .string id), ("reason", .string reason.name),
                ("sources", .number (.ofNat requests.length))])))],
            s, ⟨id, requests, awaiting⟩⟩

def isForeignProfile (s : HubState) (user : UserId) : Bool :=
  s.groups.values.any fun g => g.managed.any fun p => p.userId.equals user

def acceptPayload (s : HubState) (registry : Registry) (key : SourceKey) (payload : Json) :
    Except HubError Report :=
  match registry.source? key.sourceId with
  | none => .error (.unknownSource key.sourceId)
  | some source =>
    if !source.supportsManaged && s.isForeignProfile key.userId then
      .error (.managedUnsupported source.id key.userId)
    else
      match source.accept payload with
      | .error rejection => .error (rejection.toError source.id)
      | .ok report => .ok report

/-- Takes an answer to a session, if it names one; the timer goes with the session. -/
def completeSource (s : HubState) (key : SourceKey) (success : Bool) (session : Option String)
    (now : Number) : Change HubState Bool :=
  match session with
  | none => ⟨[], s, false⟩
  | some id =>
    ((s.coordinator.complete id key success now).within s.withCoordinator).andThen
      fun s completed =>
        if completed && s.pending.any (·.sessionId = id) then
          { s.cancelPending with result := completed }
        else ⟨[], s, completed⟩

def keyContext (key : SourceKey) : LogContext :=
  [("sourceId", .string key.sourceId), ("userId", .number key.userId)]

/-- Stores a report whose issues can be encoded, syncs the dismissal records with it and takes it as
an answer; tells whether anything observable changed. -/
def acceptReport (s : HubState) (key : SourceKey) (report : Report) (session : Option String)
    (now : Number) : Change HubState Bool :=
  let (reportChanged, store) := s.store.set key report
  let (actionsCleared, store) := store.clearActionsInFlight key
  let ledger := s.ledger.sync key report.issueIds (.ofNumber now)
  let completed := ({ s with store, ledger } : HubState).completeSource key true session now
  { completed.thenSay (.log (.line .debug tag "Source data set"
      (some (keyContext key ++ ([("reportChanged", .bool reportChanged)] : LogContext))))) with
    result := reportChanged || actionsCleared || completed.result }

/-- What a report with a garbled issue id leaves behind: it is stored, but the syncing stops on the
way and nothing after it is done. -/
def keepGarbled (s : HubState) (key : SourceKey) (report : Report) (now : Number) : HubState :=
  { s with
    store := (s.store.set key report).2
    ledger := s.ledger.sync key report.issueIds (.ofNumber now) }

def acceptError (s : HubState) (key : SourceKey) (session : Option String) (now : Number) :
    Change HubState Bool :=
  let (errorChanged, store) := s.store.markError key
  let (actionsCleared, store) := store.clearActionsInFlight key
  let completed := ({ s with store } : HubState).completeSource key false session now
  { completed.thenSay (.log (.line .warn tag "Source reported an error"
      (some (keyContext key)))) with
    result := errorChanged || actionsCleared || completed.result }

/-- A source that timed out is failed unless it has a report. -/
def markUnanswered (store : ReportStore) (key : SourceKey) : ReportStore :=
  if (store.get? key).isNone then (store.markError key).2 else store

def applyTimeout (s : HubState) (id : String) (now : Number) : Change HubState Bool :=
  let s := if s.pending.any (·.sessionId = id) then { s with pending := none } else s
  ((s.coordinator.timeout id now).within s.withCoordinator).andThen fun s unanswered =>
    ⟨[], { s with store := unanswered.foldl markUnanswered s.store }, !unanswered.isEmpty⟩

def issue? (s : HubState) (key : IssueKey) : Option Issue :=
  (s.store.get? key.source).bind (·.issue? key.issueId)

def dismissIssue (s : HubState) (key : IssueKey) (now : Number) :
    Except HubError (Change HubState Unit) :=
  match s.issue? key with
  | none => .error (.issueNotReported key)
  | some issue =>
    let after := { s with ledger := s.ledger.dismiss key issue.severity (.ofNumber now) }
    .ok ⟨[(after, .log (DismissalLedger.dismissLine key issue.severity))], after, ()⟩

/-- Marks an action as in flight and gives it; gives nothing if it is in flight already. -/
def executeAction (s : HubState) (key : IssueKey) (actionId : String) :
    Except HubError (Change HubState (Option IssueAction)) :=
  match s.issue? key with
  | none => .error (.issueNotReported key)
  | some issue =>
    match issue.action? actionId with
    | none => .error (.actionNotFound key actionId)
    | some action =>
      if s.store.isActionInFlight ⟨key, actionId⟩ then
        .ok ⟨[(s, .log (.line .debug tag "Issue action already in flight"
          (some [("issue", .string key.encode), ("actionId", .string actionId)])))], s, none⟩
      else
        .ok ⟨[], { s with store := s.store.markActionInFlight ⟨key, actionId⟩ }, some action⟩

def clearAll (s : HubState) : Change HubState Unit :=
  ({ s with
    store := ∅
    ledger := s.ledger.clear
    coordinator := s.coordinator.clear none } : HubState).cancelPending

def clearForUser (s : HubState) (user : UserId) : Change HubState Bool :=
  let (ended, coordinator) := s.coordinator.clearForUser user
  let s := { s with
    store := s.store.clearForUser user
    ledger := s.ledger.clearForUser user
    coordinator }
  let cancelled := if ended then s.cancelPending else ⟨[], s, ()⟩
  cancelled.andThen fun s _ =>
    let s := { s with groups := (s.groups.erase user).mapValues (·.dropManaged user) }
    ⟨[(s, .log (.line .info tag "Cleared data for user" (some [("userId", .number user)])))], s,
      true⟩

def exportRecords (s : HubState) : Change HubState (List PersistedRecord) :=
  ⟨[], { s with ledger := s.ledger.markSaved }, s.ledger.persisted⟩

def importRecords (s : HubState) (records : List PersistedRecord) :
    Except Fault (Change HubState Unit) :=
  match DismissalLedger.load records with
  | .error f => .error f
  | .ok ledger => .ok ⟨[], { s with ledger }, ()⟩

def isDrawable (s : HubState) (setup : Setup) (group : UserGroup) : Bool :=
  View.isDrawable setup.registry s.store s.ledger group

def draw (s : HubState) (setup : Setup) (group : UserGroup) : Except Fault View :=
  View.draw setup.registry setup.resolver s.store s.ledger s.coordinator.status group

def view (s : HubState) (setup : Setup) (group : UserGroup) : View :=
  View.compute setup.registry setup.resolver s.store s.ledger s.coordinator.status group

def viewLines (s : HubState) (setup : Setup) (group : UserGroup) : List LogLine :=
  View.lines setup.registry setup.resolver s.store s.ledger s.coordinator.status group

/-- The state of one source for one user: the highest severity of its status and open issues, and
how many issues are open and dismissed. -/
def sourceState (s : HubState) (source : Source) (group : UserGroup) (user : UserId) :
    SourceState :=
  let report := s.store.get? ⟨source.id, user⟩
  let (opened, dismissed) :=
    (View.sourceIssues s.store source user).partition (View.isOpen s.ledger)
  let severities := ((report.bind (·.status)).map (·.severity)).toList ++
    opened.map (·.issue.severity)
  { sourceId := source.id
    isUserManaged := !user.equals group.parent
    maxSeverity := match severities with
      | [] => none
      | first :: rest => some (rest.foldl SourceSeverity.max first)
    openIssueCount := .ofNat opened.length
    dismissedIssueCount := .ofNat dismissed.length }

def sourceStates (s : HubState) (registry : Registry) (group : UserGroup) : List SourceState :=
  (registry.externalSources.filter fun source => registry.isLoggingAllowed source.id).flatMap
    fun source => (group.reportingUsers source.supportsManaged).map (s.sourceState source group)

def snapshot (s : HubState) (setup : Setup) (group : UserGroup) : Snapshot :=
  let view := s.view setup group
  let openCount := view.issues.length
  { state := ⟨view.overallSeverity, .ofNat openCount,
      .ofNat (s.ledger.countActive group - openCount)⟩
    sources := s.sourceStates setup.registry group }

def pullSafetyState (s : HubState) (setup : Setup) (groups : List UserGroup) :
    Change HubState (List Snapshot) :=
  let signals := groups.flatMap fun group =>
    let found := s.snapshot setup group
    (s.viewLines setup group).map Signal.log ++
      Signal.event (.safetyState found.state) ::
        found.sources.map fun state => Signal.event (.sourceStateCollected state)
  ⟨signals.map fun signal => (s, signal), s, groups.map (s.snapshot setup)⟩

end HubState

end SafetyBoard
