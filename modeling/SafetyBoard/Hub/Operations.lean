import SafetyBoard.Hub.Host

/-!
The operations of a hub. Each changes the state behind the gate and then, outside it, talks to the
transport and the listeners. While the gate is held every operation that needs it fails, so nothing
changes the state between the moments of a change.
-/

namespace SafetyBoard.Hub

open HubAct

variable {σ : Type} (host : Host σ) (setup : Setup)

def speak : Signal → HubAct σ Unit
  | .log line => tell (host.log line)
  | .event e => if setup.settings.telemetryEnabled then host.emit e else pure ()
  | .cancel task => tell (host.cancel task)

def perform {α : Type} (change : Change HubState α) : HubAct σ α := do
  change.moments.forM fun (s, signal) => do
    setState s
    speak host setup signal
  setState change.after
  return change.result

def performOk {α : Type} : Except HubError (Change HubState α) → HubAct σ α
  | .error e => throw (.hub e)
  | .ok change => perform host setup change

def requireEnabled (operation : String) : HubAct σ Unit :=
  if setup.settings.enabled then pure () else throw (.hub (.featureDisabled operation))

def now : HubAct σ Number := do return host.now (← get).2

def log (line : LogLine) : HubAct σ Unit := tell (host.log line)

def view (group : UserGroup) : HubAct σ View := do
  if setup.settings.enabled then
    gate.run do
      let s ← getState
      (s.viewLines setup group).forM (log host)
      match s.draw setup group with
      | .error f => throw f
      | .ok view => return view
  else return .disabled

/-- Gives a fresh view to one listener; a failure, of the view or the listener, is logged and
forgotten. -/
def notifyOne (subscription : Subscription) : HubAct σ Unit :=
  tryCatch
    (do host.listen subscription.listener (← view host setup subscription.group))
    fun f => log host (.ofFault f
      [("component", .string HubState.tag), ("operation", .string "notifyListeners")])

def notify : HubAct σ Unit := do
  (← get).1.subscriptions.forM (notifyOne host setup)

def notifyIf (changed : Bool) : HubAct σ Unit := if changed then notify host setup else pure ()

def openRefresh (reason : RefreshReason) (group : UserGroup) : HubAct σ HubState.Opened :=
  gate.run do
    let startedAt ← now host
    perform host setup ((← getState).beginRefresh group startedAt)
    let unique ← ask host.unique
    let markedAt ← now host
    perform host setup
      ((← getState).openRefresh setup.registry reason group unique startedAt markedAt)

def setTimer (reason : RefreshReason) (id : String) : HubAct σ Unit := do
  let task ← ask (host.schedule (setup.settings.timeouts.delay reason) id)
  let s ← getState
  setState { s with pending := some ⟨id, task⟩ }

def refresh (reason : RefreshReason) (group : UserGroup) : HubAct σ String := do
  requireEnabled setup "refreshSources"
  let opened ← openRefresh host setup reason group
  if opened.awaiting then setTimer host setup reason opened.id else pure ()
  opened.requests.forM host.request
  notify host setup
  return opened.id

def applyData (key : SourceKey) (payload : Json) (session : Option String) : HubAct σ Bool := do
  let s ← getState
  match s.acceptPayload setup.registry key payload with
  | .error e => throw (.hub e)
  | .ok report =>
    let time ← now host
    if report.isSpelled then perform host setup (s.acceptReport key report session time)
    else
      setState (s.keepGarbled key report time)
      throw .malformedUri

def applyError (key : SourceKey) (session : Option String) : HubAct σ Bool := do
  match setup.registry.source? key.sourceId with
  | none => throw (.hub (.unknownSource key.sourceId))
  | some _ => perform host setup ((← getState).acceptError key session (← now host))

def applyClearForUser (user : UserId) : HubAct σ Bool := do
  perform host setup ((← getState).clearForUser user)

def applyImport (records : List PersistedRecord) : HubAct σ Unit := do
  (DismissalLedger.loadLines records).forM (log host)
  match (← getState).importRecords records with
  | .error f => throw f
  | .ok change => perform host setup change

/-- Handles a message behind the gate; tells whether the listeners are to be notified. -/
def applyMessage : Message → HubAct σ Bool
  | .sourceData key payload session => do
    requireEnabled setup "setSourceData"
    applyData host setup key payload session
  | .sourceError key session => do
    requireEnabled setup "reportSourceError"
    applyError host setup key session
  | .refreshTimeout id => do
    perform host setup ((← getState).applyTimeout id (← now host))
  | .userRemoved user => applyClearForUser host setup user

def inbox : Inbox (Hub × σ) Message where
  box s := s.1.mailbox
  setBox mailbox s := ({ s.1 with mailbox }, s.2)
  handle message := do
    let changed ← gate.run (applyMessage host setup message)
    notifyIf host setup changed
  report f message := do
    log host (.ofFault f [("component", .string "SerialInbox")])
    host.onError f message
  drained s := (s.1, host.log (.line .debug "SerialInbox" "Inbox drained" none) s.2)
  turns s := s.1.mailbox.queue.length + host.mayPost s.2

def receive (message : Message) : HubAct σ Unit := (inbox host setup).post message

def setSourceData (key : SourceKey) (payload : Json) (session : Option String) :
    HubAct σ Bool := do
  requireEnabled setup "setSourceData"
  let changed ← gate.run (applyData host setup key payload session)
  notifyIf host setup changed
  return changed

def reportSourceError (key : SourceKey) (session : Option String) : HubAct σ Unit := do
  requireEnabled setup "reportSourceError"
  let changed ← gate.run (applyError host setup key session)
  notifyIf host setup changed

def dismissIssue (key : IssueKey) : HubAct σ Unit := do
  requireEnabled setup "dismissIssue"
  gate.run do performOk host setup ((← getState).dismissIssue key (← now host))
  notify host setup

def executeIssueAction (key : IssueKey) (actionId : String) : HubAct σ (Option IssueAction) := do
  requireEnabled setup "executeIssueAction"
  let action ← gate.run do performOk host setup ((← getState).executeAction key actionId)
  notifyIf host setup action.isSome
  return action

def clearAllData : HubAct σ Unit := do
  gate.run do perform host setup (← getState).clearAll
  log host (.line .info HubState.tag "Cleared all data" none)
  notify host setup

def clearForUser (user : UserId) : HubAct σ Unit := do
  let changed ← gate.run (applyClearForUser host setup user)
  notifyIf host setup changed

def exportRecords : HubAct σ (List PersistedRecord) :=
  gate.run do perform host setup (← getState).exportRecords

def importRecords (records : List PersistedRecord) : HubAct σ Unit := do
  gate.run (applyImport host setup records)
  notify host setup

/-- Snapshots group by group, up to the first one that no view can be made for. -/
def pullSafetyState (groups : List UserGroup) : HubAct σ (List Snapshot) := do
  if setup.settings.enabled then
    gate.run do
      let s ← getState
      let snapshots ← perform host setup
        (s.pullSafetyState setup (groups.takeWhile (s.isDrawable setup)))
      match groups.dropWhile (s.isDrawable setup) with
      | [] => return snapshots
      | group :: _ =>
        (s.viewLines setup group).forM (log host)
        throw .malformedUri
  else return []

def refreshStatus : HubAct σ RefreshStatus :=
  gate.run do return (← getState).coordinator.status

def subscribe (listener : Nat) (group : UserGroup) : HubAct σ Unit := do
  gate.run do setState ((← getState).rememberGroup group)
  modify fun (hub, h) =>
    ({ hub with subscriptions := hub.subscriptions ++ [⟨listener, group⟩] }, h)

def unsubscribe (listener : Nat) : HubAct σ Unit :=
  modify fun (hub, h) =>
    ({ hub with subscriptions := hub.subscriptions.filter (·.listener ≠ listener) }, h)

def run : Operation → HubAct σ Answer
  | .refresh reason group => .session <$> refresh host setup reason group
  | .receive message => (fun _ => .nothing) <$> receive host setup message
  | .setSourceData key payload session => .flag <$> setSourceData host setup key payload session
  | .reportSourceError key session =>
    (fun _ => .nothing) <$> reportSourceError host setup key session
  | .dismissIssue issue => (fun _ => .nothing) <$> dismissIssue host setup issue
  | .executeIssueAction issue actionId =>
    .action <$> executeIssueAction host setup issue actionId
  | .clearAllData => (fun _ => .nothing) <$> clearAllData host setup
  | .clearForUser user => (fun _ => .nothing) <$> clearForUser host setup user
  | .exportRecords => .records <$> exportRecords host setup
  | .importRecords records => (fun _ => .nothing) <$> importRecords host setup records
  | .view group => .view <$> view host setup group
  | .pullSafetyState groups => .snapshots <$> pullSafetyState host setup groups
  | .refreshStatus => .status <$> refreshStatus
  | .isEnabled => pure (.flag setup.settings.enabled)

end SafetyBoard.Hub
