import SafetyBoard.Proofs.Hub.Execution

/-!
# What a step writes

A hub keeps data, which are its reports, its dismissal records and the groups that it knows, and
beside them the session and its timer. What a step writes to the data is one of a few things and is
the same at every moment of the step, save that a timeout marks its errors, and the removal of a
user changes the groups, only at the end.
-/

namespace SafetyBoard

namespace HubState

/-- The same data; the session and its timer may differ. -/
structure SameData (s t : HubState) : Prop where
  store : t.store = s.store
  ledger : t.ledger = s.ledger
  groups : t.groups = s.groups

variable {s t u : HubState}

theorem SameData.refl (s : HubState) : s.SameData s := ⟨rfl, rfl, rfl⟩

theorem SameData.trans (h : s.SameData t) (k : t.SameData u) : s.SameData u :=
  ⟨k.store.trans h.store, k.ledger.trans h.ledger, k.groups.trans h.groups⟩

theorem SameData.throughout {α : Type} (h : s.SameData t) {c : Change HubState α}
    (k : c.Throughout t.SameData) : c.Throughout s.SameData :=
  k.imp fun _ => h.trans

variable (s)

theorem within_sameData {α : Type} (c : Change Coordinator α) :
    (c.within s.withCoordinator).Throughout s.SameData :=
  Change.throughout_within (fun _ => ⟨rfl, rfl, rfl⟩) c

theorem cancelPending_sameData : s.cancelPending.Throughout s.SameData := by
  rw [cancelPending]
  split
  · exact Change.throughout_done (.refl s) ()
  · exact Change.throughout_once (.refl s) ⟨rfl, rfl, rfl⟩ _ ()

theorem completeSource_sameData (key : SourceKey) (success : Bool) (session : Option String)
    (now : Number) : (s.completeSource key success session now).Throughout s.SameData := by
  cases session with
  | none => exact Change.throughout_done (.refl s) false
  | some id =>
    apply (s.within_sameData (s.coordinator.complete id key success now)).andThen
    intro t completed same
    split
    · exact same.throughout t.cancelPending_sameData
    · exact Change.throughout_done same completed

def withReport (s : HubState) (key : SourceKey) (report : Report) (now : Number) : HubState :=
  { s with
    store := s.store.take key report
    ledger := s.ledger.sync key report.issueIds (.ofNumber now) }

def withError (s : HubState) (key : SourceKey) : HubState :=
  { s with store := ((s.store.markError key).2.clearActionsInFlight key).2 }

def withUnanswered (s : HubState) (keys : List SourceKey) : HubState :=
  { s with store := keys.foldl markUnanswered s.store }

def withoutUser (s : HubState) (user : UserId) : HubState :=
  { s with store := s.store.clearForUser user, ledger := s.ledger.clearForUser user }

def forgetUser (s : HubState) (user : UserId) : HubState :=
  { s with groups := (s.groups.erase user).mapValues (·.dropManaged user) }

theorem withReport_of_spelled (key : SourceKey) {report : Report} (spelled : report.isSpelled = true)
    (now : Number) : s.withReport key report now =
      { s with
        store := ((s.store.set key report).2.clearActionsInFlight key).2
        ledger := s.ledger.sync key report.issueIds (.ofNumber now) } := by
  rw [withReport, ReportStore.take, if_pos spelled]

theorem withReport_of_garbled (key : SourceKey) {report : Report} (garbled : report.isSpelled ≠ true)
    (now : Number) : s.withReport key report now = s.keepGarbled key report now := by
  rw [withReport, ReportStore.take, if_neg garbled]
  rfl

/-- A report that is stored may still be an answer. -/
theorem throughout_takeReport {P : HubState → Prop} {key : SourceKey} {report : Report}
    {session : Option String} {now : Number} (stored : P (s.withReport key report now))
    (completes : ((s.withReport key report now).completeSource key true session now).Throughout P) :
    (s.takeReport key report session now).Throughout P := by
  rw [takeReport]
  split
  · next spelled =>
    rw [s.withReport_of_spelled key spelled] at completes
    exact completes.thenSay _
  · next garbled =>
    rw [s.withReport_of_garbled key garbled] at stored
    exact Change.throughout_done stored false

theorem takeReport_sameData (key : SourceKey) (report : Report) (session : Option String)
    (now : Number) :
    (s.takeReport key report session now).Throughout (s.withReport key report now).SameData :=
  s.throughout_takeReport (.refl _) (completeSource_sameData _ key true session now)

theorem acceptError_sameData (key : SourceKey) (session : Option String) (now : Number) :
    (s.acceptError key session now).Throughout (s.withError key).SameData :=
  (completeSource_sameData (s.withError key) key false session now).thenSay _

theorem applyTimeout_sameData (id : String) (now : Number) :
    (∀ m ∈ (s.applyTimeout id now).moments, s.SameData m.1) ∧
      (s.withUnanswered (s.coordinator.timeout id now).result).SameData
        (s.applyTimeout id now).after := by
  have kept : s.SameData
      (if s.pending.any (·.sessionId = id) then { s with pending := none } else s) := by
    split <;> exact ⟨rfl, rfl, rfl⟩
  constructor
  · intro m hm
    rw [applyTimeout, Change.andThen, List.append_nil] at hm
    exact kept.trans ((within_sameData _ _).1 m hm)
  · dsimp only [applyTimeout, Change.andThen, Change.within, withCoordinator]
    split <;> exact ⟨rfl, rfl, rfl⟩

theorem clearForUser_sameData (user : UserId) :
    (∀ m ∈ (s.clearForUser user).moments, (s.withoutUser user).SameData m.1 ∨
        ((s.withoutUser user).forgetUser user).SameData m.1) ∧
      ((s.withoutUser user).forgetUser user).SameData (s.clearForUser user).after := by
  let t : HubState :=
    { s.withoutUser user with coordinator := (s.coordinator.clearForUser user).2 }
  have cleared : (s.withoutUser user).SameData t := ⟨rfl, rfl, rfl⟩
  have cancelled : (if (s.coordinator.clearForUser user).1 then t.cancelPending
      else ⟨[], t, ()⟩).Throughout (s.withoutUser user).SameData := by
    split
    · exact cleared.throughout t.cancelPending_sameData
    · exact Change.throughout_done cleared ()
  have forgotten : ((s.withoutUser user).forgetUser user).SameData
      (s.clearForUser user).after := by
    obtain ⟨store, ledger, groups⟩ := cancelled.2
    refine ⟨store, ledger, ?_⟩
    exact congrArg (fun groups => (Table.erase groups user).mapValues (·.dropManaged user)) groups
  refine ⟨fun m hm => ?_, forgotten⟩
  rcases List.mem_append.mp hm with early | last
  · exact Or.inl (cancelled.1 m early)
  · obtain rfl := List.mem_singleton.mp last
    exact Or.inr forgotten

theorem beginRefresh_sameData (group : UserGroup) (now : Number) :
    (s.beginRefresh group now).Throughout (s.rememberGroup group).SameData := by
  apply (cancelPending_sameData (s.rememberGroup group)).andThen
  intro t _ same
  exact same.throughout (t.within_sameData (t.coordinator.supersede now))

theorem openRefresh_sameData (registry : Registry) (reason : RefreshReason) (group : UserGroup)
    (unique : String) (startedAt markedAt : Number) :
    s.SameData (s.openRefresh registry reason group unique startedAt markedAt).after := by
  dsimp only [openRefresh, Change.andThen]
  split <;> exact ⟨rfl, rfl, rfl⟩

theorem refreshed_sameData (setup : Setup) (reason : RefreshReason) (group : UserGroup)
    (unique : String) (startedAt markedAt : Number) (task : Nat) :
    (s.rememberGroup group).SameData
      (s.refreshed setup reason group unique startedAt markedAt task) := by
  have opened := (s.beginRefresh_sameData group startedAt).2.trans
    (openRefresh_sameData _ setup.registry reason group unique startedAt markedAt)
  rw [refreshed]
  dsimp only
  split
  · exact ⟨opened.store, opened.ledger, opened.groups⟩
  · exact opened

end HubState

open HubState

inductive Writes (setup : Setup) (s : HubState) : Operation → HubState → Prop where
  /-- The operation was refused or only looked. -/
  | idle {operation t} (now) : s.change? setup now operation = none → s.SameData t →
      Writes setup s operation t
  | refresh {reason group t} : setup.settings.enabled = true →
      (s.rememberGroup group).SameData t → Writes setup s (.refresh reason group) t
  | report {operation key payload session report t} (now) :
      operation.message? = some (.sourceData key payload session) →
      setup.settings.enabled = true → s.acceptPayload setup.registry key payload = .ok report →
      (s.withReport key report now).SameData t → Writes setup s operation t
  | error {operation key session t} : operation.message? = some (.sourceError key session) →
      setup.settings.enabled = true → (setup.registry.source? key.sourceId).isSome = true →
      (s.withError key).SameData t → Writes setup s operation t
  | timeout {operation id t} (keys) : operation.message? = some (.refreshTimeout id) →
      (s.withUnanswered keys).SameData t → Writes setup s operation t
  | removal {operation user t} : operation.message? = some (.userRemoved user) →
      (s.withoutUser user).SameData t ∨ ((s.withoutUser user).forgetUser user).SameData t →
      Writes setup s operation t
  | dismissal {key issue t} (now : Number) : setup.settings.enabled = true →
      s.issue? key = some issue →
      { s with ledger := s.ledger.dismiss key issue.severity (.ofNumber now) }.SameData t →
      Writes setup s (.dismissIssue key) t
  | launch {key issue action t} {actionId : String} : setup.settings.enabled = true →
      s.issue? key = some issue → issue.action? actionId = some action →
      s.store.isActionInFlight ⟨key, actionId⟩ = false →
      { s with store := s.store.markActionInFlight ⟨key, actionId⟩ }.SameData t →
      Writes setup s (.executeIssueAction key actionId) t
  | relaunch {key t} {actionId : String} : s.store.isActionInFlight ⟨key, actionId⟩ = true →
      s.SameData t → Writes setup s (.executeIssueAction key actionId) t
  | clearing {t} : { s with store := ∅, ledger := s.ledger.clear }.SameData t →
      Writes setup s .clearAllData t
  | saving {t} : { s with ledger := s.ledger.markSaved }.SameData t →
      Writes setup s .exportRecords t
  | loading {records ledger t} : DismissalLedger.load records = .ok ledger →
      { s with ledger }.SameData t → Writes setup s (.importRecords records) t

namespace Writes

variable {setup : Setup} {faultless : Prop} {s t : HubState} {now : Number}

theorem of_message {operation : Operation} {message : Message}
    (sent : operation.message? = some message) {c : Change HubState Bool}
    (accepts : Accepts setup s now message c) (stops : c.Stops faultless t) :
    Writes setup s operation t := by
  cases accepts with
  | @sourceData key _ session report enabled accepted =>
    exact .report now sent enabled accepted
      ((s.takeReport_sameData key report session now).stops stops)
  | @sourceError key session enabled known =>
    exact .error sent enabled known ((s.acceptError_sameData key session now).stops stops)
  | refreshTimeout id =>
    obtain ⟨early, last⟩ := s.applyTimeout_sameData id now
    rcases stops with rfl | ⟨-, on_the_way⟩
    · exact .timeout _ sent last
    · obtain ⟨m, hm, rfl⟩ := List.mem_map.mp on_the_way
      exact .timeout [] sent (early m hm)
  | userRemoved user =>
    obtain ⟨early, last⟩ := s.clearForUser_sameData user
    rcases stops with rfl | ⟨-, on_the_way⟩
    · exact .removal sent (Or.inr last)
    · obtain ⟨m, hm, rfl⟩ := List.mem_map.mp on_the_way
      exact .removal sent (early m hm)

theorem of_change {operation : Operation} {c : Change HubState Unit}
    (makes : Makes setup s now operation c) (stops : c.Stops faultless t) :
    Writes setup s operation t := by
  cases makes with
  | message sent accepts => exact of_message sent accepts stops
  | dismissal enabled reported after =>
    have same := (Change.throughout_once (SameData.refl _) (.refl _) _ ()).stops stops
    exact .dismissal now enabled reported (after ▸ same)
  | launch enabled reported offered first =>
    exact .launch enabled reported offered first
      ((Change.throughout_done (SameData.refl _) ()).stops stops)
  | relaunch line again =>
    exact .relaunch again ((Change.throughout_once (SameData.refl s) (.refl s) _ ()).stops stops)
  | clearing =>
    have same := (cancelPending_sameData { s with
      store := ∅, ledger := s.ledger.clear, coordinator := s.coordinator.clear none }).stops stops
    exact .clearing ⟨same.store, same.ledger, same.groups⟩
  | saving => exact .saving ((Change.throughout_done (SameData.refl _) ()).stops stops)
  | loading loaded => exact .loading loaded ((Change.throughout_done (SameData.refl _) ()).stops stops)

end Writes

theorem Step.writes {setup : Setup} {faultless : Prop} {s t : HubState} {operation : Operation}
    (step : Step setup faultless s operation t) : Writes setup s operation t := by
  cases step with
  | change now changes stops => exact .of_change (makes_of_change? changes) stops
  | idle now unchanged _ => exact .idle now unchanged (.refl s)
  | interrupted enabled stops _ =>
    exact .refresh enabled ((s.beginRefresh_sameData _ _).stops stops)
  | refreshed reason group unique startedAt markedAt task enabled =>
    exact .refresh enabled
      (s.refreshed_sameData setup reason group unique startedAt markedAt task)

end SafetyBoard
