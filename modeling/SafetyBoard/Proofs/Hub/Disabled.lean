import SafetyBoard.Proofs.Hub.Reached
import SafetyBoard.Proofs.Hub.Writes
import SafetyBoard.Proofs.Table

/-!
# What a disabled hub holds

While a hub is disabled, no report, error or refresh is let in, and what is cleared was not there in
the first place. The operations that bring something in are refused before they reach the gate and
messages that do so are refused behind it, but records can still be imported: so the only thing that
a disabled hub ever holds are records of the imports since its data was last cleared.
-/

namespace SafetyBoard

/-- The name under which an operation is refused while the hub is disabled. -/
def OperationOf.guarded? {ι : Type} : OperationOf ι → Option String
  | .refresh .. => some "refreshSources"
  | .setSourceData .. => some "setSourceData"
  | .reportSourceError .. => some "reportSourceError"
  | .dismissIssue _ => some "dismissIssue"
  | .executeIssueAction .. => some "executeIssueAction"
  | .receive _ | .clearAllData | .clearForUser _ | .exportRecords | .importRecords _ | .view _
  | .pullSafetyState _ | .refreshStatus | .isEnabled => none

/-- The name under which a message is refused while the hub is disabled. -/
def MessageOf.guarded? {ι : Type} : MessageOf ι → Option String
  | .sourceData .. => some "setSourceData"
  | .sourceError .. => some "reportSourceError"
  | .refreshTimeout _ | .userRemoved _ => none

namespace HubState

/-- No report, error or action in flight, and no refresh open or awaited. -/
structure Vacant (s : HubState) : Prop where
  store : s.store = ∅
  session : s.coordinator.session = none
  pending : s.pending = none

theorem vacant_initial (settings : Settings) : (initial settings).Vacant := ⟨rfl, rfl, rfl⟩

section Vacant

variable {s : HubState} (h : s.Vacant)
include h

theorem Vacant.cancelPending : s.cancelPending = ⟨[], s, ()⟩ := by
  rw [HubState.cancelPending, h.pending]

theorem Vacant.applyTimeout (id : String) (now : Number) :
    ∃ line, s.applyTimeout id now = ⟨[(s, .log line)], s, false⟩ := by
  have stale : s.coordinator.current? id = none :=
    Coordinator.current?_of_closed h.session id
  rw [HubState.applyTimeout, h.pending]
  change ∃ line, ((s.coordinator.timeout id now).within s.withCoordinator).andThen _ = _
  rw [Coordinator.timeout, stale]
  exact ⟨_, rfl⟩

theorem Vacant.clearForUser (user : UserId) : (s.clearForUser user).Throughout Vacant := by
  have kept : (⟨s.store.clearForUser user, s.ledger.clearForUser user, s.coordinator, s.pending,
      s.groups⟩ : HubState).Vacant := by
    rw [h.store]
    exact ⟨rfl, h.session, h.pending⟩
  rw [HubState.clearForUser, Coordinator.clearForUser_of_closed h.session]
  refine Change.Throughout.andThen (Change.throughout_done kept ()) fun t _ vacant => ?_
  exact Change.throughout_once ⟨vacant.store, vacant.session, vacant.pending⟩
    ⟨vacant.store, vacant.session, vacant.pending⟩ _ true

theorem Vacant.clearAll : s.clearAll.Throughout Vacant := by
  have cleared : (⟨∅, s.ledger.clear, s.coordinator.clear none, s.pending, s.groups⟩ :
      HubState).Vacant := by
    have closed : s.coordinator.clear none = { s.coordinator with session := none } :=
      if_pos (Or.inl rfl)
    rw [closed]
    exact ⟨rfl, rfl, h.pending⟩
  rw [HubState.clearAll, cleared.cancelPending]
  exact Change.throughout_done cleared ()

end Vacant

section Step

variable {setup : Setup} (disabled : setup.settings.enabled = false) {faultless : Prop}
  {s t : HubState} {now : Number}
include disabled

theorem not_enabled {P : Prop} (enabled : setup.settings.enabled = true) : P :=
  absurd enabled (by simp [disabled])

theorem Vacant.accepts (h : s.Vacant) {message : Message} {c : Change HubState Bool}
    (accepts : Accepts setup s now message c) : c.Throughout Vacant := by
  cases accepts with
  | sourceData enabled => exact not_enabled disabled enabled
  | sourceError enabled => exact not_enabled disabled enabled
  | refreshTimeout id =>
    obtain ⟨line, same⟩ := h.applyTimeout id now
    rw [same]
    exact Change.throughout_once h h _ _
  | userRemoved user => exact h.clearForUser user

theorem Vacant.makes (h : s.Vacant) {operation : Operation} {c : Change HubState Unit}
    (makes : Makes setup s now operation c) : c.Throughout Vacant := by
  cases makes with
  | message _ accepts => exact h.accepts disabled accepts
  | dismissal enabled => exact not_enabled disabled enabled
  | launch enabled => exact not_enabled disabled enabled
  | relaunch line => exact Change.throughout_once h h _ _
  | clearing => exact h.clearAll
  | saving => exact Change.throughout_done ⟨h.store, h.session, h.pending⟩ _
  | loading => exact Change.throughout_done ⟨h.store, h.session, h.pending⟩ _

/-- Whatever is done to a disabled hub, even where a sink fails, it stays vacant. -/
theorem Vacant.step (h : s.Vacant) {operation : Operation}
    (step : Step setup faultless s operation t) : t.Vacant := by
  cases step with
  | change now changes stops => exact (h.makes disabled (makes_of_change? changes)).stops stops
  | idle => exact h
  | interrupted enabled => exact not_enabled disabled enabled
  | refreshed _ _ _ _ _ _ enabled => exact not_enabled disabled enabled

def Imported (history : List Entered) (text : String) (record : DismissalRecord) : Prop :=
  Since
    (fun e => ∃ records ledger, e.operation = .importRecords records ∧
      DismissalLedger.load records = .ok ledger ∧ ledger.records.get? text = some record)
    (fun e => e.operation = .clearAllData) history

omit disabled in
theorem Imported.goes_on {history : List Entered} {text : String} {record : DismissalRecord}
    (h : Imported history text record) {operation : Operation}
    (other : operation ≠ .clearAllData) : Imported (history ++ [⟨s, operation⟩]) text record :=
  since_append.mpr (Or.inr ⟨h, other⟩)

omit disabled in
theorem records_go_on {history : List Entered}
    (h : s.ledger.records.Every (Imported history)) {operation : Operation}
    (other : operation ≠ .clearAllData) (same : t.ledger.records = s.ledger.records) :
    t.ledger.records.Every (Imported (history ++ [⟨s, operation⟩])) := by
  intro text record found
  rw [same] at found
  exact (h text record found).goes_on other

theorem imported_writes {history : List Entered} (h : s.ledger.records.Every (Imported history))
    {operation : Operation} (writes : Writes setup s operation t) :
    t.ledger.records.Every (Imported (history ++ [⟨s, operation⟩])) := by
  cases writes with
  | idle now unchanged same =>
    refine records_go_on h ?_ (congrArg _ same.ledger)
    rintro rfl
    cases unchanged
  | refresh enabled => exact not_enabled disabled enabled
  | report _ _ enabled => exact not_enabled disabled enabled
  | error _ enabled => exact not_enabled disabled enabled
  | timeout _ sent same =>
    refine records_go_on h ?_ (congrArg _ same.ledger)
    rintro rfl
    cases sent
  | @removal operation user _ sent same =>
    have ledger : t.ledger = s.ledger.clearForUser user := same.elim (·.ledger) (·.ledger)
    have other : operation ≠ .clearAllData := by
      rintro rfl
      cases sent
    intro text record found
    rw [ledger] at found
    have kept : (s.ledger.clearForUser user).records.Every (Imported history) := h.filter _
    exact (kept text record found).goes_on other
  | dismissal _ enabled => exact not_enabled disabled enabled
  | launch enabled => exact not_enabled disabled enabled
  | relaunch _ same => exact records_go_on h nofun (congrArg _ same.ledger)
  | clearing same =>
    rw [same.ledger]
    exact Table.every_empty _
  | saving same =>
    have kept : t.ledger.records = s.ledger.markSaved.records := congrArg _ same.ledger
    exact records_go_on h nofun kept
  | @loading records ledger _ loaded same =>
    intro text record found
    rw [same.ledger] at found
    exact since_append.mpr (Or.inl ⟨records, ledger, rfl, loaded, found⟩)

theorem vacant_execution {history : List Entered}
    (ran : Execution setup faultless (initial setup.settings) history s) :
    s.Vacant ∧ s.ledger.records.Every (Imported history) := by
  induction ran with
  | refl => exact ⟨vacant_initial _, Table.every_empty _⟩
  | enter _ step ih =>
    exact ⟨ih.1.step disabled step, imported_writes disabled ih.2 step.writes⟩
  | subscribe group _ ih => exact ⟨⟨ih.1.store, ih.1.session, ih.1.pending⟩, ih.2⟩

end Step

end HubState

namespace Hub

open HubAct

variable {σ : Type}

section Guarded

variable (host : Host σ) {setup : Setup} (disabled : setup.settings.enabled = false)
include disabled

theorem run_guarded {operation : Operation} {name : String} (guarded : operation.guarded? = some name)
    (x : Hub × σ) :
    (run host setup operation).run x = (.error (.hub (.featureDisabled name)), x) := by
  have refused {α : Type} (next : Unit → HubAct σ α) (f : α → Answer) :
      (f <$> (requireEnabled setup name >>= next)).run x =
        (.error (.hub (.featureDisabled name)), x) := by
    rw [← bind_pure_comp]
    exact Act.run_bind_error (run_requireEnabled_refused x (by simp [disabled]) name next) _
  cases operation with
  | refresh | setSourceData | reportSourceError | dismissIssue | executeIssueAction =>
    cases guarded
    exact refused _ _
  | receive | clearAllData | clearForUser | exportRecords | importRecords | view
  | pullSafetyState | refreshStatus | isEnabled => cases guarded

/-- A message is refused behind the gate, and then the gate is free again. -/
theorem handle_guarded {message : Message} {name : String} (guarded : message.guarded? = some name)
    {x : Hub × σ} (free : x.1.held = false) :
    ((inbox host setup).handle message).run x = (.error (.hub (.featureDisabled name)), x) := by
  have refused : (applyMessage host setup message).run (gate.setHeld true x) =
      (.error (.hub (.featureDisabled name)), gate.setHeld true x) := by
    cases message with
    | sourceData | sourceError =>
      cases guarded
      exact run_requireEnabled_refused _ (by simp [disabled]) _ _
    | refreshTimeout | userRemoved => cases guarded
  refine (Act.run_bind_error (Gate.run_of_ran gate _ free refused) _).trans ?_
  obtain ⟨⟨state, held, mailbox, subscriptions⟩, h⟩ := x
  cases free
  rfl

end Guarded

/-- Whatever is done to a disabled hub: it holds no report, error or action in flight and no refresh
is open; a record that it holds is one of an import since all data was last cleared; and whatever
else would bring something in is refused and leaves everything as it was, by call or by message,
while a timeout finds nothing to do. -/
theorem disabled_holds_only_imports {host : Host σ} {setup : Setup}
    (disabled : setup.settings.enabled = false) {faultless : Prop}
    (orderly : host.Orderly setup faultless) {history : List Entered} {x : Hub × σ}
    (reached : Reached host setup faultless history x) :
    x.1.state.Vacant ∧
      (∀ text record, x.1.state.ledger.records.get? text = some record →
        HubState.Imported history text record) ∧
      (∀ operation name, operation.guarded? = some name →
        (run host setup operation).run x = (.error (.hub (.featureDisabled name)), x)) ∧
      (∀ message name, message.guarded? = some name → ∀ mailbox,
        ((inbox host setup).handle message).run ({ x.1 with mailbox }, x.2) =
          (.error (.hub (.featureDisabled name)), { x.1 with mailbox }, x.2)) ∧
      ∀ id now, (x.1.state.applyTimeout id now).after = x.1.state := by
  obtain ⟨vacant, records⟩ := HubState.vacant_execution disabled (reached.execution orderly)
  refine ⟨vacant, records, fun operation name guarded => ?_,
    fun message name guarded mailbox => ?_, fun id now => ?_⟩
  · exact run_guarded host disabled guarded x
  · exact handle_guarded host disabled guarded (x := ({ x.1 with mailbox }, x.2))
      (reached.free orderly)
  · obtain ⟨line, same⟩ := vacant.applyTimeout id now
    rw [same]

theorem disabled_holds_only_imports_loaded :
    let setup : Setup := ⟨⟨[]⟩, .configured, ⟨false, true, [], .default, false⟩⟩
    let load : Operation := .importRecords [⟨"wifi/open@1", ⟨some 0⟩, none, 0, none⟩]
    let x := ((run silent setup load).run (.initial setup.settings, ())).2
    setup.settings.enabled = false ∧ silent.Orderly setup False ∧
      Reached silent setup False [⟨.initial setup.settings, load⟩] x ∧ x.1.state.Vacant ∧
      (∃ record, x.1.state.ledger.records.get? "wifi/open@1" = some record ∧
        HubState.Imported [⟨.initial setup.settings, load⟩] "wifi/open@1" record) ∧
      (run silent setup (.setSourceData ⟨"wifi", 1⟩ .null none)).run x =
        (.error (.hub (.featureDisabled "setSourceData")), x) := by
  intro setup load x
  have orderly := silent_orderly setup False
  have reached : Reached silent setup False [⟨.initial setup.settings, load⟩] x :=
    (Reached.start ()).quietly 0 (by decide +kernel)
  obtain ⟨vacant, imported, refused, -, -⟩ := disabled_holds_only_imports rfl orderly reached
  refine ⟨rfl, orderly, reached, vacant, ?_, refused _ _ rfl⟩
  have held : (x.1.state.ledger.records.get? "wifi/open@1").isSome = true := by decide +kernel
  obtain ⟨record, found⟩ := Option.isSome_iff_exists.mp held
  exact ⟨record, found, imported _ record found⟩

/-- An import is taken by a disabled hub like any other, and from then on it holds a record. -/
theorem disabled_takes_imports :
    let setup : Setup := ⟨⟨[]⟩, .configured, ⟨false, true, [], .default, false⟩⟩
    let load : Operation := .importRecords [⟨"wifi/open@1", ⟨some 0⟩, none, 0, none⟩]
    let y := (run silent setup load).run (.initial setup.settings, ())
    setup.settings.enabled = false ∧
      Reached silent setup False [⟨.initial setup.settings, load⟩] y.2 ∧ y.1.isOk = true ∧
      y.2.1.state.ledger.records.keys = ["wifi/open@1"] := by
  refine ⟨rfl, ?_, by decide +kernel, by decide +kernel⟩
  exact (Reached.start ()).quietly 0 (by decide +kernel)

end Hub

end SafetyBoard
