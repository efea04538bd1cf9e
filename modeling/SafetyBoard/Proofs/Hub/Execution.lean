import SafetyBoard.Hub.State
import SafetyBoard.Proofs.History
import SafetyBoard.Proofs.Report.Store

/-!
# What an operation does behind the gate

Each operation enters the gate at most once by itself, and what it does there is one change of the
state; a refresh makes two and sets its timer. A change that is cut short by a failing collaborator
leaves the state of the moment in which that happened. An execution is a sequence of such entries,
each recorded with the state that it found.
-/

namespace SafetyBoard

namespace Change

variable {σ α : Type}

def forget (c : Change σ α) : Change σ Unit := ⟨c.moments, c.after, ()⟩

/-- Where a change may leave the state: at its end or, unless nothing fails, on the way. -/
def Stops (faultless : Prop) (c : Change σ α) (s : σ) : Prop :=
  s = c.after ∨ ¬faultless ∧ s ∈ c.moments.map Prod.fst

def Throughout (P : σ → Prop) (c : Change σ α) : Prop :=
  (∀ m ∈ c.moments, P m.1) ∧ P c.after

theorem Throughout.stops {P : σ → Prop} {c : Change σ α} (h : c.Throughout P) {faultless : Prop}
    {s : σ} (stops : c.Stops faultless s) : P s := by
  rcases stops with rfl | ⟨-, on_the_way⟩
  · exact h.2
  · obtain ⟨m, hm, rfl⟩ := List.mem_map.mp on_the_way
    exact h.1 m hm

theorem throughout_done {P : σ → Prop} {s : σ} (h : P s) (a : α) :
    (⟨[], s, a⟩ : Change σ α).Throughout P := by
  refine ⟨fun m hm => ?_, h⟩
  cases hm

theorem throughout_once {P : σ → Prop} {s t : σ} (h : P s) (k : P t) (signal : Signal) (a : α) :
    (⟨[(s, signal)], t, a⟩ : Change σ α).Throughout P := by
  refine ⟨fun m hm => ?_, k⟩
  obtain rfl := List.mem_singleton.mp hm
  exact h

theorem Throughout.andThen {P : σ → Prop} {c : Change σ α} (h : c.Throughout P) {β : Type}
    {next : σ → α → Change σ β} (k : ∀ s a, P s → (next s a).Throughout P) :
    (c.andThen next).Throughout P := by
  refine ⟨fun m hm => ?_, (k _ _ h.2).2⟩
  rcases List.mem_append.mp hm with before | behind
  · exact h.1 m before
  · exact (k _ _ h.2).1 m behind

theorem Throughout.thenSay {P : σ → Prop} {c : Change σ α} (h : c.Throughout P)
    (signal : Signal) : (c.thenSay signal).Throughout P := by
  refine ⟨fun m hm => ?_, h.2⟩
  rcases List.mem_append.mp hm with before | last
  · exact h.1 m before
  · obtain rfl := List.mem_singleton.mp last
    exact h.2

theorem Throughout.imp {P Q : σ → Prop} {c : Change σ α} (h : c.Throughout P)
    (k : ∀ s, P s → Q s) : c.Throughout Q :=
  ⟨fun m hm => k _ (h.1 m hm), k _ h.2⟩

theorem Throughout.within {τ : Type} {P : σ → Prop} {Q : τ → Prop} {embed : σ → τ}
    {c : Change σ α} (h : c.Throughout P) (k : ∀ s, P s → Q (embed s)) :
    (c.within embed).Throughout Q := by
  refine ⟨fun m hm => ?_, k _ h.2⟩
  obtain ⟨n, hn, rfl⟩ := List.mem_map.mp hm
  exact k _ (h.1 n hn)

theorem throughout_within {τ : Type} {P : τ → Prop} {embed : σ → τ} (h : ∀ s, P (embed s))
    (c : Change σ α) : (c.within embed).Throughout P := by
  refine ⟨fun m hm => ?_, h c.after⟩
  obtain ⟨n, -, rfl⟩ := List.mem_map.mp hm
  exact h n.1

end Change

def OperationOf.message? {ι : Type} : OperationOf ι → Option (MessageOf ι)
  | .receive message => some message
  | .setSourceData key payload session => some (.sourceData key payload session)
  | .reportSourceError key session => some (.sourceError key session)
  | .clearForUser user => some (.userRemoved user)
  | _ => none

namespace HubState

variable (s : HubState) (setup : Setup)

/-- The change that a report makes: one with a garbled id is stored, and no more. -/
def takeReport (key : SourceKey) (report : Report) (session : Option String) (now : Number) :
    Change HubState Bool :=
  if report.isSpelled then s.acceptReport key report session now
  else ⟨[], s.keepGarbled key report now, false⟩

/-- The change that a message makes, unless it is refused. -/
def messageChange? (now : Number) : Message → Option (Change HubState Bool)
  | .sourceData key payload session =>
    if setup.settings.enabled then
      match s.acceptPayload setup.registry key payload with
      | .error _ => none
      | .ok report => some (s.takeReport key report session now)
    else none
  | .sourceError key session =>
    if setup.settings.enabled ∧ (setup.registry.source? key.sourceId).isSome then
      some (s.acceptError key session now)
    else none
  | .refreshTimeout id => some (s.applyTimeout id now)
  | .userRemoved user => some (s.clearForUser user)

/-- If the message brings a report that is accepted, that has no garbled issue id. -/
def Spells : Message → Prop
  | .sourceData key payload _ =>
    ∀ report, s.acceptPayload setup.registry key payload = .ok report → report.isSpelled = true
  | .sourceError .. | .refreshTimeout _ | .userRemoved _ => True

/-- The change that an operation other than a refresh makes, unless it is refused or only looks. -/
def change? (now : Number) : Operation → Option (Change HubState Unit)
  | .receive message => (s.messageChange? setup now message).map (·.forget)
  | .setSourceData key payload session =>
    (s.messageChange? setup now (.sourceData key payload session)).map (·.forget)
  | .reportSourceError key session =>
    (s.messageChange? setup now (.sourceError key session)).map (·.forget)
  | .clearForUser user => (s.messageChange? setup now (.userRemoved user)).map (·.forget)
  | .dismissIssue issue =>
    if setup.settings.enabled then (s.dismissIssue issue now).toOption.map (·.forget) else none
  | .executeIssueAction issue actionId =>
    if setup.settings.enabled then (s.executeAction issue actionId).toOption.map (·.forget)
    else none
  | .clearAllData => some s.clearAll.forget
  | .exportRecords => some s.exportRecords.forget
  | .importRecords records => (s.importRecords records).toOption.map (·.forget)
  | .refresh _ _ | .view _ | .pullSafetyState _ | .refreshStatus | .isEnabled => none

variable {s setup} in
theorem change?_of_message {operation : Operation} {message : Message}
    (h : operation.message? = some message) (now : Number) :
    s.change? setup now operation = (s.messageChange? setup now message).map (·.forget) := by
  cases operation <;> cases h <;> rfl

/-- A message that is accepted, with what it was accepted for and the change that it makes. -/
inductive Accepts (setup : Setup) (s : HubState) (now : Number) :
    Message → Change HubState Bool → Prop where
  | sourceData {key payload session report} : setup.settings.enabled = true →
      s.acceptPayload setup.registry key payload = .ok report →
      Accepts setup s now (.sourceData key payload session) (s.takeReport key report session now)
  | sourceError {key session} : setup.settings.enabled = true →
      (setup.registry.source? key.sourceId).isSome = true →
      Accepts setup s now (.sourceError key session) (s.acceptError key session now)
  | refreshTimeout (id) : Accepts setup s now (.refreshTimeout id) (s.applyTimeout id now)
  | userRemoved (user) : Accepts setup s now (.userRemoved user) (s.clearForUser user)

/-- An operation that makes a change, with what it was allowed for and the change that it makes. -/
inductive Makes (setup : Setup) (s : HubState) (now : Number) :
    Operation → Change HubState Unit → Prop where
  | message {operation message c} : operation.message? = some message →
      Accepts setup s now message c → Makes setup s now operation c.forget
  | dismissal {key issue after} : setup.settings.enabled = true → s.issue? key = some issue →
      after = { s with ledger := s.ledger.dismiss key issue.severity (.ofNumber now) } →
      Makes setup s now (.dismissIssue key)
        ⟨[(after, .log (DismissalLedger.dismissLine key issue.severity))], after, ()⟩
  | launch {key issue action} {actionId : String} : setup.settings.enabled = true →
      s.issue? key = some issue → issue.action? actionId = some action →
      s.store.isActionInFlight ⟨key, actionId⟩ = false →
      Makes setup s now (.executeIssueAction key actionId)
        ⟨[], { s with store := s.store.markActionInFlight ⟨key, actionId⟩ }, ()⟩
  | relaunch {key actionId} (line) : s.store.isActionInFlight ⟨key, actionId⟩ = true →
      Makes setup s now (.executeIssueAction key actionId) ⟨[(s, .log line)], s, ()⟩
  | clearing : Makes setup s now .clearAllData s.clearAll.forget
  | saving : Makes setup s now .exportRecords s.exportRecords.forget
  | loading {records ledger} : DismissalLedger.load records = .ok ledger →
      Makes setup s now (.importRecords records) ⟨[], { s with ledger }, ()⟩

section Inversion

variable {s setup} {now : Number}

theorem accepts_of_messageChange? {message : Message} {c : Change HubState Bool}
    (changes : s.messageChange? setup now message = some c) : Accepts setup s now message c := by
  cases message with
  | sourceData key payload session =>
    rw [messageChange?] at changes
    split at changes
    · next enabled =>
      split at changes
      · cases changes
      · next report accepted =>
        cases changes
        exact .sourceData enabled accepted
    · cases changes
  | sourceError key session =>
    rw [messageChange?] at changes
    split at changes
    · next known =>
      cases changes
      exact .sourceError known.1 known.2
    · cases changes
  | refreshTimeout id =>
    cases changes
    exact .refreshTimeout id
  | userRemoved user =>
    cases changes
    exact .userRemoved user

/-- An action that is offered is launched, unless it is in flight. -/
theorem makes_of_executeAction (enabled : setup.settings.enabled = true) {key : IssueKey}
    {actionId : String} {c : Change HubState (Option IssueAction)}
    (changes : s.executeAction key actionId = .ok c) :
    Makes setup s now (.executeIssueAction key actionId) c.forget := by
  rw [executeAction] at changes
  split at changes
  · cases changes
  · next issue reported =>
    split at changes
    · cases changes
    · next action offered =>
      split at changes
      · next again =>
        cases changes
        exact .relaunch _ again
      · next first =>
        cases changes
        exact .launch enabled reported offered (Bool.eq_false_iff.mpr first)

/-- Whatever changes the state is one of these. -/
theorem makes_of_change? {operation : Operation} {c : Change HubState Unit}
    (changes : s.change? setup now operation = some c) : Makes setup s now operation c := by
  cases sent : operation.message? with
  | some message =>
    rw [change?_of_message sent, Option.map_eq_some_iff] at changes
    obtain ⟨c, changes, rfl⟩ := changes
    exact .message sent (accepts_of_messageChange? changes)
  | none =>
    cases operation with
    | receive | setSourceData | reportSourceError | clearForUser => cases sent
    | refresh | view | pullSafetyState | refreshStatus | isEnabled => cases changes
    | dismissIssue key =>
      rw [HubState.change?, dismissIssue] at changes
      split at changes
      · next enabled =>
        split at changes
        · cases changes
        · next issue reported =>
          cases changes
          exact .dismissal enabled reported rfl
      · cases changes
    | executeIssueAction key actionId =>
      rw [HubState.change?] at changes
      split at changes
      · next enabled =>
        cases executed : s.executeAction key actionId with
        | error e =>
          rw [executed] at changes
          cases changes
        | ok c =>
          rw [executed] at changes
          cases changes
          exact makes_of_executeAction enabled executed
      · cases changes
    | clearAllData =>
      cases changes
      exact .clearing
    | exportRecords =>
      cases changes
      exact .saving
    | importRecords records =>
      rw [HubState.change?, importRecords] at changes
      split at changes
      · cases changes
      · next ledger loaded =>
        cases changes
        exact .loading loaded

end Inversion

def refreshed (reason : RefreshReason) (group : UserGroup) (unique : String)
    (startedAt markedAt : Number) (task : Nat) : HubState :=
  let opening := (s.beginRefresh group startedAt).after.openRefresh setup.registry reason group
    unique startedAt markedAt
  if opening.result.awaiting then
    { opening.after with pending := some ⟨opening.result.id, task⟩ }
  else opening.after

end HubState

/-- One entry of the gate: from the state that an operation finds to one that it may leave. -/
inductive Step (setup : Setup) (faultless : Prop) : HubState → Operation → HubState → Prop where
  | change {s operation} (now) {c s'} : s.change? setup now operation = some c →
      c.Stops faultless s' → Step setup faultless s operation s'
  | idle {s operation} (now) : s.change? setup now operation = none →
      (setup.settings.enabled = true → ∀ reason group, operation ≠ .refresh reason group) →
      Step setup faultless s operation s
  | interrupted {s reason group startedAt s'} : setup.settings.enabled = true →
      (s.beginRefresh group startedAt).Stops faultless s' → ¬faultless →
      Step setup faultless s (.refresh reason group) s'
  | refreshed {s} (reason group unique startedAt markedAt task) :
      setup.settings.enabled = true →
      Step setup faultless s (.refresh reason group)
        (s.refreshed setup reason group unique startedAt markedAt task)

structure Entered where
  before : HubState
  operation : Operation

/-- Entries one after the other; to subscribe only makes the group known. -/
inductive Execution (setup : Setup) (faultless : Prop) :
    HubState → List Entered → HubState → Prop where
  | refl (s) : Execution setup faultless s [] s
  | enter {s history t operation u} : Execution setup faultless s history t →
      Step setup faultless t operation u →
      Execution setup faultless s (history ++ [⟨t, operation⟩]) u
  | subscribe {s history t} (group) : Execution setup faultless s history t →
      Execution setup faultless s history (t.rememberGroup group)

def Since (happens ends : Entered → Prop) (history : List Entered) : Prop :=
  ∃ earlier e later, history = earlier ++ e :: later ∧ happens e ∧ ∀ f ∈ later, ¬ends f

section Since

variable {happens ends : Entered → Prop} {history : List Entered} {e : Entered}

theorem not_since_nil : ¬Since happens ends [] := not_lasts_nil

theorem since_append :
    Since happens ends (history ++ [e]) ↔ happens e ∨ Since happens ends history ∧ ¬ends e :=
  lasts_append

end Since

namespace Execution

variable {setup : Setup} {faultless : Prop} {s t u : HubState}

theorem trans {history more : List Entered} (h : Execution setup faultless s history t)
    (k : Execution setup faultless t more u) :
    Execution setup faultless s (history ++ more) u := by
  induction k with
  | refl =>
    rw [List.append_nil]
    exact h
  | enter _ step ih =>
    rw [← List.append_assoc]
    exact ih.enter step
  | subscribe group _ ih => exact ih.subscribe group

theorem before {history earlier later : List Entered} {e : Entered}
    (h : Execution setup faultless s history t) (split : history = earlier ++ e :: later) :
    Execution setup faultless s earlier e.before := by
  induction h generalizing later with
  | refl => cases earlier <;> cases split
  | enter ran step ih =>
    rcases split_append split with ⟨rfl, rfl, -⟩ | ⟨between, -, rfl⟩
    · exact ran
    · exact ih rfl
  | subscribe group _ ih => exact ih split

theorem single {operation : Operation} (h : Step setup faultless s operation t) :
    Execution setup faultless s [⟨s, operation⟩] t :=
  (refl s).enter h

end Execution

end SafetyBoard
