import SafetyBoard.Proofs.Hub.Reached
import SafetyBoard.Proofs.Hub.Refusal
import SafetyBoard.Proofs.Hub.Sound
import SafetyBoard.Proofs.View.Reads

/-!
# Actions in flight

An action is in flight from the first call for it until its source and user are reset, which is when
they report, fail, or are cleared. So whatever is in flight is an action of the stored report, an
action is launched at most once between two resets, and a launch shows on that action alone. A report
with a garbled issue id is stored and resets nothing.
-/

namespace SafetyBoard

namespace Entered

def Calls (e : Entered) (action : ActionKey) : Prop :=
  e.operation = .executeIssueAction action.issue action.actionId ∧
    ∃ issue a, e.before.issue? action.issue = some issue ∧ issue.action? action.actionId = some a

def Launches (e : Entered) (action : ActionKey) : Prop :=
  e.Calls action ∧ e.before.store.isActionInFlight action = false

def Resets (setup : Setup) (e : Entered) (source : SourceKey) : Prop :=
  match e.operation.message? with
  | some (.sourceData key payload _) => source.same key ∧ setup.settings.enabled = true ∧
    ∃ report, e.before.acceptPayload setup.registry key payload = .ok report ∧
      report.isSpelled = true
  | some (.sourceError key _) => source.same key ∧ setup.settings.enabled = true ∧
    (setup.registry.source? key.sourceId).isSome = true
  | some (.refreshTimeout _) => False
  | some (.userRemoved user) => source.userId.equals user
  | none => e.operation = .clearAllData

variable {setup : Setup} {s t : HubState} {operation : Operation} {action : ActionKey}

theorem not_calls_of_message {message : Message} (sent : operation.message? = some message) :
    ¬Calls ⟨s, operation⟩ action := by
  rintro ⟨called, -⟩
  dsimp only at called
  rw [called] at sent
  cases sent

theorem not_resets_of_idle {now : Number} (idle : s.change? setup now operation = none)
    (source : SourceKey) : ¬Resets setup ⟨s, operation⟩ source := by
  intro resets
  rw [Resets] at resets
  cases sent : operation.message? with
  | none =>
    rw [sent] at resets
    obtain rfl : operation = .clearAllData := resets
    cases idle
  | some message =>
    rw [HubState.change?_of_message sent, Option.map_eq_none_iff] at idle
    rw [sent] at resets
    cases message with
    | sourceData key payload session =>
      obtain ⟨-, enabled, report, accepted, -⟩ := resets
      dsimp only at accepted
      rw [HubState.messageChange?, if_pos enabled, accepted] at idle
      cases idle
    | sourceError key session =>
      rw [HubState.messageChange?, if_pos resets.2] at idle
      cases idle
    | refreshTimeout id => exact resets
    | userRemoved user => cases idle

theorem not_calls_of_other
    (other : operation ≠ .executeIssueAction action.issue action.actionId) :
    ¬Calls ⟨s, operation⟩ action := fun called => other called.1

theorem not_resets_of_silent (silent : operation.message? = none)
    (keeps : operation ≠ .clearAllData) (source : SourceKey) :
    ¬Resets setup ⟨s, operation⟩ source := by
  rw [Resets, silent]
  exact keeps

/-- Whether an action is in flight after an entry: a call puts it in flight, and a reset takes it
back. -/
def Flags (setup : Setup) (e : Entered) (action : ActionKey) (flag : Bool) : Prop :=
  flag = true ↔ e.Calls action ∨
    e.before.store.isActionInFlight action = true ∧ ¬e.Resets setup action.issue.source

section Flags

variable {e : Entered} {flag : Bool}

theorem flags_kept (same : flag = e.before.store.isActionInFlight action)
    (uncalled : ¬e.Calls action) (goes_on : ¬e.Resets setup action.issue.source) :
    e.Flags setup action flag := by
  rw [Flags, same, or_iff_right uncalled, and_iff_left goes_on]

theorem flags_reset {own : Bool} (uncalled : ¬e.Calls action)
    (resets : e.Resets setup action.issue.source ↔ own = true)
    (taken : flag = (!own && e.before.store.isActionInFlight action)) :
    e.Flags setup action flag := by
  rw [Flags, taken, or_iff_right uncalled, resets, Bool.and_eq_true, Bool.not_eq_true',
    Bool.not_eq_true, and_comm]

theorem flags_userRemoved {user : UserId} (sent : operation.message? = some (.userRemoved user))
    (keyed : s.store.Keyed) :
    Flags setup ⟨s, operation⟩ action ((s.store.clearForUser user).isActionInFlight action) := by
  have resets : Resets setup ⟨s, operation⟩ action.issue.source ↔
      action.issue.userId.equals user = true := by
    rw [Resets, sent]
    rfl
  apply flags_reset (not_calls_of_message sent) resets
  exact ReportStore.isActionInFlight_clearForUser keyed user action

theorem flags_launch {key : IssueKey} {actionId : String} {issue : Issue} {a : IssueAction}
    (reported : s.issue? key = some issue) (offered : issue.action? actionId = some a) :
    Flags setup ⟨s, .executeIssueAction key actionId⟩ action
      ((s.store.markActionInFlight ⟨key, actionId⟩).isActionInFlight action) := by
  have calls : Calls ⟨s, .executeIssueAction key actionId⟩ action ↔ ⟨key, actionId⟩ = action := by
    constructor
    · rintro ⟨called, -⟩
      cases called
      rfl
    · rintro rfl
      exact ⟨rfl, issue, a, reported, offered⟩
  rw [Flags, calls, and_iff_left (not_resets_of_silent rfl (by simp) _),
    ReportStore.isActionInFlight_mark, Bool.or_eq_true, decide_eq_true_iff]

/-- A call for an action in flight leaves it so. -/
theorem flags_relaunch {key : IssueKey} {actionId : String}
    (again : s.store.isActionInFlight ⟨key, actionId⟩ = true) :
    Flags setup ⟨s, .executeIssueAction key actionId⟩ action
      (s.store.isActionInFlight action) := by
  rw [Flags, and_iff_left (not_resets_of_silent rfl (by simp) _)]
  constructor
  · exact Or.inr
  · rintro (⟨called, -⟩ | inFlight)
    · cases called
      exact again
    · exact inFlight

theorem flags_clearAll :
    Flags setup ⟨s, .clearAllData⟩ action ((∅ : ReportStore).isActionInFlight action) := by
  have resets : Resets setup ⟨s, .clearAllData⟩ action.issue.source ↔ true = true := by
    rw [Resets]
    exact iff_of_true rfl rfl
  apply flags_reset (not_calls_of_other (by simp)) resets
  exact ReportStore.isActionInFlight_empty action

end Flags

end Entered

def CalledInEpoch (setup : Setup) (action : ActionKey) (history : List Entered) : Prop :=
  Since (·.Calls action) (·.Resets setup action.issue.source) history

namespace HubState

variable {setup : Setup} {faultless : Prop} {s t : HubState}

/-- An issue is only found where the hub takes reports. -/
theorem Sound.enabled (h : s.Sound setup) {key : IssueKey} {issue : Issue}
    (reported : s.issue? key = some issue) : setup.settings.enabled = true := by
  obtain ⟨report, stored, -⟩ := Option.bind_eq_some_iff.mp reported
  exact (h.admitted _ _ stored).1

theorem Sound.not_calls_of_idle (h : s.Sound setup) {now : Number} {operation : Operation}
    (idle : s.change? setup now operation = none) (action : ActionKey) :
    ¬Entered.Calls ⟨s, operation⟩ action := by
  rintro ⟨rfl, issue, a, reported, offered⟩
  dsimp only at reported
  rw [change?, if_pos (h.enabled reported), executeAction, reported] at idle
  dsimp only at idle
  rw [offered] at idle
  dsimp only at idle
  split at idle <;> cases idle

theorem isActionInFlight_step (h : s.Sound setup) {operation : Operation}
    (step : Step setup faultless s operation t) (action : ActionKey) :
    Entered.Flags setup ⟨s, operation⟩ action (t.store.isActionInFlight action) := by
  have kept (store : t.store = s.store) (uncalled : ¬Entered.Calls ⟨s, operation⟩ action)
      (goes_on : ¬Entered.Resets setup ⟨s, operation⟩ action.issue.source) :
      Entered.Flags setup ⟨s, operation⟩ action (t.store.isActionInFlight action) :=
    Entered.flags_kept (congrArg (·.isActionInFlight action) store) uncalled goes_on
  cases step.writes with
  | idle now idle same =>
    exact kept same.store (h.not_calls_of_idle idle action) (Entered.not_resets_of_idle idle _)
  | refresh enabled same =>
    exact kept same.store (Entered.not_calls_of_other (by simp))
      (Entered.not_resets_of_silent rfl (by simp) _)
  | @report _ key payload session report _ now sent enabled accepted same =>
    have resets : Entered.Resets setup ⟨s, operation⟩ action.issue.source ↔
        (report.isSpelled && action.issue.source.same key) = true := by
      rw [Entered.Resets, sent, Bool.and_eq_true]
      constructor
      · rintro ⟨own, -, report', accepted', spelled⟩
        cases accepted.symm.trans accepted'
        exact ⟨spelled, own⟩
      · rintro ⟨spelled, own⟩
        exact ⟨own, enabled, report, accepted, spelled⟩
    rw [same.store]
    exact Entered.flags_reset (Entered.not_calls_of_message sent) resets
      (ReportStore.isActionInFlight_take key report h.store.keyed action)
  | @error _ key session _ sent enabled known same =>
    have resets : Entered.Resets setup ⟨s, operation⟩ action.issue.source ↔
        action.issue.source.same key = true := by
      rw [Entered.Resets, sent]
      exact and_iff_left ⟨enabled, known⟩
    rw [same.store]
    exact Entered.flags_reset (Entered.not_calls_of_message sent) resets
      (ReportStore.isActionInFlight_clearActionsInFlight (h.store.keyed.markError key) key action)
  | timeout keys sent same =>
    refine Entered.flags_kept ?_ (Entered.not_calls_of_message sent) ?_
    · rw [same.store]
      exact withUnanswered_isActionInFlight s keys action
    · rw [Entered.Resets, sent]
      exact not_false
  | @removal _ user _ sent same =>
    have store : t.store = s.store.clearForUser user := by
      rcases same with same | same
      · exact same.store
      · exact same.store
    rw [store]
    exact Entered.flags_userRemoved sent h.store.keyed
  | launch enabled reported offered first same =>
    rw [same.store]
    exact Entered.flags_launch reported offered
  | relaunch again same =>
    rw [same.store]
    exact Entered.flags_relaunch again
  | clearing same =>
    rw [same.store]
    exact Entered.flags_clearAll
  | dismissal _ _ _ same | saving same | loading _ same =>
    exact kept same.store (Entered.not_calls_of_other (by simp))
      (Entered.not_resets_of_silent rfl (by simp) _)

theorem isActionInFlight_execution (sound : s.Sound setup) {action : ActionKey}
    (idle : s.store.isActionInFlight action = false) {history : List Entered}
    (ran : Execution setup faultless s history t) :
    t.store.isActionInFlight action = true ↔ CalledInEpoch setup action history := by
  induction ran with
  | refl =>
    rw [idle]
    exact iff_of_false Bool.false_ne_true not_since_nil
  | enter ran step ih =>
    have flags := isActionInFlight_step (sound.execution ran) step action
    rw [Entered.Flags, ih] at flags
    rw [CalledInEpoch, since_append]
    exact flags
  | subscribe group _ ih => exact ih

theorem reset_between_launches {history earlier middle later : List Entered} {e f : Entered}
    (ran : Execution setup faultless (initial setup.settings) history s)
    (split : history = earlier ++ e :: (middle ++ f :: later)) {action : ActionKey}
    (first : e.Launches action) (second : f.Launches action) :
    ∃ r ∈ middle, r.Resets setup action.issue.source := by
  by_contra unbroken
  have split : history = (earlier ++ e :: middle) ++ f :: later := by
    rw [split]
    simp
  have called : CalledInEpoch setup action (earlier ++ e :: middle) :=
    ⟨earlier, e, middle, rfl, first.1, fun r hr resets => unbroken ⟨r, hr, resets⟩⟩
  have inFlight := (isActionInFlight_execution (sound_initial setup)
    (ReportStore.isActionInFlight_empty action) (ran.before split)).mpr called
  rw [second.2] at inFlight
  cases inFlight

end HubState

namespace View

def launched (action : ActionKey) (i : ViewIssue) : ViewIssue :=
  if i.key = action.issue then
    { i with actions := i.actions.map fun a : ViewAction =>
      if a.id = action.actionId then { a with inFlight := true } else a }
  else i

theorem isInFlight_mark (store : ReportStore) (action : ActionKey) (issue : IssueKey)
    (a : IssueAction) : isInFlight (store.markActionInFlight action) issue a =
      if issue = action.issue ∧ a.id = action.actionId then true else isInFlight store issue a := by
  rw [isInFlight, isInFlight]
  obtain ⟨own, actionId⟩ := action
  cases a.id with
  | garbled => simp [Text.spelled?]
  | plain id =>
    simp only [Text.spelled?, Option.any_some, ReportStore.isActionInFlight_mark,
      Text.plain_injective.eq_iff]
    by_cases same : issue = own ∧ id = actionId
    · obtain ⟨rfl, rfl⟩ := same
      simp
    · have other : (⟨own, actionId⟩ : ActionKey) ≠ ⟨issue, id⟩ := by
        intro equal
        cases equal
        exact same ⟨rfl, rfl⟩
      simp [same, other]

theorem toViewIssue_mark (store : ReportStore) (action : ActionKey) (r : ReportedIssue) :
    toViewIssue (store.markActionInFlight action) r = launched action (toViewIssue store r) := by
  have key : (toViewIssue store r).key = r.key := rfl
  rw [launched, key, toViewIssue, toViewIssue]
  simp only [isInFlight_mark]
  split
  · next own =>
    simp only [own, true_and, List.map_map]
    congr 1
    refine List.map_congr_left fun a _ => ?_
    simp only [Function.comp]
    split <;> rfl
  · next other =>
    simp only [other, false_and, if_false]

theorem compute_launched (registry : Registry) (resolver : ActionResolver) (store : ReportStore)
    (ledger : DismissalLedger) (refresh : RefreshStatus) (users : UserGroup)
    (action : ActionKey) :
    compute registry resolver (store.markActionInFlight action) ledger refresh users =
      let v := compute registry resolver store ledger refresh users
      { v with issues := v.issues.map (launched action) } := by
  have same : SameReports users store (store.markActionInFlight action) ledger ledger :=
    ⟨fun _ _ => rfl, fun _ _ => rfl, fun _ _ _ _ _ _ _ => rfl⟩
  rw [compute_flagged same]
  have issues : (issueList registry store ledger users).map
      (flagged (store.markActionInFlight action).isActionInFlight) =
        (issueList registry store ledger users).map (launched action) := by
    refine List.map_congr_left fun i listed => ?_
    obtain ⟨r, -, rfl⟩ := mem_issueList.mp listed
    rw [← toViewIssue_flagged, toViewIssue_mark]
  exact congrArg (fun issues =>
    { compute registry resolver store ledger refresh users with issues }) issues

theorem draw_launched (registry : Registry) (resolver : ActionResolver) (store : ReportStore)
    (ledger : DismissalLedger) (refresh : RefreshStatus) (users : UserGroup)
    (action : ActionKey) :
    draw registry resolver (store.markActionInFlight action) ledger refresh users =
      (draw registry resolver store ledger refresh users).map fun v =>
        { v with issues := v.issues.map (launched action) } := by
  have drawable : isDrawable registry (store.markActionInFlight action) ledger users =
      isDrawable registry store ledger users :=
    isDrawable_congr ⟨fun _ _ => rfl, fun _ _ _ _ _ _ _ => rfl⟩
  rw [draw, draw, drawable, compute_launched]
  split <;> rfl

end View

namespace Hub

open HubAct

variable {σ : Type} {host : Host σ} {setup : Setup} {x : Hub × σ}

/-- An action that is in flight is not given again. -/
theorem run_relaunch (enabled : setup.settings.enabled = true) (free : x.1.held = false)
    {action : ActionKey} {issue : Issue} {a : IssueAction}
    (reported : x.1.state.issue? action.issue = some issue)
    (offered : issue.action? action.actionId = some a)
    (inFlight : x.1.state.store.isActionInFlight action = true) :
    ∃ line, (run host setup (.executeIssueAction action.issue action.actionId)).run x =
      (.ok (.action none), x.1, host.log line x.2) := by
  let line : LogLine := .line .debug HubState.tag "Issue action already in flight"
    (some [("issue", .string action.issue.encode), ("actionId", .string action.actionId)])
  have again : x.1.state.executeAction action.issue action.actionId =
      .ok ⟨[(x.1.state, .log line)], x.1.state, none⟩ := by
    rw [HubState.executeAction, reported]
    dsimp only
    rw [offered]
    exact if_pos inFlight
  refine ⟨line, Act.run_map_ok ?_ Answer.action⟩
  rw [executeIssueAction, run_requireEnabled_bind x enabled]
  have entered : (gate.run do
      performOk host setup ((← getState).executeAction action.issue action.actionId)).run x =
        (.ok none, { x.1 with state := x.1.state }, host.log line x.2) := by
    refine run_gate_of_ran free ?_
    rw [run_getState_bind, again]
    exact run_perform_of_quiet host _ rfl
  rw [Act.run_bind_ok entered]
  rfl

theorem run_launch (host : Host σ) (enabled : setup.settings.enabled = true) (free : x.1.held = false)
    {action : ActionKey} {issue : Issue} {a : IssueAction}
    (reported : x.1.state.issue? action.issue = some issue)
    (offered : issue.action? action.actionId = some a)
    (first : x.1.state.store.isActionInFlight action = false) :
    let s : HubState :=
      { x.1.state with store := x.1.state.store.markActionInFlight action }
    (run host setup (.executeIssueAction action.issue action.actionId)).run x =
      (do notify host setup; return .action (some a) : HubAct σ Answer).run
        ({ x.1 with state := s }, x.2) := by
  intro s
  have launches : x.1.state.executeAction action.issue action.actionId =
      .ok ⟨[], s, some a⟩ := by
    rw [HubState.executeAction, reported]
    dsimp only
    rw [offered]
    dsimp only
    rw [if_neg (by rw [first]; exact Bool.false_ne_true)]
  have entered : (gate.run do
      performOk host setup ((← getState).executeAction action.issue action.actionId)).run x =
        (.ok (some a), { x.1 with state := s }, x.2) := by
    refine run_gate_of_ran free ?_
    rw [run_getState_bind, launches]
    exact run_perform_of_quiet host _ rfl
  have went : (executeIssueAction host setup action.issue action.actionId).run x =
      (do notify host setup; return some a : HubAct σ (Option IssueAction)).run
        ({ x.1 with state := s }, x.2) := by
    rw [executeIssueAction, run_requireEnabled_bind x enabled, Act.run_bind_ok entered]
    rfl
  rw [run, ← bind_pure_comp, Act.run_bind_congr went, bind_assoc]
  rfl

end Hub

end SafetyBoard
