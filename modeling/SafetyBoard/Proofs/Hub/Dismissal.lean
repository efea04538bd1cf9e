import SafetyBoard.Proofs.Dismissal.Ledger
import SafetyBoard.Proofs.Hub.Reached
import SafetyBoard.Proofs.Hub.Writes
import SafetyBoard.Proofs.View.Issues

/-!
# Dismissal and resurfacing

Whether an issue is hidden is decided by the history of the hub. An issue belongs to an epoch that
starts over when a report omits the issue or when its user or everything is cleared; it is hidden at
the severities up to the highest at which it was dismissed in its epoch. Errors, timeouts and
refreshes do not count, although they come and go with the reports.
-/

namespace SafetyBoard

namespace Entered

variable {registry : Registry} {e : Entered}

/-- The entry dismissed an issue while it was reported at a severity or above it. -/
def Dismisses (e : Entered) (key : IssueKey) (severity : SourceSeverity) : Prop :=
  e.operation = .dismissIssue key ∧
    ∃ issue, e.before.issue? key = some issue ∧ severity.rank ≤ issue.severity.rank

def StartsEpoch (registry : Registry) (e : Entered) (key : IssueKey) : Prop :=
  match e.operation.message? with
  | some (.sourceData source payload _) =>
    key.source.same source ∧ ∃ report,
      e.before.acceptPayload registry source payload = .ok report ∧
        (key.issueId : Text) ∉ report.issueIds
  | some (.userRemoved user) => key.userId.equals user
  | some _ => False
  | none => e.operation = .clearAllData

theorem not_dismisses_of_message {message : Message}
    (sent : e.operation.message? = some message) (key : IssueKey) (severity : SourceSeverity) :
    ¬e.Dismisses key severity := by
  rintro ⟨dismissed, -⟩
  rw [dismissed] at sent
  cases sent

theorem startsEpoch_of_no_message (silent : e.operation.message? = none) (key : IssueKey) :
    e.StartsEpoch registry key ↔ e.operation = .clearAllData := by
  rw [StartsEpoch, silent]

/-- The ledger that an entry leaves: an issue is dismissed if the entry dismissed it, or if it was
dismissed before and the entry starts no epoch. -/
structure Leaves (registry : Registry) (e : Entered) (ledger : DismissalLedger) : Prop where
  sound : ledger.Sound
  isDismissed_iff : ∀ key severity, ledger.isDismissed key severity = true ↔
    e.Dismisses key severity ∨
      e.before.ledger.isDismissed key severity = true ∧ ¬e.StartsEpoch registry key

theorem leaves_same {ledger : DismissalLedger} (sound : e.before.ledger.Sound)
    (same : ledger = e.before.ledger) (idle : ∀ key severity, ¬e.Dismisses key severity)
    (same_epoch : ∀ key, ¬e.StartsEpoch registry key) : e.Leaves registry ledger where
  sound := same ▸ sound
  isDismissed_iff key severity := by
    rw [same, or_iff_right (idle key severity), and_iff_left (same_epoch key)]

end Entered

/-- Some entry dismissed the issue at the severity or above it, and since then no epoch started. -/
def DismissedInEpoch (registry : Registry) (key : IssueKey) (severity : SourceSeverity)
    (history : List Entered) : Prop :=
  ∃ earlier e later, history = earlier ++ e :: later ∧ e.Dismisses key severity ∧
    ∀ f ∈ later, ¬f.StartsEpoch registry key

section History

variable {registry : Registry} {key : IssueKey} {severity : SourceSeverity}

theorem not_dismissedInEpoch_nil : ¬DismissedInEpoch registry key severity [] := not_since_nil

theorem dismissedInEpoch_append {history : List Entered} {e : Entered} :
    DismissedInEpoch registry key severity (history ++ [e]) ↔
      e.Dismisses key severity ∨
        DismissedInEpoch registry key severity history ∧ ¬e.StartsEpoch registry key :=
  since_append

end History

namespace Entered

variable {setup : Setup} {s t : HubState} {now : Number} {operation : Operation}

theorem leaves_sourceData {source : SourceKey} {payload : Json} {session : Option String}
    (sent : operation.message? = some (.sourceData source payload session))
    (sound : s.ledger.Sound) {report : Report}
    (accepted : s.acceptPayload setup.registry source payload = .ok report)
    (ledger : t.ledger = s.ledger.sync source report.issueIds (.ofNumber now)) :
    Leaves setup.registry ⟨s, operation⟩ t.ledger where
  sound := ledger ▸ sound.sync source report.issueIds (.ofNumber now)
  isDismissed_iff key severity := by
    rw [ledger, DismissalLedger.isDismissed_sync sound,
      or_iff_right (not_dismisses_of_message sent key severity), StartsEpoch, sent]
    simp [accepted]

theorem leaves_userRemoved {user : UserId}
    (sent : operation.message? = some (.userRemoved user)) (sound : s.ledger.Sound)
    (ledger : t.ledger = s.ledger.clearForUser user) :
    Leaves setup.registry ⟨s, operation⟩ t.ledger where
  sound := ledger ▸ sound.clearForUser user
  isDismissed_iff key severity := by
    rw [ledger, DismissalLedger.isDismissed_clearForUser sound,
      or_iff_right (not_dismisses_of_message sent key severity), StartsEpoch, sent]
    simp

theorem leaves_refused (enabled : setup.settings.enabled = true) {message : Message}
    (sent : operation.message? = some message) (sound : s.ledger.Sound)
    (refused : s.messageChange? setup now message = none) :
    Leaves setup.registry ⟨s, operation⟩ s.ledger := by
  apply leaves_same sound rfl (not_dismisses_of_message sent)
  intro key
  rw [StartsEpoch, sent]
  cases message with
  | sourceData source payload session =>
    rw [HubState.messageChange?, if_pos enabled] at refused
    rintro ⟨-, report, accepted, -⟩
    dsimp only at accepted
    rw [accepted] at refused
    cases refused
  | sourceError source session => exact not_false
  | refreshTimeout id => cases refused
  | userRemoved user => cases refused

theorem leaves_dismissal (sound : s.ledger.Sound) {key : IssueKey} {issue : Issue}
    (reported : s.issue? key = some issue)
    (ledger : t.ledger = s.ledger.dismiss key issue.severity (.ofNumber now)) :
    Leaves setup.registry ⟨s, .dismissIssue key⟩ t.ledger where
  sound := ledger ▸ sound.dismiss key issue.severity (.ofNumber now)
  isDismissed_iff other severity := by
    have same_epoch : ¬StartsEpoch setup.registry ⟨s, .dismissIssue key⟩ other := by
      rw [startsEpoch_of_no_message rfl]
      intro cleared
      cases cleared
    rw [ledger, DismissalLedger.isDismissed_dismiss sound, and_iff_left same_epoch]
    apply or_congr_left
    constructor
    · rintro ⟨rfl, below⟩
      exact ⟨rfl, issue, reported, below⟩
    · rintro ⟨same, issue', reported', below⟩
      cases same
      dsimp only at reported'
      rw [reported] at reported'
      cases reported'
      exact ⟨rfl, below⟩

theorem leaves_clearAll (ledger : t.ledger = s.ledger.clear) :
    Leaves setup.registry ⟨s, .clearAllData⟩ t.ledger where
  sound := ledger ▸ DismissalLedger.sound_clear s.ledger
  isDismissed_iff key severity := by
    have cleared : StartsEpoch setup.registry ⟨s, .clearAllData⟩ key :=
      (startsEpoch_of_no_message rfl key).mpr rfl
    have idle : ¬Dismisses ⟨s, .clearAllData⟩ key severity := by
      rintro ⟨dismissed, -⟩
      cases dismissed
    rw [ledger, DismissalLedger.isDismissed_clear]
    simp [cleared, idle]

theorem leaves_other (sound : t.ledger.Sound) (same : t.ledger.isDismissed = s.ledger.isDismissed)
    (silent : operation.message? = none)
    (keeps : operation ≠ .clearAllData) (idle : ∀ key, operation ≠ .dismissIssue key) :
    Leaves setup.registry ⟨s, operation⟩ t.ledger where
  sound := sound
  isDismissed_iff key severity := by
    have same_epoch : ¬StartsEpoch setup.registry ⟨s, operation⟩ key := fun starts =>
      keeps ((startsEpoch_of_no_message silent key).mp starts)
    have idle : ¬Dismisses ⟨s, operation⟩ key severity := fun dismisses => idle key dismisses.1
    rw [same, or_iff_right idle, and_iff_left same_epoch]

theorem leaves_idle (enabled : setup.settings.enabled = true) (sound : s.ledger.Sound)
    (idle : s.change? setup now operation = none) :
    Leaves setup.registry ⟨s, operation⟩ s.ledger := by
  cases sent : operation.message? with
  | some message =>
    rw [HubState.change?_of_message sent, Option.map_eq_none_iff] at idle
    exact leaves_refused enabled sent sound idle
  | none =>
    refine leaves_same sound rfl ?_ ?_
    · rintro key severity ⟨rfl, issue, reported, -⟩
      dsimp only at reported
      rw [HubState.change?, if_pos enabled, HubState.dismissIssue, reported] at idle
      cases idle
    · intro key starts
      obtain rfl := (startsEpoch_of_no_message sent key).mp starts
      cases idle

/-- Whatever an entry writes, short of loading records, is one of these. -/
theorem leaves_writes (enabled : setup.settings.enabled = true) (sound : s.ledger.Sound)
    (imports : ∀ records, operation ≠ .importRecords records) (writes : Writes setup s operation t) :
    Leaves setup.registry ⟨s, operation⟩ t.ledger := by
  have untouched (same : t.ledger = s.ledger) (silent : operation.message? = none)
      (keeps : operation ≠ .clearAllData) (idle : ∀ key, operation ≠ .dismissIssue key) :
      Leaves setup.registry ⟨s, operation⟩ t.ledger :=
    leaves_other (same ▸ sound) (congrArg _ same) silent keeps idle
  cases writes with
  | idle now unchanged same =>
    rw [same.ledger]
    exact leaves_idle enabled sound unchanged
  | refresh _ same => exact untouched same.ledger rfl (by simp) (by simp)
  | report now sent _ accepted same => exact leaves_sourceData sent sound accepted same.ledger
  | error sent _ _ same =>
    refine leaves_same sound same.ledger (not_dismisses_of_message sent) fun key => ?_
    rw [StartsEpoch, sent]
    exact not_false
  | timeout keys sent same =>
    refine leaves_same sound same.ledger (not_dismisses_of_message sent) fun key => ?_
    rw [StartsEpoch, sent]
    exact not_false
  | removal sent same =>
    refine leaves_userRemoved sent sound ?_
    rcases same with same | same
    · exact same.ledger
    · exact same.ledger
  | dismissal now _ reported same => exact leaves_dismissal sound reported same.ledger
  | launch _ _ _ _ same => exact untouched same.ledger rfl (by simp) (by simp)
  | relaunch _ same => exact untouched same.ledger rfl (by simp) (by simp)
  | clearing same => exact leaves_clearAll same.ledger
  | saving same =>
    have saved : t.ledger.isDismissed = s.ledger.isDismissed := by
      rw [same.ledger]
      rfl
    have sound : t.ledger.Sound := by
      rw [same.ledger]
      exact sound.markSaved
    exact leaves_other sound saved rfl (by simp) (by simp)
  | loading => exact absurd rfl (imports _)

end Entered

theorem ledger_execution {setup : Setup} (enabled : setup.settings.enabled = true)
    {faultless : Prop} {s t : HubState} (fresh : s.ledger = ∅) {history : List Entered}
    (h : Execution setup faultless s history t)
    (imports : ∀ e ∈ history, ∀ records, e.operation ≠ .importRecords records) :
    t.ledger.Sound ∧ ∀ key severity, t.ledger.isDismissed key severity = true ↔
      DismissedInEpoch setup.registry key severity history := by
  induction h with
  | refl =>
    rw [fresh]
    refine ⟨DismissalLedger.sound_empty, fun key severity => ?_⟩
    exact iff_of_false (by simp [DismissalLedger.isDismissed_empty]) not_dismissedInEpoch_nil
  | enter _ step ih =>
    obtain ⟨sound, known⟩ := ih fun e he => imports e (List.mem_append_left _ he)
    have last := imports _ (List.mem_append_right _ List.mem_cons_self)
    have left := Entered.leaves_writes enabled sound last step.writes
    refine ⟨left.sound, fun key severity => ?_⟩
    rw [left.isDismissed_iff, dismissedInEpoch_append, known]
  | subscribe group _ ih => exact ih imports

namespace Hub

variable {σ : Type}

/-- Dismissal and resurfacing: whatever was done to an enabled hub, short of loading records, a view
lists an issue exactly if it is reported, at some severity, and was not dismissed at that severity
or above in its epoch. -/
theorem view_lists_iff {host : Host σ} {setup : Setup} {faultless : Prop}
    (orderly : host.Orderly setup faultless) (enabled : setup.settings.enabled = true)
    {history : List Entered} {x : Hub × σ} (reached : Reached host setup faultless history x)
    (imports : ∀ e ∈ history, ∀ records, e.operation ≠ .importRecords records)
    (group : UserGroup) {source : Source} (external : source ∈ setup.registry.externalSources)
    {user : UserId} (reports : user ∈ group.reportingUsers source.supportsManaged)
    (issueId : String) : LooksAt host setup x group fun v =>
      (∃ i ∈ v.issues, i.key = ⟨source.id, issueId, user⟩) ↔
        ∃ report issue, x.1.state.store.get? ⟨source.id, user⟩ = some report ∧
          issue ∈ report.issues ∧ issue.id = issueId ∧
          ¬DismissedInEpoch setup.registry ⟨source.id, issueId, user⟩ issue.severity history := by
  refine looksAt_view host enabled (reached.free orderly) fun _ => ?_
  have known := (ledger_execution enabled rfl (reached.execution orderly) imports).2
  apply (View.listed_iff external reports issueId).trans
  simp only [← known, Bool.not_eq_true]

/-- A dismissed issue is hidden, and comes back when it is reported above the severity at which it
was dismissed. -/
theorem view_lists_iff_resurfaced :
    let source : Source :=
      ⟨"wifi", .primary, false, .issueOnly ⟨"net", .criticalWarning, true, true⟩⟩
    let setup : Setup := ⟨⟨[⟨"network", .hidden, none, none, .none, [source]⟩]⟩, .configured,
      ⟨true, true, [], .default, false⟩⟩
    let issue : IssueKey := ⟨"wifi", "open", 1⟩
    let data (severity : String) : Operation := .setSourceData issue.source
      (.object [("issues", .array [.object [("id", .string "open"), ("typeId", .string "network"),
        ("severity", .string severity), ("title", .string "Open"),
        ("summary", .string "Anyone can listen")]])]) none
    let x := ((run silent setup (data "recommendation")).run (.initial setup.settings, ())).2
    let y := ((run silent setup (.dismissIssue issue)).run x).2
    let z := ((run silent setup (data "critical_warning")).run y).2
    (∃ v h, (run silent setup (.view ⟨1, []⟩)).run y = (.ok (.view v), y.1, h) ∧
      ¬∃ i ∈ v.issues, i.key = issue) ∧
    ∃ v h, (run silent setup (.view ⟨1, []⟩)).run z = (.ok (.view v), z.1, h) ∧
      ∃ i ∈ v.issues, i.key = issue := by
  intro source setup issue data x y z
  let found (severity : SourceSeverity) : Issue :=
    ⟨"open", "network", severity, .general, "Open", "Anyone can listen", none, []⟩
  have orderly := silent_orderly setup False
  have reported : Reached silent setup False _ x :=
    (Reached.start ()).quietly (silent.now ()) (by decide +kernel)
  have dismissed : Reached silent setup False _ y :=
    reported.quietly (silent.now ()) (by decide +kernel)
  have risen : Reached silent setup False _ z :=
    dismissed.quietly (silent.now ()) (by decide +kernel)
  have external : source ∈ setup.registry.externalSources := by decide +kernel
  constructor
  · obtain ⟨v, h, viewed, listed⟩ := (view_lists_iff orderly rfl dismissed (by simp [data]) ⟨1, []⟩
      external List.mem_cons_self "open").of_drawable (by decide +kernel)
    refine ⟨v, h, viewed, fun shown => ?_⟩
    obtain ⟨report, i, stored, member, -, visible⟩ := listed.mp shown
    have known : y.1.state.store.get? issue.source = some ⟨none, [found .recommendation]⟩ := by
      decide +kernel
    cases known.symm.trans stored
    obtain rfl := List.mem_singleton.mp member
    refine visible ⟨_, _, [], rfl, ⟨rfl, found .recommendation, ?_, Nat.le_refl _⟩, by simp⟩
    decide +kernel
  · obtain ⟨v, h, viewed, listed⟩ := (view_lists_iff orderly rfl risen (by simp [data]) ⟨1, []⟩
      external List.mem_cons_self "open").of_drawable (by decide +kernel)
    refine ⟨v, h, viewed, listed.mpr ⟨⟨none, [found .criticalWarning]⟩, found .criticalWarning, ?_,
      List.mem_singleton_self _, rfl, ?_⟩⟩
    · decide +kernel
    · have known := (ledger_execution rfl rfl (risen.execution orderly) (by simp [data])).2 issue
      exact (known .criticalWarning).not.mp (by decide +kernel)

/-- A user without an id equals no user, so a report that omits an issue of such a user starts no
epoch, and the issue is still hidden when it is reported again. And of a report with a garbled id
nothing is listed, since no view can be made. -/
theorem view_misses_issues :
    let source : Source :=
      ⟨"wifi", .primary, false, .issueOnly ⟨"net", .criticalWarning, true, true⟩⟩
    let setup : Setup := ⟨⟨[⟨"network", .hidden, none, none, .none, [source]⟩]⟩, .configured,
      ⟨true, true, [], .default, false⟩⟩
    let issue : IssueKey := ⟨"wifi", "open", .undefined⟩
    let group : UserGroup := ⟨.undefined, []⟩
    let raw : Json := .object [("id", .string "open"), ("typeId", .string "network"),
      ("severity", .string "recommendation"), ("title", .string "Open"),
      ("summary", .string "Anyone can listen")]
    let data (issues : List Json) : Operation :=
      .setSourceData issue.source (.object [("issues", .array issues)]) none
    let w := ((run silent setup (data [raw])).run (.initial setup.settings, ())).2
    let x := ((run silent setup (.dismissIssue issue)).run w).2
    let y := ((run silent setup (data [])).run x).2
    let z := ((run silent setup (data [raw])).run y).2
    let stuck := ((run silent setup garbledReport).run (.initial setup.settings, ())).2
    Reached silent setup False [⟨.initial setup.settings, data [raw]⟩,
        ⟨w.1.state, .dismissIssue issue⟩, ⟨x.1.state, data []⟩, ⟨y.1.state, data [raw]⟩] z ∧
      y.1.state.store.get? issue.source = some ⟨none, []⟩ ∧
      (z.1.state.issue? issue).isSome = true ∧
      (∃ v h, (run silent setup (.view group)).run z = (.ok (.view v), z.1, h) ∧ v.issues = []) ∧
      Reached silent setup False [⟨.initial setup.settings, garbledReport⟩] stuck ∧
      (stuck.1.state.store.get? ⟨"wifi", 1⟩).map (·.issues.length) = some 1 ∧
      ((run silent setup (.view ⟨1, []⟩)).run stuck).1.toOption = none := by
  intro source setup issue group raw data w x y z stuck
  have reported : Reached silent setup False _ w :=
    (Reached.start ()).quietly (silent.now ()) (by decide +kernel)
  have dismissed : Reached silent setup False _ x :=
    reported.quietly (silent.now ()) (by decide +kernel)
  have omitted : Reached silent setup False _ y :=
    dismissed.quietly (silent.now ()) (by decide +kernel)
  have again : Reached silent setup False _ z :=
    omitted.quietly (silent.now ()) (by decide +kernel)
  have drawable : z.1.state.isDrawable setup group = true := by decide +kernel
  have enabled : setup.settings.enabled = true := rfl
  have free := again.free (silent_orderly setup False)
  obtain ⟨h, viewed⟩ := run_view_of_drawable silent enabled free drawable
  refine ⟨again, by decide +kernel, by decide +kernel, ⟨_, h, viewed, by decide +kernel⟩, ?_⟩
  exact ⟨(Reached.start ()).quietly (silent.now ()) (by decide +kernel), by decide +kernel,
    by decide +kernel⟩

end Hub

end SafetyBoard
