import SafetyBoard.Proofs.Hub.Launch
import SafetyBoard.Proofs.Hub.Restore
import SafetyBoard.Proofs.Hub.Silence
import SafetyBoard.Proofs.View.Unlisting

/-!
# Dismissing an issue

To dismiss an issue that is reported takes it from every view and leaves everything else where it
is. From then on it is hidden for as long as the report that it stands in: what happens beside that
report leaves its record alone, and what ends the report leaves nothing to dismiss. Only a new report
and an import, which replaces all records, can show it again; so until then to dismiss it once more
changes no view.
-/

namespace SafetyBoard

/-- The entry may show an issue again: it accepted a report of its source, or loaded records that do
not hide it as it is reported. -/
inductive Entered.Renews (registry : Registry) (key : IssueKey) (e : Entered) : Prop where
  | reported {payload session report} :
      e.operation.message? = some (.sourceData key.source payload session) →
      e.before.acceptPayload registry key.source payload = .ok report →
      Entered.Renews registry key e
  | loaded {records ledger issue} : e.operation = .importRecords records →
      DismissalLedger.load records = .ok ledger → e.before.issue? key = some issue →
      ledger.isDismissed key issue.severity = false → Entered.Renews registry key e

theorem Entered.not_renews {registry : Registry} {key : IssueKey} {e : Entered}
    (silent : e.operation.message? = none)
    (imports : ∀ records, e.operation ≠ .importRecords records) : ¬e.Renews registry key := by
  rintro (⟨sent, -⟩ | ⟨loads, -⟩)
  · rw [silent] at sent
    cases sent
  · exact imports _ loads

namespace HubState

variable {setup : Setup} {faultless : Prop} {s t : HubState} {key : IssueKey}

def Hides (s : HubState) (key : IssueKey) : Prop :=
  ∀ issue, s.issue? key = some issue → s.ledger.isDismissed key issue.severity = true

/-- It stays hidden where its report is not replaced and, while it stands, no dismissal is lost. -/
theorem Hides.kept (h : s.Hides key)
    (kept : ∀ report, t.store.get? key.source = some report →
      s.store.get? key.source = some report ∧ ∀ severity,
        s.ledger.isDismissed key severity = true → t.ledger.isDismissed key severity = true) :
    t.Hides key := by
  intro issue reported
  obtain ⟨report, stored, found⟩ := Option.bind_eq_some_iff.mp reported
  obtain ⟨before, hidden⟩ := kept report stored
  exact hidden issue.severity (h issue (Option.bind_eq_some_iff.mpr ⟨report, before, found⟩))

theorem Hides.congr (h : s.Hides key) (same : s.SameData t) : t.Hides key := by
  apply h.kept
  intro report stored
  rw [same.store] at stored
  rw [same.ledger]
  exact ⟨stored, fun _ => id⟩

theorem Hides.withReport (h : s.Hides key) (sound : s.ledger.Sound) {source : SourceKey}
    (other : source ≠ key.source) (report : Report) (now : Number) :
    (s.withReport source report now).Hides key := by
  apply h.kept
  intro found stored
  rw [withReport_get?, if_neg other] at stored
  refine ⟨stored, fun severity hidden => ?_⟩
  exact (DismissalLedger.isDismissed_sync sound source report.issueIds (.ofNumber now) key
    severity).mpr ⟨hidden, fun own => absurd (SourceKey.same_iff.mp own).1.symm other⟩

theorem Hides.withError (h : s.Hides key) (source : SourceKey) :
    (s.withError source).Hides key := by
  apply h.kept
  intro found stored
  rw [withError_get?] at stored
  split at stored
  · cases stored
  · exact ⟨stored, fun _ => id⟩

theorem Hides.withoutUser (h : s.Hides key) (sound : s.Sound setup) (user : UserId) :
    (s.withoutUser user).Hides key := by
  apply h.kept
  intro found stored
  rw [withoutUser_get? sound.store.keyed] at stored
  split at stored
  · cases stored
  · next other =>
    refine ⟨stored, fun severity hidden => ?_⟩
    exact (DismissalLedger.isDismissed_clearForUser sound.ledger user key severity).mpr
      ⟨hidden, Bool.eq_false_iff.mpr other⟩

/-- Whatever an entry writes, the issue stays hidden unless the entry may show it again. -/
theorem Hides.writes (h : s.Hides key) (sound : s.Sound setup) {operation : Operation}
    (writes : Writes setup s operation t)
    (quiet : ¬Entered.Renews setup.registry key ⟨s, operation⟩) : t.Hides key := by
  cases writes with
  | idle _ _ same => exact h.congr same
  | refresh _ same => exact Hides.congr (s := s.rememberGroup _) h same
  | report now sent _ accepted same =>
    refine (h.withReport sound.ledger ?_ _ now).congr same
    rintro rfl
    exact quiet (.reported sent accepted)
  | error _ _ _ same => exact (h.withError _).congr same
  | timeout keys _ same =>
    refine Hides.congr (h.kept fun report stored => ?_) same
    rw [withUnanswered_get?] at stored
    exact ⟨stored, fun _ => id⟩
  | @removal _ user _ _ same =>
    have away := h.withoutUser sound user
    rcases same with same | same
    · exact away.congr same
    · exact Hides.congr (s := (s.withoutUser user).forgetUser user) away same
  | dismissal now _ _ same =>
    refine Hides.congr (h.kept fun report stored => ?_) same
    refine ⟨stored, fun severity hidden => ?_⟩
    exact (DismissalLedger.isDismissed_dismiss sound.ledger _ _ _ _ _).mpr (.inr hidden)
  | launch _ _ _ _ same =>
    refine Hides.congr (h.kept fun report stored => ?_) same
    rw [ReportStore.get?_markActionInFlight] at stored
    exact ⟨stored, fun _ => id⟩
  | relaunch _ same => exact h.congr same
  | clearing same =>
    refine Hides.congr (h.kept fun report stored => ?_) same
    cases stored
  | saving same =>
    refine Hides.congr (h.kept fun report stored => ?_) same
    exact ⟨stored, fun _ => id⟩
  | loading loaded same =>
    refine Hides.congr (fun issue reported => ?_) same
    by_contra visible
    exact quiet (.loaded rfl loaded reported (Bool.eq_false_iff.mpr visible))

theorem Hides.execution (h : s.Hides key) (sound : s.Sound setup) {history : List Entered}
    (ran : Execution setup faultless s history t)
    (quiet : ∀ e ∈ history, ¬e.Renews setup.registry key) : t.Hides key := by
  induction ran with
  | refl => exact h
  | enter ran step ih =>
    have before := ih fun e earlier => quiet e (List.mem_append_left _ earlier)
    have last := quiet _ (List.mem_append_right _ List.mem_cons_self)
    exact before.writes (sound.execution ran) step.writes last
  | subscribe group _ ih => exact ih quiet

theorem Sound.coversReported (sound : s.Sound setup) {issue : Issue}
    (reported : s.issue? key = some issue) :
    View.CoversReported s.store key issue.severity := by
  intro report issue' stored' member named
  obtain ⟨report, stored, found⟩ := Option.bind_eq_some_iff.mp reported
  cases stored.symm.trans stored'
  have own : issue.id = key.issueId := by simpa using List.find?_some found
  have same : issue' = issue := List.inj_on_of_nodup_map (sound.nodup_issueIds stored) member
    (List.mem_of_find?_eq_some found) (named.trans own.symm)
  rw [same]

def withDismissal (s : HubState) (key : IssueKey) (severity : SourceSeverity) (now : Number) :
    HubState :=
  { s with ledger := s.ledger.dismiss key severity (.ofNumber now) }

theorem Sound.withDismissal (sound : s.Sound setup) (key : IssueKey) (severity : SourceSeverity)
    (now : Number) : (s.withDismissal key severity now).Sound setup :=
  sound.withLedger (sound.ledger.dismiss key severity (.ofNumber now))

theorem hides_withDismissal (sound : s.Sound setup) {issue : Issue}
    (reported : s.issue? key = some issue) (now : Number) :
    (s.withDismissal key issue.severity now).Hides key := by
  intro issue' reported'
  cases reported.symm.trans reported'
  exact (DismissalLedger.isDismissed_dismiss sound.ledger _ _ _ _ _).mpr
    (.inl ⟨rfl, Nat.le_refl _⟩)

/-- What is hidden is dismissed again for nothing. -/
theorem Hides.showsAs (h : s.Hides key) (sound : s.Sound setup) {issue : Issue}
    (reported : s.issue? key = some issue) (now : Number) :
    s.ShowsAs (s.withDismissal key issue.severity now) := by
  have same := DismissalLedger.isDismissed_dismiss_again sound.ledger (h issue reported)
    (.ofNumber now)
  refine showsAs_of_answers (fun _ => rfl) (fun _ => rfl) (fun _ => rfl) ?_ rfl
  intro other _ reported' _ _ _
  exact congrFun (congrFun same other) reported'.severity

end HubState

namespace Hub

open HubAct

variable {σ : Type} {setup : Setup} {x : Hub × σ} {key : IssueKey} {issue : Issue}

/-- The hub behind the gate once an issue is dismissed, and its host, which has logged it. -/
def dismissed (host : Host σ) (x : Hub × σ) (key : IssueKey) (severity : SourceSeverity) :
    Hub × σ :=
  ({ x.1 with state := x.1.state.withDismissal key severity (host.now x.2) },
    host.log (DismissalLedger.dismissLine key severity) x.2)

theorem run_dismissIssue (host : Host σ) (enabled : setup.settings.enabled = true)
    (free : x.1.held = false) (reported : x.1.state.issue? key = some issue) :
    (run host setup (.dismissIssue key)).run x =
      (do notify host setup; return .nothing : HubAct σ Answer).run
        (dismissed host x key issue.severity) := by
  let s := x.1.state.withDismissal key issue.severity (host.now x.2)
  have dismisses : x.1.state.dismissIssue key (host.now x.2) =
      .ok ⟨[(s, .log (DismissalLedger.dismissLine key issue.severity))], s, ()⟩ := by
    rw [HubState.dismissIssue, reported]
    rfl
  have entered : (gate.run do
      performOk host setup ((← getState).dismissIssue key (← now host))).run x =
        (.ok (), dismissed host x key issue.severity) := by
    refine run_gate_of_ran free ?_
    rw [run_getState_bind, run_now_bind, dismisses]
    exact run_perform_of_quiet host _ rfl
  rw [run, ← bind_pure_comp, dismissIssue, bind_assoc, run_requireEnabled_bind x enabled, bind_assoc]
  exact Act.run_bind_ok entered _

theorem run_dismissIssue_unreported (host : Host σ) (enabled : setup.settings.enabled = true)
    (free : x.1.held = false) (absent : x.1.state.issue? key = none) :
    (run host setup (.dismissIssue key)).run x = (.error (.hub (.issueNotReported key)), x) := by
  have refused : (gate.run do
      performOk host setup ((← getState).dismissIssue key (← now host))).run x =
        (.error (.hub (.issueNotReported key)), x) := by
    have failed : (do performOk host setup ((← getState).dismissIssue key (← now host)) :
        HubAct σ Unit).run (gate.setHeld true x) =
          (.error (.hub (.issueNotReported key)), gate.setHeld true x) := by
      have unreported : (gate.setHeld true x).1.state.issue? key = none := absent
      rw [run_getState_bind, run_now_bind, HubState.dismissIssue, unreported]
      rfl
    rw [Gate.run_of_ran gate _ free failed]
    obtain ⟨⟨state, held, mailbox, subscriptions⟩, h⟩ := x
    cases free
    rfl
  rw [run, ← bind_pure_comp, dismissIssue, bind_assoc, run_requireEnabled_bind x enabled, bind_assoc]
  exact Act.run_bind_error refused _

/-- Dismissing an issue hides exactly that issue. However the hub came to its state, the dismissal of
an issue that is reported takes it from the view of every group and changes nothing else there. And
until an entry may show the issue again, a further dismissal of it, be it refused or not, changes no
view. -/
theorem dismissal_hides_issue {host : Host σ} {faultless : Prop} {history : List Entered}
    (ran : Execution setup faultless (.initial setup.settings) history x.1.state)
    (free : x.1.held = false) (reported : x.1.state.issue? key = some issue) :
    ∃ y : Hub × σ,
      (run host setup (.dismissIssue key)).run x =
        (do notify host setup; return .nothing : HubAct σ Answer).run y ∧
      y.1 = { x.1 with state := y.1.state } ∧
      (∀ group, LooksAt host setup x group fun v => ∃ w h',
        (run host setup (.view group)).run y = (.ok (.view w), y.1, h') ∧
          View.HidesIssue setup.registry setup.resolver x.1.state.store group key v w) ∧
      ∀ (between : List Entered) (z : Hub × σ),
        Execution setup faultless y.1.state between z.1.state → z.1.held = false →
        (∀ e ∈ between, ¬e.Renews setup.registry key) →
        ∃ z' : Hub × σ, ShownAlike host setup z z' ∧ z'.1 = { z.1 with state := z'.1.state } ∧
          ((run host setup (.dismissIssue key)).run z =
              (do notify host setup; return .nothing : HubAct σ Answer).run z' ∨
            (run host setup (.dismissIssue key)).run z =
              (.error (.hub (.issueNotReported key)), z')) := by
  have sound := (HubState.sound_initial setup).execution ran
  have enabled := sound.enabled reported
  let y := dismissed host x key issue.severity
  have sound_y : y.1.state.Sound setup := sound.withDismissal key issue.severity (host.now x.2)
  refine ⟨y, run_dismissIssue host enabled free reported, rfl, fun group => ?_,
    fun between z later released quiet => ?_⟩
  · have covers := sound.coversReported reported
    refine looksAt_view host enabled free fun drawable => ?_
    have drawable_y : y.1.state.isDrawable setup group = true :=
      View.isDrawable_dismiss sound.ledger covers _ drawable
    obtain ⟨h, after⟩ := run_view_of_drawable host enabled (x := y) free drawable_y
    exact ⟨_, h, after, View.compute_dismiss sound.ledger covers _ _⟩
  · have hides_y : y.1.state.Hides key := HubState.hides_withDismissal sound reported _
    have hides_z := hides_y.execution sound_y later quiet
    cases again : z.1.state.issue? key with
    | none =>
      exact ⟨z, shownAlike_of_same rfl, rfl,
        .inr (run_dismissIssue_unreported host enabled released again)⟩
    | some issue' =>
      exact ⟨dismissed host z key issue'.severity,
        shownAlike_of_shows rfl (hides_z.showsAs (sound_y.execution later) again _), rfl,
        .inl (run_dismissIssue host enabled released again)⟩

/-- Of two issues the first is dismissed, then the records are saved, then it is dismissed again. -/
theorem dismissal_hides_issue_of_two :
    let source : Source :=
      ⟨"wifi", .primary, false, .issueOnly ⟨"net", .criticalWarning, true, true⟩⟩
    let setup : Setup := ⟨⟨[⟨"network", .hidden, none, none, .none, [source]⟩]⟩, .configured,
      ⟨true, true, [], .default, false⟩⟩
    let raw (id severity : String) : Json := .object [("id", .string id),
      ("typeId", .string "network"), ("severity", .string severity), ("title", .string "Wi-Fi"),
      ("summary", .string "Anyone can listen")]
    let key : IssueKey := ⟨"wifi", "open", 1⟩
    let group : UserGroup := ⟨1, []⟩
    let x := ((run silent setup (.setSourceData key.source (.object [("issues",
      .array [raw "open" "critical_warning", raw "weak" "recommendation"])]) none)).run
      (.initial setup.settings, ())).2
    let y := ((run silent setup (.dismissIssue key)).run x).2
    let z := ((run silent setup .exportRecords).run y).2
    (∃ v w h h', (run silent setup (.view group)).run x = (.ok (.view v), x.1, h) ∧
      (run silent setup (.view group)).run y = (.ok (.view w), y.1, h') ∧
      (v.issues.map (·.key.issueId)).Perm ["open", "weak"] ∧
      View.HidesIssue setup.registry setup.resolver x.1.state.store group key v w) ∧
    ShownAlike silent setup z ((run silent setup (.dismissIssue key)).run z).2 := by
  intro source setup raw key group x y z
  have orderly := silent_orderly setup False
  have enabled : setup.settings.enabled = true := rfl
  have reached : Reached silent setup False _ x :=
    (Reached.start ()).quietly (silent.now ()) (by decide +kernel)
  have free := reached.free orderly
  obtain ⟨issue, reported⟩ : ∃ issue, x.1.state.issue? key = some issue :=
    Option.isSome_iff_exists.mp (by decide +kernel)
  obtain ⟨y', dismissed, kept, hides, again⟩ :=
    dismissal_hides_issue (reached.execution orderly) free reported
  have unheard {u : Hub × Unit} (alone : u.1.subscriptions = []) :
      (do notify silent setup; return .nothing : HubAct Unit Answer).run u = (.ok .nothing, u) :=
    Act.run_bind_ok (run_notify_unheard alone) _
  have returned : y = y' :=
    congrArg Prod.snd (dismissed.trans (unheard (congrArg Hub.subscriptions kept)))
  subst returned
  have drawable : x.1.state.isDrawable setup group = true := by decide +kernel
  obtain ⟨v, h, before, w, h', after, without⟩ := (hides group).of_drawable drawable
  obtain ⟨_, looked⟩ := run_view_of_drawable silent enabled free drawable
  cases before.symm.trans looked
  have both : ((x.1.state.view setup group).issues.map (·.key.issueId)).Perm ["open", "weak"] := by
    refine ((List.mergeSort_perm _ _).map _).trans (.of_eq ?_)
    decide +kernel
  refine ⟨⟨_, w, h, h', before, after, both, without⟩, ?_⟩
  obtain ⟨c, made, saved⟩ := Option.map_eq_some_iff.mp (show
    (y.1.state.change? setup 0 .exportRecords).map (·.after) = some z.1.state by decide +kernel)
  have later : Execution setup False y.1.state [⟨y.1.state, .exportRecords⟩] z.1.state :=
    .single (.change 0 made (Or.inl saved.symm))
  have quiet : ∀ e ∈ [(⟨y.1.state, .exportRecords⟩ : Entered)],
      ¬e.Renews setup.registry key := by
    intro e member
    rw [List.mem_singleton.mp member]
    exact Entered.not_renews rfl fun _ => nofun
  have ⟨alone, released⟩ : z.1.subscriptions = [] ∧ z.1.held = false := by decide +kernel
  clear_value z
  obtain ⟨z', alike, kept', outcome⟩ := again _ z later released quiet
  have left : ((run silent setup (.dismissIssue key)).run z).2 = z' := by
    rcases outcome with told | refused
    · have heard := told.trans (unheard ((congrArg Hub.subscriptions kept').trans alone))
      exact congrArg Prod.snd heard
    · exact congrArg Prod.snd refused
  rw [left]
  exact alike

/-- An import without records takes a dismissal away, so that the next one hides the issue anew. -/
theorem dismissal_lost_to_import :
    let source : Source :=
      ⟨"wifi", .primary, false, .issueOnly ⟨"net", .criticalWarning, true, true⟩⟩
    let setup : Setup := ⟨⟨[⟨"network", .hidden, none, none, .none, [source]⟩]⟩, .configured,
      ⟨true, true, [], .default, false⟩⟩
    let key : IssueKey := ⟨"wifi", "open", 1⟩
    let report : Json := .object [("issues", .array [.object [("id", .string "open"),
      ("typeId", .string "network"), ("severity", .string "recommendation"),
      ("title", .string "Open"), ("summary", .string "Anyone can listen")]])]
    let x := ((run silent setup (.setSourceData key.source report none)).run
      (.initial setup.settings, ())).2
    let y := ((run silent setup (.dismissIssue key)).run x).2
    let z := ((run silent setup (.importRecords [])).run y).2
    let z' := ((run silent setup (.dismissIssue key)).run z).2
    Reached silent setup True [⟨.initial setup.settings, .setSourceData key.source report none⟩] x ∧
      (x.1.state.issue? key).isSome = true ∧
      Execution setup True y.1.state [⟨y.1.state, .importRecords []⟩] z.1.state ∧
      ¬ShownAlike silent setup z z' := by
  intro source setup key report x y z z'
  have reached : Reached silent setup True _ x :=
    (Reached.start ()).quietly (silent.now ()) (by decide +kernel)
  let group : UserGroup := ⟨1, []⟩
  have ⟨free, free'⟩ : z.1.held = false ∧ z'.1.held = false := by decide +kernel
  have ⟨drawable, drawable'⟩ : z.1.state.isDrawable setup group = true ∧
      z'.1.state.isDrawable setup group = true := by decide +kernel
  obtain ⟨c, made, loaded⟩ := Option.map_eq_some_iff.mp (show
    (y.1.state.change? setup 0 (.importRecords [])).map (·.after) = some z.1.state by
      decide +kernel)
  refine ⟨reached, by decide +kernel, .single (.change 0 made (Or.inl loaded.symm)), fun alike => ?_⟩
  have enabled : setup.settings.enabled = true := rfl
  obtain ⟨_, before⟩ := run_view_of_drawable silent enabled free drawable
  obtain ⟨_, after⟩ := run_view_of_drawable silent enabled free' drawable'
  have same := alike group
  rw [before, after] at same
  have counts := congrArg (fun v => v.issues.length) (Answer.view.inj (Except.ok.inj same))
  exact absurd counts (by decide +kernel)

end Hub

end SafetyBoard
