import SafetyBoard.Proofs.Hub.Errors
import SafetyBoard.Proofs.Hub.Tracking

/-!
# What is counted as dismissed though nobody dismissed it

A snapshot counts as dismissed every record whose issue the view does not list. Where nothing was
dismissed and no records were loaded, a record is there because its source reported the issue, and
it stays as long as the source does not report again without it: so the issue is still in the
stored report, or an error has taken the report away. Such an issue is not listed while it is away,
either for want of the report or because its source does not report for the user just now; and the
issues that are away are exactly what is counted as dismissed.
-/

namespace SafetyBoard

namespace HubState

/-- A record that no dismissal has touched. Its source is one that reports; the stored report has the
issue, and if there is none then the source is in error. The records of a user without an id, who
equals no user, are never dropped. -/
structure Untouched (setup : Setup) (s : HubState) (issue : IssueKey) (record : DismissalRecord) :
    Prop where
  untouched : record.dismissCount = 0
  reports : setup.registry.Reports issue.source
  reported : issue.userId ≠ .undefined →
    ∀ report, s.store.get? issue.source = some report → (issue.issueId : Text) ∈ report.issueIds
  failed : s.store.get? issue.source = none → s.store.hasError issue.source = true

def Undismissed (setup : Setup) (s : HubState) : Prop :=
  ∀ issue record, s.ledger.record? issue = some record → s.Untouched setup issue record

variable {setup : Setup} {s t u : HubState}

theorem undismissed_initial (setup : Setup) : (initial setup.settings).Undismissed setup := by
  intro issue record recorded
  cases recorded

theorem Untouched.of_lookups {issue : IssueKey} {record : DismissalRecord}
    (h : s.Untouched setup issue record)
    (report : t.store.get? issue.source = s.store.get? issue.source)
    (error : s.store.hasError issue.source = true → t.store.hasError issue.source = true) :
    t.Untouched setup issue record where
  untouched := h.untouched
  reports := h.reports
  reported := by rw [report]; exact h.reported
  failed := by rw [report]; exact fun absent => error (h.failed absent)

/-- Data that answers as before, whatever else of it changed. -/
theorem Undismissed.through (h : s.Undismissed setup) (same : u.SameData t)
    (reports : ∀ key, u.store.get? key = s.store.get? key)
    (errors : ∀ key, s.store.hasError key = true → u.store.hasError key = true)
    (records : ∀ issue, u.ledger.record? issue = s.ledger.record? issue) :
    t.Undismissed setup := by
  intro issue record recorded
  rw [same.ledger, records] at recorded
  refine (h issue record recorded).of_lookups ?_ ?_
  · rw [same.store]; exact reports _
  · rw [same.store]; exact errors _

theorem Undismissed.congr (h : s.Undismissed setup) (same : s.SameData t) : t.Undismissed setup :=
  h.through same (fun _ => rfl) (fun _ => id) fun _ => rfl

/-- The records of the source follow its report; the report of no other source changes, nor does its
error. -/
theorem Undismissed.withReport (h : s.Undismissed setup) (sound : s.ledger.Sound) {key : SourceKey}
    {report : Report} (admits : setup.Admits key report) (now : Number) :
    (s.withReport key report now).Undismissed setup := by
  intro issue record recorded
  rw [withReport_record? key sound] at recorded
  have stored := s.withReport_get? key report now issue.source
  by_cases own : issue.source = key
  · rw [if_pos own.symm] at stored
    obtain ⟨-, source, payload, known, accepted⟩ := admits
    constructor
    case untouched =>
      split at recorded
      · cases recorded
        cases before : s.ledger.record? issue with
        | none => rfl
        | some r => exact (h issue r before).untouched
      · split at recorded
        · cases recorded
        · exact (h issue record recorded).untouched
    case reports => exact ⟨source, own ▸ known, source.isExternal_of_accept accepted⟩
    case reported =>
      intro defined other found
      cases stored.symm.trans found
      by_contra omitted
      have same : issue.source.same key = true := SourceKey.same_iff.mpr ⟨own, defined⟩
      rw [if_neg fun kept => omitted (Text.mem_spelledPrefix kept.2), if_pos ⟨same, omitted⟩]
        at recorded
      cases recorded
    case failed => rw [stored]; exact nofun
  · have other : ¬issue.source.same key = true := by simp [SourceKey.same_of_ne own]
    rw [if_neg fun kept => own kept.1, if_neg fun dropped => other dropped.1] at recorded
    rw [if_neg (Ne.symm own)] at stored
    refine (h issue record recorded).of_lookups stored fun before => ?_
    rw [withReport_hasError, before, decide_eq_true (Ne.symm own)]
    rfl

theorem Undismissed.withError (h : s.Undismissed setup) (key : SourceKey) :
    (s.withError key).Undismissed setup := by
  intro issue record recorded
  have before := h issue record recorded
  have stored := s.withError_get? key issue.source
  by_cases own : key = issue.source
  · constructor
    case untouched => exact before.untouched
    case reports => exact before.reports
    case reported => rw [stored, if_pos own]; exact fun _ => nofun
    case failed => rw [withError_hasError, decide_eq_true own]; exact fun _ => rfl
  · rw [if_neg own] at stored
    refine before.of_lookups stored fun failed => ?_
    rw [withError_hasError, failed, Bool.or_true]

theorem Undismissed.withUnanswered (h : s.Undismissed setup) (keys : List SourceKey) :
    (s.withUnanswered keys).Undismissed setup := by
  refine h.through (.refl _) (withUnanswered_get? s keys) (fun key before => ?_) fun _ => rfl
  rw [withUnanswered_hasError, before, Bool.or_true]

/-- The records of a user go with the reports and errors of that user, and with no others. -/
theorem Undismissed.withoutUser (h : s.Undismissed setup) (sound : s.Sound setup)
    (user : UserId) : (s.withoutUser user).Undismissed setup := by
  intro issue record recorded
  rw [withoutUser_record? sound.ledger] at recorded
  split at recorded
  · cases recorded
  · next other =>
    have other : ¬issue.source.userId.equals user = true := other
    have stored := (withoutUser_get? sound.store.keyed user issue.source).trans (if_neg other)
    refine (h issue record recorded).of_lookups stored fun before => ?_
    rw [withoutUser_hasError sound.store.keyed, before, Bool.eq_false_iff.mpr other]
    rfl

/-- What is written leaves every record untouched, unless it is a dismissal or records are loaded. -/
theorem Undismissed.writes (h : s.Undismissed setup) (sound : s.Sound setup)
    {operation : Operation} (dismisses : ∀ key, operation ≠ .dismissIssue key)
    (loads : ∀ records, operation ≠ .importRecords records)
    (writes : Writes setup s operation t) : t.Undismissed setup := by
  cases writes with
  | idle _ _ same | refresh _ same | launch _ _ _ _ same | relaunch _ same | saving same =>
    exact h.through same (fun _ => rfl) (fun _ => id) fun _ => rfl
  | report now _ enabled accepted same =>
    exact (h.withReport sound.ledger (admits_of_acceptPayload enabled accepted) now).congr same
  | error _ _ _ same => exact (h.withError _).congr same
  | timeout keys _ same => exact (h.withUnanswered keys).congr same
  | removal _ same =>
    rcases same with same | same
    · exact (h.withoutUser sound _).congr same
    · exact (h.withoutUser sound _).through same (fun _ => rfl) (fun _ => id) fun _ => rfl
  | dismissal => exact absurd rfl (dismisses _)
  | clearing same =>
    exact (undismissed_initial setup).through same (fun _ => rfl) (fun _ => id) fun _ => rfl
  | loading => exact absurd rfl (loads _)

/-- Whatever is done to a hub, short of dismissing issues and loading records, every record stays
untouched. -/
theorem Undismissed.execution (h : s.Undismissed setup) (sound : s.Sound setup) {faultless : Prop}
    {history : List Entered} (ran : Execution setup faultless s history t)
    (dismissals : ∀ e ∈ history, ∀ key, e.operation ≠ .dismissIssue key)
    (imports : ∀ e ∈ history, ∀ records, e.operation ≠ .importRecords records) :
    t.Undismissed setup := by
  induction ran with
  | refl => exact h
  | enter ran step ih =>
    have before := ih (fun e member => dismissals e (List.mem_append_left _ member))
      fun e member => imports e (List.mem_append_left _ member)
    have dismisses := dismissals _ (List.mem_append_right _ List.mem_cons_self)
    have loads := imports _ (List.mem_append_right _ List.mem_cons_self)
    exact before.writes (sound.execution ran) dismisses loads step.writes
  | subscribe group _ ih =>
    exact (ih dismissals imports).through (.refl _) (fun _ => rfl) (fun _ => id) fun _ => rfl

/-- A view of the group does not come by the issue: there is no report of its source for the user,
or the source does not report for that user of the group. -/
def isAway (s : HubState) (registry : Registry) (group : UserGroup) (issue : IssueKey) : Bool :=
  (s.store.get? issue.source).isNone || !(registry.source? issue.sourceId).any fun source =>
    (group.reportingUsers source.supportsManaged).contains issue.userId

def countAway (s : HubState) (registry : Registry) (group : UserGroup) : Nat :=
  s.ledger.records.values.countP fun r =>
    group.containsUser r.issue.userId && s.isAway registry group r.issue

variable {registry : Registry} {group : UserGroup}

theorem isAway_eq_false {issue : IssueKey} : s.isAway registry group issue = false ↔
    (∃ report, s.store.get? issue.source = some report) ∧
      ∃ source, registry.source? issue.sourceId = some source ∧
        issue.userId ∈ group.reportingUsers source.supportsManaged := by
  rw [isAway, Bool.or_eq_false_iff, Bool.not_eq_false']
  refine and_congr ?_ ?_
  · cases s.store.get? issue.source <;> simp
  · cases registry.source? issue.sourceId <;> simp

/-- While nothing is dismissed, an issue is listed exactly if it has a record and is not away. -/
theorem Undismissed.listed_iff (h : s.Undismissed setup) (tracked : s.Tracked)
    (drawable : s.isDrawable setup group = true)
    (defined : ∀ user ∈ group.users, user ≠ .undefined) {key : IssueKey} :
    (∃ i ∈ (s.view setup group).issues, i.key = key) ↔
      (∃ record, s.ledger.record? key = some record) ∧
        s.isAway setup.registry group key = false := by
  rw [isAway_eq_false]
  constructor
  · rintro ⟨i, listed, rfl⟩
    obtain ⟨r, opened, rfl⟩ := View.mem_issueList.mp listed
    obtain ⟨source, external, user, reports, found⟩ :=
      View.mem_reportedIssues.mp (View.mem_openIssues.mp opened).1
    obtain ⟨report, stored, member, id, named, own⟩ := View.mem_sourceIssues.mp found
    have own : (View.toViewIssue s.store r).key = ⟨source.id, id, user⟩ := own
    have reporter : (source, user) ∈ group.reporters setup.registry.externalSources :=
      UserGroup.mem_reporters.mpr ⟨external, reports⟩
    rw [own]
    refine ⟨?_, ⟨report, stored⟩, source, (RegistryOf.mem_externalSources.mp external).1, reports⟩
    exact tracked ⟨source.id, id, user⟩ report stored
      (View.spelled_of_drawable drawable reporter stored) (List.mem_map.mpr ⟨_, member, named⟩)
  · rintro ⟨⟨record, recorded⟩, ⟨report, stored⟩, source, known, reports⟩
    have untouched := h key record recorded
    obtain ⟨other, known', external⟩ := untouched.reports
    cases known.symm.trans known'
    obtain ⟨-, own⟩ := RegistryOf.configured_of_index known
    have own : key.sourceId = source.id := own
    have external : source ∈ setup.registry.externalSources :=
      RegistryOf.mem_externalSources.mpr ⟨own ▸ known, external⟩
    have user := defined key.userId (UserGroup.mem_users_of_reporting reports)
    obtain ⟨issue, member, same⟩ := List.mem_map.mp (untouched.reported user report stored)
    have whole : key = ⟨source.id, key.issueId, key.userId⟩ := by rw [← own]
    have visible : s.ledger.isDismissed key issue.severity = false := by
      rw [DismissalLedger.isDismissed, recorded]
      exact DismissalRecord.hides_of_untouched untouched.untouched _
    rw [whole] at visible ⊢
    refine (View.listed_iff external reports key.issueId).mpr
      ⟨report, issue, ?_, member, same, visible⟩
    rw [← own]
    exact stored

/-- While nothing is dismissed, the issues with a record that a view of distinct users does not list
are those that are away. -/
theorem Undismissed.countAway_add (h : s.Undismissed setup) (tracked : s.Tracked)
    (sound : s.Sound setup) (drawable : s.isDrawable setup group = true)
    (users : group.users.Nodup) (defined : ∀ user ∈ group.users, user ≠ .undefined) :
    s.countAway setup.registry group + (s.view setup group).issues.length =
      s.ledger.countActive group := by
  let own (r : DismissalRecord) : Bool := group.containsUser r.issue.userId
  let away (r : DismissalRecord) : Bool := s.isAway setup.registry group r.issue
  let present := s.ledger.records.values.filter fun r => own r && !away r
  have once : ((s.view setup group).issues.map (·.key)).Nodup := by
    have opened :
        ((View.openIssues setup.registry s.store s.ledger group).map (·.key)).Nodup :=
      View.nodup_keys_openIssues users fun _ _ stored => sound.nodup_issueIds stored
    have listed : ((s.view setup group).issues.map (·.key)).Perm _ :=
      View.issueList_perm.map (·.key)
    rw [List.map_map] at listed
    exact listed.nodup_iff.mpr opened
  have distinct : (present.map (·.issue)).Nodup :=
    sound.ledger.nodup_issues.sublist (List.filter_sublist.map _)
  have same : ((s.view setup group).issues.map (·.key)).Perm (present.map (·.issue)) := by
    refine (List.perm_ext_iff_of_nodup once distinct).mpr fun key => ?_
    rw [List.mem_map, h.listed_iff tracked drawable defined, List.mem_map]
    constructor
    · rintro ⟨⟨record, recorded⟩, here⟩
      obtain rfl := sound.ledger.issue recorded
      obtain ⟨-, source, -, reports⟩ := isAway_eq_false.mp here
      have user : own record = true :=
        List.contains_iff_mem.mpr (UserGroup.mem_users_of_reporting reports)
      refine ⟨record, List.mem_filter.mpr ⟨sound.ledger.mem_values.mpr recorded, ?_⟩, rfl⟩
      simp [user, away, here]
    · rintro ⟨record, member, rfl⟩
      obtain ⟨recorded, here⟩ := List.mem_filter.mp member
      refine ⟨⟨record, sound.ledger.mem_values.mp recorded⟩, ?_⟩
      simpa using (Bool.and_eq_true_iff.mp here).2
  have shown := same.length_eq
  rw [List.length_map, List.length_map] at shown
  rw [shown, ← List.countP_eq_length_filter, countAway, DismissalLedger.countActive,
    List.countP_eq_countP_filter_add _ own away, List.countP_filter, List.countP_filter]

theorem countAway_eq_zero (sound : s.ledger.Sound)
    (here : ∀ issue record, s.ledger.record? issue = some record → issue.userId ∈ group.users →
      s.isAway registry group issue = false) : s.countAway registry group = 0 := by
  rw [countAway, List.countP_eq_zero]
  intro r member counted
  obtain ⟨user, away⟩ := Bool.and_eq_true_iff.mp counted
  have present := here r.issue r (sound.mem_values.mp member) (List.contains_iff_mem.mp user)
  rw [present] at away
  cases away

end HubState

/-- A snapshot that counts as dismissed the issues with a record that are away, where the view lists
all the others. -/
structure Snapshot.CountsAway (snapshot : Snapshot) (s : HubState) (registry : Registry)
    (group : UserGroup) (v : View) : Prop where
  listed : ∀ key, (∃ i ∈ v.issues, i.key = key) ↔
    (∃ record, s.ledger.record? key = some record) ∧ s.isAway registry group key = false
  dismissed : snapshot.state.dismissedIssueCount = .ofNat (s.countAway registry group)
  zero : (∀ issue record, s.ledger.record? issue = some record → issue.userId ∈ group.users →
    s.isAway registry group issue = false) → snapshot.state.dismissedIssueCount = 0

theorem HubState.Undismissed.snapshot_countsAway {s : HubState} {setup : Setup} {group : UserGroup}
    (h : s.Undismissed setup) (tracked : s.Tracked) (sound : s.Sound setup)
    (drawable : s.isDrawable setup group = true) (users : group.users.Nodup)
    (defined : ∀ user ∈ group.users, user ≠ .undefined) :
    (s.snapshot setup group).CountsAway s setup.registry group (s.view setup group) := by
  have dismissed : (s.snapshot setup group).state.dismissedIssueCount =
      .ofNat (s.countAway setup.registry group) := by
    rw [snapshot]
    dsimp only
    rw [← h.countAway_add tracked sound drawable users defined, Nat.add_sub_cancel]
  refine ⟨fun _ => h.listed_iff tracked drawable defined, dismissed, fun here => ?_⟩
  rw [dismissed, countAway_eq_zero sound.ledger here]
  rfl

namespace Hub

variable {σ : Type} {host : Host σ} {setup : Setup} {x : Hub × σ}

/-- Whatever was done to an enabled hub, short of dismissing issues and loading records, no record is
touched by a dismissal, and a record whose source has no report is one of a source in error. A
snapshot of distinct users counts as dismissed just the issues with a record that are away: those of
a source without a report, and those of a user whom the source does not report for. -/
theorem undismissed_issues_away (enabled : setup.settings.enabled = true) {faultless : Prop}
    {history : List Entered}
    (ran : Execution setup faultless (.initial setup.settings) history x.1.state)
    (dismissals : ∀ e ∈ history, ∀ key, e.operation ≠ .dismissIssue key)
    (imports : ∀ e ∈ history, ∀ records, e.operation ≠ .importRecords records)
    (free : x.1.held = false) :
    x.1.state.Undismissed setup ∧
      ∀ told, host.Records told → ∀ groups, PullsBeside host setup told x groups
        fun group snapshot v => (∀ user ∈ group.users, user ≠ .undefined) →
          snapshot.CountsAway x.1.state setup.registry group v := by
  have initial := HubState.sound_initial setup
  have sound := initial.execution ran
  have tracked := (HubState.tracked_initial setup.settings).execution initial ran imports
  have undismissed :=
    (HubState.undismissed_initial setup).execution initial ran dismissals imports
  refine ⟨undismissed, fun told records groups => ?_⟩
  apply pulls_beside records enabled free
  intro group drawable users defined
  exact undismissed.snapshot_countsAway tracked sound drawable users defined

/-- An error has taken the report of the parent away, and the profile has one: as long as the profile
runs, one issue counts as dismissed, and both while the profile is paused. -/
theorem undismissed_issues_away_paused :
    let source : Source :=
      ⟨"wifi", .all, true, .issueOnly ⟨"net", .criticalWarning, true, true⟩⟩
    let setup : Setup := ⟨⟨[⟨"network", .hidden, none, none, .none, [source]⟩]⟩, .configured,
      ⟨true, true, [], .default, false⟩⟩
    let payload : Json := .object [("issues", .array [.object [("id", .string "open"),
      ("typeId", .string "network"), ("severity", .string "recommendation"),
      ("title", .string "Open"), ("summary", .string "Anyone can listen")]])]
    let groups : List UserGroup := [⟨1, [⟨2, true⟩]⟩, ⟨1, [⟨2, false⟩]⟩]
    let w := ((run diary setup (.setSourceData ⟨"wifi", 1⟩ payload none)).run
      (.initial setup.settings, (⟨[], [], []⟩ : Diary))).2
    let x := ((run diary setup (.setSourceData ⟨"wifi", 2⟩ payload none)).run w).2
    let y := ((run diary setup (.reportSourceError ⟨"wifi", 1⟩ none)).run x).2
    y.1.state.Undismissed setup ∧ ∃ snapshots h,
      (run diary setup (.pullSafetyState groups)).run y = (.ok (.snapshots snapshots), y.1, h) ∧
      snapshots.map (·.state) = [⟨.recommendation, 1, 1⟩, ⟨.ok, 0, 2⟩] ∧
      List.Forall₂ (fun group snapshot => ∃ v h',
        (run diary setup (.view group)).run y = (.ok (.view v), y.1, h') ∧
          snapshot.CountsAway y.1.state setup.registry group v) groups snapshots := by
  intro source setup payload groups w x y
  have orderly := diary_orderly setup False
  have parent : Reached diary setup False _ w :=
    (Reached.start (⟨[], [], []⟩ : Diary)).quietly 0 (by decide +kernel)
  have profile : Reached diary setup False _ x := parent.quietly 0 (by decide +kernel)
  have failed : Reached diary setup False _ y := profile.quietly 0 (by decide +kernel)
  have free := failed.free orderly
  have enabled : setup.settings.enabled = true := rfl
  obtain ⟨undismissed, pulls⟩ := undismissed_issues_away enabled (failed.execution orderly)
    (by simp) (by simp) free
  have drawable : groups.all (y.1.state.isDrawable setup) = true := by decide +kernel
  obtain ⟨snapshots, h, pulled, -, counts⟩ := (pulls _ diary_records groups).of_drawable drawable
  obtain ⟨_, pulled'⟩ := run_pullSafetyState_of_drawable diary_records enabled free drawable
  cases pulled.symm.trans pulled'
  have distinct : ∀ group ∈ groups, group.users.Nodup := by decide +kernel
  have defined : ∀ group ∈ groups, ∀ user ∈ group.users, user ≠ .undefined := by decide +kernel
  refine ⟨undismissed, _, h, pulled, by decide +kernel, ?_⟩
  obtain ⟨running, rest⟩ := List.forall₂_cons.mp counts
  obtain ⟨paused, -⟩ := List.forall₂_cons.mp rest
  obtain ⟨v, h', viewed, agrees⟩ := running (distinct _ (by simp [groups]))
  obtain ⟨v', h'', viewed', agrees'⟩ := paused (distinct _ (by simp [groups]))
  exact .cons ⟨v, h', viewed, agrees (defined _ (by simp [groups]))⟩
    (.cons ⟨v', h'', viewed', agrees' (defined _ (by simp [groups]))⟩ .nil)

theorem failed_issue_counted_as_dismissed :
    let source : Source :=
      ⟨"wifi", .primary, false, .issueOnly ⟨"net", .criticalWarning, true, true⟩⟩
    let setup : Setup := ⟨⟨[⟨"network", .hidden, none, none, .none, [source]⟩]⟩, .configured,
      ⟨true, true, [], .default, false⟩⟩
    let payload : Json := .object [("issues", .array [.object [("id", .string "open"),
      ("typeId", .string "network"), ("severity", .string "recommendation"),
      ("title", .string "Open"), ("summary", .string "Anyone can listen")]])]
    let report : Operation := .setSourceData ⟨"wifi", 1⟩ payload none
    let fail : Operation := .reportSourceError ⟨"wifi", 1⟩ none
    let x := ((run diary setup report).run
      (.initial setup.settings, (⟨[], [], []⟩ : Diary))).2
    let y := ((run diary setup fail).run x).2
    setup.settings.enabled = true ∧ (⟨1, []⟩ : UserGroup).users.Nodup ∧
      Reached diary setup False [⟨.initial setup.settings, report⟩, ⟨x.1.state, fail⟩] y ∧
      ∃ snapshot h, (run diary setup (.pullSafetyState [⟨1, []⟩])).run y =
          (.ok (.snapshots [snapshot]), y.1, h) ∧
        snapshot.state.dismissedIssueCount ≠ 0 := by
  intro source setup payload report fail x y
  have reported : Reached diary setup False [⟨.initial setup.settings, report⟩] x :=
    (Reached.start (⟨[], [], []⟩ : Diary)).quietly 0 (by decide +kernel)
  have failed : Reached diary setup False [⟨.initial setup.settings, report⟩, ⟨x.1.state, fail⟩] y :=
    reported.quietly 0 (by decide +kernel)
  have enabled : setup.settings.enabled = true := rfl
  have drawable : [⟨1, []⟩].all (y.1.state.isDrawable setup) = true := by decide +kernel
  obtain ⟨h, pulled⟩ := run_pullSafetyState_of_drawable diary_records enabled
    (failed.free (diary_orderly setup False)) drawable
  exact ⟨enabled, by decide +kernel, failed, _, h, pulled, by decide +kernel⟩

end Hub

end SafetyBoard
