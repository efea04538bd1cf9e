import SafetyBoard.Proofs.Hub.Snapshot

/-!
# Every reported issue has a record

Reports and dismissal records are kept apart, and each is changed by itself. Still every change that
stores a report syncs the records with it, up to a garbled issue id, and a record only goes when the
report goes or no longer has the issue; so, unless records are loaded from outside, every issue of a
stored report without garbled ids has one. A view of distinct users then lists no more issues than
there are records for them, and a snapshot counts as dismissed all the others.
-/

namespace SafetyBoard

namespace HubState

def Tracked (s : HubState) : Prop :=
  ∀ (issue : IssueKey) (report : Report), s.store.get? issue.source = some report →
    report.isSpelled = true → (issue.issueId : Text) ∈ report.issueIds →
      ∃ record, s.ledger.record? issue = some record

variable {s t u : HubState} {setup : Setup}

theorem tracked_initial (settings : Settings) : (initial settings).Tracked := by
  intro issue report stored
  have absent : (initial settings).store.get? issue.source = none := rfl
  cases absent.symm.trans stored

theorem Tracked.of_lookups (h : s.Tracked) (reports : ∀ key, t.store.get? key = s.store.get? key)
    (records : ∀ issue, t.ledger.record? issue = s.ledger.record? issue) : t.Tracked := by
  intro issue report stored spelled member
  rw [reports] at stored
  rw [records]
  exact h issue report stored spelled member

/-- Data that answers as before, whatever else of it changed. -/
theorem Tracked.through (h : s.Tracked) (same : u.SameData t)
    (reports : ∀ key, u.store.get? key = s.store.get? key)
    (records : ∀ issue, u.ledger.record? issue = s.ledger.record? issue) : t.Tracked :=
  h.of_lookups (fun key => (congrArg (·.get? key) same.store).trans (reports key))
    fun issue => (congrArg (·.record? issue) same.ledger).trans (records issue)

theorem Tracked.congr (h : s.Tracked) (same : s.SameData t) : t.Tracked :=
  h.through same (fun _ => rfl) fun _ => rfl

theorem Tracked.withReport (h : s.Tracked) (sound : s.ledger.Sound) (key : SourceKey)
    (report : Report) (now : Number) : (s.withReport key report now).Tracked := by
  intro issue stored found spelled member
  rw [withReport_record? key sound]
  rw [withReport_get?] at found
  by_cases own : issue.source = key
  · rw [if_pos own.symm] at found
    cases found
    rw [if_pos ⟨own, (Text.mem_spelledPrefix_iff spelled).mpr member⟩]
    exact ⟨_, rfl⟩
  · rw [if_neg (Ne.symm own)] at found
    have other : ¬issue.source.same key = true := by simp [SourceKey.same_of_ne own]
    rw [if_neg fun reported => own reported.1, if_neg fun dropped => other dropped.1]
    exact h issue stored found spelled member

theorem Tracked.withError (h : s.Tracked) (key : SourceKey) : (s.withError key).Tracked := by
  intro issue stored found spelled member
  rw [withError_get?] at found
  split at found
  · cases found
  · exact h issue stored found spelled member

theorem Tracked.withUnanswered (h : s.Tracked) (keys : List SourceKey) :
    (s.withUnanswered keys).Tracked :=
  h.of_lookups (withUnanswered_get? s keys) fun _ => rfl

theorem Tracked.withoutUser (h : s.Tracked) (sound : s.Sound setup) (user : UserId) :
    (s.withoutUser user).Tracked := by
  intro issue stored found spelled member
  rw [withoutUser_get? sound.store.keyed] at found
  split at found
  · cases found
  · next other =>
    have other : ¬issue.userId.equals user = true := other
    rw [withoutUser_record? sound.ledger, if_neg other]
    exact h issue stored found spelled member

theorem Tracked.dismiss (h : s.Tracked) (sound : s.ledger.Sound) (key : IssueKey)
    (severity : SourceSeverity) (now : Instant) :
    { s with ledger := s.ledger.dismiss key severity now }.Tracked := by
  intro issue stored found spelled member
  rw [DismissalLedger.record?_dismiss sound]
  split
  · exact ⟨_, rfl⟩
  · exact h issue stored found spelled member

/-- What is written keeps every issue tracked, unless records are loaded. -/
theorem Tracked.writes (h : s.Tracked) (sound : s.Sound setup) {operation : Operation}
    (loads : ∀ records, operation ≠ .importRecords records)
    (writes : Writes setup s operation t) : t.Tracked := by
  cases writes with
  | idle _ _ same | refresh _ same | launch _ _ _ _ same | relaunch _ same | saving same =>
    exact h.through same (fun _ => rfl) fun _ => rfl
  | report now _ _ _ same => exact (h.withReport sound.ledger _ _ now).congr same
  | error _ _ _ same => exact (h.withError _).congr same
  | timeout keys _ same => exact (h.withUnanswered keys).congr same
  | removal _ same =>
    rcases same with same | same
    · exact (h.withoutUser sound _).congr same
    · exact (h.withoutUser sound _).through same (fun _ => rfl) fun _ => rfl
  | dismissal now _ _ same => exact (h.dismiss sound.ledger _ _ (.ofNumber now)).congr same
  | clearing same =>
    exact (tracked_initial setup.settings).through same (fun _ => rfl) fun _ => rfl
  | loading => exact absurd rfl (loads _)

/-- Whatever is done to a hub, short of loading records, every reported issue stays tracked. -/
theorem Tracked.execution (h : s.Tracked) (sound : s.Sound setup) {faultless : Prop}
    {history : List Entered} (ran : Execution setup faultless s history t)
    (imports : ∀ e ∈ history, ∀ records, e.operation ≠ .importRecords records) : t.Tracked := by
  induction ran with
  | refl => exact h
  | enter ran step ih =>
    have before := ih fun e member => imports e (List.mem_append_left _ member)
    have last := imports _ (List.mem_append_right _ List.mem_cons_self)
    exact before.writes (sound.execution ran) last step.writes
  | subscribe group _ ih => exact (ih imports).of_lookups (fun _ => rfl) fun _ => rfl

variable {group : UserGroup}

/-- A view of distinct users lists one record's issue at most once, and none without a record. -/
theorem Tracked.length_issues_le (h : s.Tracked) (sound : s.Sound setup)
    (drawable : s.isDrawable setup group = true) (users : group.users.Nodup) :
    (s.view setup group).issues.length ≤ s.ledger.countActive group := by
  let opened := View.openIssues setup.registry s.store s.ledger group
  let active := s.ledger.records.values.filter fun r => group.containsUser r.issue.userId
  have once : (opened.map (·.key)).Nodup :=
    View.nodup_keys_openIssues users fun _ _ stored => sound.nodup_issueIds stored
  have recorded : opened.map (·.key) ⊆ active.map (·.issue) := by
    intro key member
    obtain ⟨r, shown, rfl⟩ := List.mem_map.mp member
    obtain ⟨source, external, user, reports, reported⟩ :=
      View.mem_reportedIssues.mp (View.mem_openIssues.mp shown).1
    obtain ⟨report, stored, issue, id, named, own⟩ := View.mem_sourceIssues.mp reported
    rw [own]
    have reporter : (source, user) ∈ group.reporters setup.registry.externalSources :=
      UserGroup.mem_reporters.mpr ⟨external, reports⟩
    obtain ⟨record, found⟩ := h ⟨source.id, id, user⟩ report stored
      (View.spelled_of_drawable drawable reporter stored) (List.mem_map.mpr ⟨_, issue, named⟩)
    have same := sound.ledger.issue found
    refine List.mem_map.mpr ⟨record, List.mem_filter.mpr ⟨?_, ?_⟩, same⟩
    · exact Table.mem_values_iff.mpr ⟨_, found⟩
    · rw [same]
      exact List.contains_iff_mem.mpr (UserGroup.mem_users_of_reporting reports)
  calc (s.view setup group).issues.length
      = (opened.map (·.key)).length := by
        rw [List.length_map]
        exact View.issueList_perm.length_eq.trans (List.length_map _)
    _ ≤ (active.map (·.issue)).length := List.Nodup.length_le_of_subset once recorded
    _ = s.ledger.countActive group := by
        rw [List.length_map, DismissalLedger.countActive, List.countP_eq_length_filter]

end HubState

/-- A snapshot that counts every record of the group once, with the open issues or with the
dismissed ones. -/
structure Snapshot.Accounts (snapshot : Snapshot) (ledger : DismissalLedger) (group : UserGroup)
    (v : View) : Prop where
  bounded : v.issues.length ≤ ledger.countActive group
  opened : snapshot.state.openIssueCount = .ofNat v.issues.length
  dismissed : ∃ dismissed, snapshot.state.dismissedIssueCount = .ofNat dismissed ∧
    dismissed + v.issues.length = ledger.countActive group

theorem HubState.Tracked.snapshot_accounts {s : HubState} {setup : Setup} {group : UserGroup}
    (h : s.Tracked) (sound : s.Sound setup) (drawable : s.isDrawable setup group = true)
    (users : group.users.Nodup) :
    (s.snapshot setup group).Accounts s.ledger group (s.view setup group) where
  bounded := h.length_issues_le sound drawable users
  opened := by rw [HubState.snapshot]
  dismissed := ⟨_, by rw [HubState.snapshot],
    Nat.sub_add_cancel (h.length_issues_le sound drawable users)⟩

namespace Hub

variable {σ : Type} {host : Host σ} {setup : Setup} {x : Hub × σ}

end Hub

end SafetyBoard
