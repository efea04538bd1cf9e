import Mathlib.Data.List.Basic
import Mathlib.Data.List.Find
import SafetyBoard.Proofs.Dismissal.Ledger
import SafetyBoard.Proofs.Report.Store
import SafetyBoard.Proofs.Source.Registry
import SafetyBoard.Proofs.Users
import SafetyBoard.Proofs.View.Entries
import SafetyBoard.Proofs.View.Issues
import SafetyBoard.View.Board

/-!
# What a view reads

A view of a group reads a store and a ledger by a few keys only: each configured source for the
parent and, if the source supports them, for the running profiles. By these it reads the reports,
which actions are in flight, and whether a reported issue is dismissed at its severity; error flags
it reads for every user of the group. So stores and ledgers that answer these alike give the same
view, however they came about, and what is stored of a paused profile or of a stranger never shows.
Which actions are in flight shows on those actions alone, and an error flag shows on no issue.
-/

namespace SafetyBoard

namespace View

def flagged (inFlight : ActionKey → Bool) (i : ViewIssue) : ViewIssue :=
  { i with
    actions := i.actions.map fun a =>
      { a with inFlight := a.id.spelled?.any fun id => inFlight ⟨i.key, id⟩ } }

theorem toViewIssue_flagged (store store' : ReportStore) (r : ReportedIssue) :
    toViewIssue store' r = flagged store'.isActionInFlight (toViewIssue store r) := by
  simp only [toViewIssue, flagged, List.map_map]
  rfl

/-- A configured source for the parent or, if the source supports them, for a running profile. -/
def Readable (registry : Registry) (users : UserGroup) (key : SourceKey) : Prop :=
  ∃ source ∈ registry.allSources, source.id = key.sourceId ∧
    (key.userId = users.parent ∨ source.supportsManaged = true ∧
      ∃ p ∈ users.managed, p.running = true ∧ p.userId = key.userId)

/-- By the readable keys, and in the error flags of its users, a group reads the same in both, but
for the actions in flight. -/
structure SameReadings (registry : Registry) (users : UserGroup) (store store' : ReportStore)
    (ledger ledger' : DismissalLedger) : Prop where
  report : ∀ key, Readable registry users key → store'.get? key = store.get? key
  error : ∀ key, key.userId ∈ users.users → store'.hasError key = store.hasError key
  dismissed : ∀ key report issue, Readable registry users key.source →
    store.get? key.source = some report → issue ∈ report.issues → issue.id = key.issueId →
    ledger'.isDismissed key issue.severity = ledger.isDismissed key issue.severity

/-- By the readable keys a group reads the same reports in both, and of the issues in them the same
ones are dismissed. -/
structure SameIssues (registry : Registry) (users : UserGroup) (store store' : ReportStore)
    (ledger ledger' : DismissalLedger) : Prop where
  report : ∀ key, Readable registry users key → store'.get? key = store.get? key
  dismissed : ∀ key report issue, Readable registry users key.source →
    store.get? key.source = some report → issue ∈ report.issues → issue.id = key.issueId →
    ledger'.isDismissed key issue.severity = ledger.isDismissed key issue.severity

/-- The error flag of an entry may be read and, if the entry is ok, its report. -/
structure Legible (registry : Registry) (users : UserGroup) (e : Entry) : Prop where
  own : e.key.userId ∈ users.users
  readable : e.severity = .ok → Readable registry users e.key

/-- A group reads the same in both, but for the actions in flight. -/
structure SameReports (users : UserGroup) (store store' : ReportStore)
    (ledger ledger' : DismissalLedger) : Prop where
  report : ∀ key, key.userId ∈ users.users → store'.get? key = store.get? key
  error : ∀ key, key.userId ∈ users.users → store'.hasError key = store.hasError key
  dismissed : ∀ key report issue, key.userId ∈ users.users →
    store.get? key.source = some report → issue ∈ report.issues → issue.id = key.issueId →
    ledger'.isDismissed key issue.severity = ledger.isDismissed key issue.severity

structure SameFor (users : UserGroup) (store store' : ReportStore)
    (ledger ledger' : DismissalLedger) : Prop extends
    SameReports users store store' ledger ledger' where
  inFlight : ∀ action, action.issue.userId ∈ users.users →
    store'.isActionInFlight action = store.isActionInFlight action

section Congr

variable {registry : Registry} {resolver : ActionResolver} {users : UserGroup}
  {store store' : ReportStore} {ledger ledger' : DismissalLedger}

theorem readable_iff {key : SourceKey} :
    Readable registry users key ↔ ∃ source ∈ registry.allSources, source.id = key.sourceId ∧
      key.userId ∈ users.reportingUsers source.supportsManaged := by
  simp only [Readable, UserGroup.mem_reportingUsers]

theorem mem_users_of_readable {key : SourceKey} (h : Readable registry users key) :
    key.userId ∈ users.users := by
  obtain ⟨source, -, -, reports⟩ := readable_iff.mp h
  exact UserGroup.mem_users_of_reporting reports

theorem readable_of_external {source : Source} (external : source ∈ registry.externalSources)
    {user : UserId} (reports : user ∈ users.reportingUsers source.supportsManaged) :
    Readable registry users ⟨source.id, user⟩ :=
  readable_iff.mpr ⟨source, RegistryOf.configured_of_external external, rfl, reports⟩

theorem readable_of_awake {source : Source} (configured : source ∈ registry.allSources)
    {m : Member} (member : m ∈ users.members source.supportsManaged)
    (awake : m.isPaused = false) : Readable registry users (memberKey source m) :=
  readable_iff.mpr ⟨source, configured, rfl, UserGroup.reporting_of_awake member awake⟩

theorem SameReports.sameReadings (same : SameReports users store store' ledger ledger')
    (registry : Registry) : SameReadings registry users store store' ledger ledger' where
  report := fun key readable => same.report key (mem_users_of_readable readable)
  error := same.error
  dismissed := fun key report issue readable =>
    same.dismissed key report issue (mem_users_of_readable readable)

theorem readable_of_reported {r : ReportedIssue} (h : r ∈ reportedIssues registry store users) :
    Readable registry users r.key.source ∧ ∃ report, store.get? r.key.source = some report ∧
      r.issue ∈ report.issues ∧ r.issue.id = r.key.issueId := by
  obtain ⟨source, external, user, reports, found⟩ := mem_reportedIssues.mp h
  obtain ⟨report, stored, member, id, named, own⟩ := mem_sourceIssues.mp found
  rw [own]
  exact ⟨readable_of_external external reports, report, stored, member, named⟩

section SameIssues

variable (same : SameIssues registry users store store' ledger ledger')
include same

theorem reportedIssues_congr :
    reportedIssues registry store' users = reportedIssues registry store users := by
  simp only [reportedIssues]
  refine List.flatMap_congr fun source external => List.flatMap_congr fun user reports => ?_
  rw [sourceIssues, sourceIssues,
    same.report ⟨source.id, user⟩ (readable_of_external external reports)]

theorem openIssues_congr :
    openIssues registry store' ledger' users = openIssues registry store ledger users := by
  rw [openIssues, openIssues, reportedIssues_congr same]
  refine List.filter_congr fun r reported => ?_
  obtain ⟨readable, report, stored, member, named⟩ := readable_of_reported reported
  rw [isOpen, isOpen, same.dismissed r.key report r.issue readable stored member named]

theorem issueList_flagged : issueList registry store' ledger' users =
    (issueList registry store ledger users).map (flagged store'.isActionInFlight) := by
  rw [issueList, issueList, openIssues_congr same, List.map_mergeSort, List.map_map]
  · congr 1
    exact List.map_congr_left fun r _ => toViewIssue_flagged store store' r
  · exact fun _ _ _ _ => rfl

theorem isDrawable_congr :
    isDrawable registry store' ledger' users = isDrawable registry store ledger users := by
  have reported : reports registry store' users = reports registry store users := by
    rw [reports, reports]
    refine List.flatMap_congr fun source external => List.filterMap_congr fun user counts => ?_
    exact same.report _ (readable_of_external external counts)
  rw [isDrawable, isDrawable, reported, openIssues_congr same]

end SameIssues

section SameReadings

variable (same : SameReadings registry users store store' ledger ledger')
include same

theorem SameReadings.sameIssues : SameIssues registry users store store' ledger ledger' :=
  ⟨same.report, same.dismissed⟩

section Member

variable {source : Source} {m : Member}

/-- The status of a paused profile is looked for and not used, so only readable ones count. -/
theorem liveStatus?_congr (configured : source ∈ registry.allSources)
    (member : m ∈ users.members source.supportsManaged) :
    liveStatus? store' source m = liveStatus? store source m := by
  rw [liveStatus?, liveStatus?]
  split
  · rfl
  · next awake =>
    have readable := readable_of_awake configured member (Bool.eq_false_iff.mpr awake)
    rw [same.report (memberKey source m) readable]

theorem defaultSummary_congr (own : m.userId ∈ users.users) :
    defaultSummary store' source m = defaultSummary store source m := by
  rw [defaultSummary, defaultSummary, same.error (memberKey source m) own]

theorem entryOf_congr (configured : source ∈ registry.allSources)
    (member : m ∈ users.members source.supportsManaged) :
    entryOf resolver store' source m = entryOf resolver store source m := by
  have own := UserGroup.mem_users_of_member member
  simp only [entryOf, defaultEntryOf, liveStatus?_congr same configured member,
    defaultSummary_congr same own]

end Member

variable {g : SourceGroup}

theorem groupEntries_congr (configured : g ∈ registry.groups) :
    groupEntries resolver store' users g = groupEntries resolver store users g := by
  simp only [groupEntries]
  refine List.flatMap_congr fun source stands => List.filterMap_congr fun m member => ?_
  exact entryOf_congr same (List.mem_flatMap.mpr ⟨g, configured, stands⟩) member

theorem placedEntries_congr (configured : g ∈ registry.groups) :
    placedEntries resolver store' users g = placedEntries resolver store users g := by
  simp only [placedEntries]
  refine List.flatMap_congr fun source stands => List.filterMap_congr fun m member => ?_
  have own := UserGroup.mem_users_of_member member
  have configured : source ∈ registry.allSources := List.mem_flatMap.mpr ⟨g, configured, stands⟩
  simp only [placement, defaultPlacement, liveStatus?_congr same configured member,
    defaultSummary_congr same own, same.error (memberKey source m) own]

omit same in
theorem legible_of_mem (configured : g ∈ registry.groups) {e : Entry}
    (h : e ∈ groupEntries resolver store users g) : Legible registry users e := by
  obtain ⟨source, stands, m, member, origin⟩ := mem_groupEntries.mp h
  constructor
  · rw [origin.key.1]
    exact UserGroup.mem_users_of_member member
  · intro ok
    obtain ⟨_, _, _, _, _, awake, -⟩ := origin.of_rated (by simp [ok]) (by simp [ok])
    rw [origin.key.1]
    exact readable_of_awake (List.mem_flatMap.mpr ⟨g, configured, stands⟩) member awake

variable {entries : List Entry} (legible : ∀ e ∈ entries, Legible registry users e)
include legible

/-- Only for a group that is ok are reports looked at again, and then only those of entries that
are ok. -/
theorem explanation?_congr (severity : EntrySeverity) :
    explanation? store' severity entries = explanation? store severity entries := by
  rw [explanation?, explanation?]
  congr 1
  refine List.find?_congr fun e he => ?_
  by_cases asked : e.severity = severity ∧ severity = .ok
  · obtain ⟨rfl, ok⟩ := asked
    rw [hasIssues, hasIssues, same.report e.key ((legible e he).readable ok)]
  · by_cases own : e.severity = severity
    · have above : severity ≠ .ok := fun ok => asked ⟨own, ok⟩
      simp [above]
    · simp [own]

theorem groupSummary_congr (severity : EntrySeverity) :
    groupSummary store' g severity entries = groupSummary store g severity entries := by
  have failed : (entries.countP fun e => store'.hasError e.key) =
      entries.countP fun e => store.hasError e.key :=
    List.countP_congr fun e he => by rw [same.error e.key (legible e he).own]
  simp only [groupSummary, failed, explanation?_congr same legible]

theorem entryItems_congr : entryItems store' g entries = entryItems store g entries := by
  rcases entries with _ | ⟨e, _ | ⟨e', rest⟩⟩
  · rfl
  · rfl
  · simp only [entryItems, groupSummary_congr same legible]

omit legible in
theorem groupPart_congr (configured : g ∈ registry.groups) :
    groupPart resolver store' users g = groupPart resolver store users g := by
  simp only [groupPart, groupEntries_congr same configured, placedEntries_congr same configured,
    entryItems_congr same fun e he => legible_of_mem configured he]

omit legible in
/-- Only the flags of the actions can differ. -/
theorem SameReadings.compute_flagged (refresh : RefreshStatus) :
    compute registry resolver store' ledger' refresh users =
      let v := compute registry resolver store ledger refresh users
      { v with issues := v.issues.map (flagged store'.isActionInFlight) } := by
  have issues := issueList_flagged same.sameIssues
  have parts : registry.groups.map (groupPart resolver store' users) =
      registry.groups.map (groupPart resolver store users) :=
    List.map_congr_left fun g configured => groupPart_congr same configured
  simp only [compute, issues, parts, List.map_map, List.length_map, Function.comp_def]
  cases issueList registry store ledger users <;> rfl

omit legible in
theorem SameReadings.compute_congr
    (inFlight : ∀ action, Readable registry users action.issue.source →
      store'.isActionInFlight action = store.isActionInFlight action)
    (refresh : RefreshStatus) :
    compute registry resolver store' ledger' refresh users =
      compute registry resolver store ledger refresh users := by
  have unmoved : issueList registry store' ledger' users =
      issueList registry store ledger users := by
    rw [issueList, issueList, openIssues_congr same.sameIssues]
    congr 1
    refine List.map_congr_left fun r opened => ?_
    have readable := (readable_of_reported (List.mem_filter.mp opened).1).1
    rw [toViewIssue, toViewIssue]
    congr 1
    refine List.map_congr_left fun a _ => ?_
    rw [isInFlight, isInFlight]
    simp only [inFlight ⟨r.key, _⟩ readable]
  rw [same.compute_flagged]
  have issues := (issueList_flagged same.sameIssues).symm.trans unmoved
  exact congrArg (fun issues =>
    { compute registry resolver store ledger refresh users with issues }) issues

omit legible in
theorem SameReadings.draw_congr
    (inFlight : ∀ action, Readable registry users action.issue.source →
      store'.isActionInFlight action = store.isActionInFlight action)
    (refresh : RefreshStatus) :
    draw registry resolver store' ledger' refresh users =
      draw registry resolver store ledger refresh users := by
  rw [draw, draw, isDrawable_congr same.sameIssues, same.compute_congr inFlight]

end SameReadings

theorem compute_flagged (same : SameReports users store store' ledger ledger')
    (refresh : RefreshStatus) :
    compute registry resolver store' ledger' refresh users =
      let v := compute registry resolver store ledger refresh users
      { v with issues := v.issues.map (flagged store'.isActionInFlight) } :=
  (same.sameReadings registry).compute_flagged refresh

theorem compute_congr (same : SameFor users store store' ledger ledger')
    (refresh : RefreshStatus) :
    compute registry resolver store' ledger' refresh users =
      compute registry resolver store ledger refresh users :=
  (same.toSameReports.sameReadings registry).compute_congr
    (fun action readable => same.inFlight action (mem_users_of_readable readable)) refresh

/-- The same in both views, which may yet differ in what they say of a refresh. -/
structure SameContent (v w : View) : Prop where
  issues : w.issues = v.issues
  entries : w.entries = v.entries
  staticEntryGroups : w.staticEntryGroups = v.staticEntryGroups
  overallSeverity : w.overallSeverity = v.overallSeverity
  hasSettingsToReview : w.hasSettingsToReview = v.hasSettingsToReview

theorem SameContent.refl (v : View) : v.SameContent v := ⟨rfl, rfl, rfl, rfl, rfl⟩

/-- Two looks show the same content or fail alike. -/
def SameLook : Except Fault View → Except Fault View → Prop
  | .ok v, .ok w => v.SameContent w
  | .error f, .error g => f = g
  | .ok _, .error _ | .error _, .ok _ => False

theorem SameLook.refl (looked : Except Fault View) : SameLook looked looked := by
  cases looked with
  | error f => exact (rfl : f = f)
  | ok v => exact SameContent.refl v

/-- What a view reads alike, it shows alike also while a refresh comes or goes. -/
theorem draw_sameLook (same : SameFor users store store' ledger ledger')
    (refresh refresh' : RefreshStatus) :
    SameLook (draw registry resolver store ledger refresh users)
      (draw registry resolver store' ledger' refresh' users) := by
  rw [draw, draw, isDrawable_congr (same.toSameReports.sameReadings registry).sameIssues]
  split
  · rw [compute_congr same]
    exact ⟨rfl, rfl, rfl, rfl, rfl⟩
  · exact SameLook.refl _

end Congr

/-- A view never shows data of paused or foreign users. It is determined by the reports, the actions
in flight and the dismissals of the readable keys and by the error flags of the users of the group;
and no key of a paused profile or of a stranger is readable, nor one of a managed profile whose
source does not support them. -/
theorem compute_confined (registry : Registry) (resolver : ActionResolver)
    (refresh : RefreshStatus) (users : UserGroup) (store store' : ReportStore)
    (ledger ledger' : DismissalLedger)
    (report : ∀ key, Readable registry users key → store'.get? key = store.get? key)
    (inFlight : ∀ action, Readable registry users action.issue.source →
      store'.isActionInFlight action = store.isActionInFlight action)
    (dismissed : ∀ issue severity, Readable registry users issue.source →
      ledger'.isDismissed issue severity = ledger.isDismissed issue severity)
    (error : ∀ key, key.userId ∈ users.users → store'.hasError key = store.hasError key) :
    draw registry resolver store' ledger' refresh users =
      draw registry resolver store ledger refresh users ∧
    compute registry resolver store' ledger' refresh users =
      compute registry resolver store ledger refresh users ∧
    ∀ key, key.userId ≠ users.parent →
      (∀ p ∈ users.managed, p.userId = key.userId → p.running = false) ∨
        (∀ source ∈ registry.allSources, source.id = key.sourceId →
          source.supportsManaged = false) →
      ¬Readable registry users key := by
  have same : SameReadings registry users store store' ledger ledger' :=
    ⟨report, error, fun key _ issue readable _ _ _ => dismissed key issue.severity readable⟩
  refine ⟨same.draw_congr inFlight refresh, same.compute_congr inFlight refresh, ?_⟩
  rintro key managed out ⟨source, configured, named, parent | ⟨supports, p, profile, running, own⟩⟩
  · exact managed parent
  · rcases out with stopped | unsupported
    · rw [stopped p profile own] at running
      cases running
    · rw [unsupported source configured named] at supports
      cases supports

/-- A report of a paused profile, an action that it has in flight and a dismissal of it change
nothing in the view, though its source supports managed profiles. -/
theorem compute_confined_paused :
    let wifi : Source := ⟨"wifi", .all, true,
      .dynamic ⟨"net", .criticalWarning, true, true⟩ ⟨some "Wi-Fi", none, none, none, .enabled⟩⟩
    let registry : Registry := ⟨[⟨"network", .collapsible, some "Network", none, .none, [wifi]⟩]⟩
    let users : UserGroup := ⟨1, [⟨2, true⟩, ⟨3, false⟩]⟩
    let action : ActionKey := ⟨⟨"wifi", "open", 3⟩, "leave"⟩
    let leave : IssueAction := ⟨"leave", "Leave", false, none, none⟩
    let report (severity : SourceSeverity) : Report :=
      ⟨some ⟨"Wi-Fi", "Found", severity, true, some "settings", none⟩,
        [⟨"open", "network", severity, .general, "Open", "Anyone can listen", none, [leave]⟩]⟩
    let store := ((∅ : ReportStore).set ⟨"wifi", 2⟩ (report .recommendation)).2
    let store' := (store.set ⟨"wifi", 3⟩ (report .criticalWarning)).2.markActionInFlight action
    let ledger' := (∅ : DismissalLedger).dismiss action.issue .criticalWarning ⟨some 0⟩
    store.get? ⟨"wifi", 3⟩ = none ∧ (store'.get? ⟨"wifi", 3⟩).isSome = true ∧
      compute registry .configured store' ledger' .none users =
        compute registry .configured store ∅ .none users := by
  intro wifi registry users action leave report store store' ledger'
  have running : ∀ p ∈ users.managed, p.running = true → p.userId ≠ 3 := by decide +kernel
  have awake {key : SourceKey} (readable : Readable registry users key) : key.userId ≠ 3 := by
    obtain ⟨_, -, -, parent | ⟨-, p, profile, runs, own⟩⟩ := readable
    · rw [parent]
      decide +kernel
    · rw [← own]
      exact running p profile runs
  have unflagged (key : SourceKey) : store.hasError key = false := by
    rw [ReportStore.hasError_set, ReportStore.hasError_empty, Bool.and_false]
  refine ⟨by decide +kernel, by decide +kernel, ?_⟩
  refine (compute_confined registry .configured .none users store store' ∅ ledger'
    (fun key readable => ?_) (fun other readable => ?_) (fun issue severity readable => ?_)
    (fun key _ => ?_)).2.1
  · have other : (⟨"wifi", 3⟩ : SourceKey) ≠ key := fun same => awake readable (same ▸ rfl)
    rw [ReportStore.get?_markActionInFlight, ReportStore.get?_set, if_neg other]
  · have different : action ≠ other := fun same => awake readable (same ▸ rfl)
    rw [ReportStore.isActionInFlight_mark, decide_eq_false different, Bool.false_or,
      ReportStore.isActionInFlight_set]
  · have other : action.issue ≠ issue := fun same => awake readable (same ▸ rfl)
    rw [Bool.eq_iff_iff, DismissalLedger.isDismissed_dismiss DismissalLedger.sound_empty]
    exact or_iff_right fun own => other own.1
  · rw [ReportStore.hasError_markActionInFlight, ReportStore.hasError_set, unflagged,
      Bool.and_false]

end View

end SafetyBoard
