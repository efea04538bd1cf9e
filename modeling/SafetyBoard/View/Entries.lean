import SafetyBoard.View.Basic
import SafetyBoard.Report.Store
import SafetyBoard.Strings

/-!
The entries of a view. In a collapsible group a source has an entry for the parent and, if it
supports them, for each managed profile, paused or not; an entry shows the reported status, or what
is configured while there is none or the profile is paused. In a rigid group only entries that lead
somewhere are kept.
-/

namespace SafetyBoard.View

variable (resolver : ActionResolver) (store : ReportStore)

def memberKey (source : Source) (m : Member) : SourceKey := ⟨source.id, m.userId⟩

/-- The status that counts for a member; that of a paused profile does not. -/
def liveStatus? (source : Source) (m : Member) : Option Status :=
  if m.isPaused then none else (store.get? (memberKey source m)).bind (·.status)

def defaultSummary (source : Source) (m : Member) : Option Text :=
  if m.isPaused then some Strings.workProfilePaused
  else if store.hasError (memberKey source m) then some (Strings.refreshErrorSummary 1)
  else source.configuredSummary

def defaultTitle (source : Source) (m : Member) : Text :=
  (source.configuredTitle? m.isManaged).getD ""

def defaultEntryOf (source : Source) (m : Member) (severity : EntrySeverity)
    (icon : UnspecifiedIcon) : Option Entry :=
  if source.isInitiallyHidden then none
  else
    let action := resolver source m.userId m.isPaused
    some {
      id := (memberKey source m).encode
      key := memberKey source m
      title := defaultTitle source m
      summary := defaultSummary store source m
      severity
      enabled := action.isSome && !source.isInitiallyDisabled && !m.isPaused
      pendingAction := action
      unspecifiedIcon := icon
      iconAction := none }

def statusEntry (source : Source) (m : Member) (status : Status) : Entry :=
  let action := status.pendingAction <|> resolver source m.userId false
  let enabled := status.enabled && action.isSome
  { id := (memberKey source m).encode
    key := memberKey source m
    title := status.title
    summary := some status.summary
    severity := if enabled then status.severity.toEntry else .unspecified
    enabled
    pendingAction := action
    unspecifiedIcon := .noRecommendation
    iconAction := status.iconAction }

def entryOf (source : Source) (m : Member) : Option Entry :=
  match source.kind with
  | .issueOnly _ => none
  | .fixed _ => defaultEntryOf resolver store source m .unspecified .noIcon
  | .dynamic _ _ =>
    match liveStatus? store source m with
    | some status => some (statusEntry resolver source m status)
    | none => defaultEntryOf resolver store source m .unknown .noRecommendation

def groupEntries (users : UserGroup) (g : SourceGroup) : List Entry :=
  g.sources.flatMap fun source =>
    (users.members source.supportsManaged).filterMap (entryOf resolver store source)

def groupSeverity (entries : List Entry) : EntrySeverity :=
  (entries.map (·.severity)).foldl EntrySeverity.merge .unspecified

def hasIssues (key : SourceKey) : Bool := (store.get? key).any fun r => !r.issues.isEmpty

/-- The summary of the first entry that explains the severity of its group. An entry that is ok
explains it only if its source reports issues. -/
def explanation? (severity : EntrySeverity) (entries : List Entry) : Option Text :=
  (entries.find? fun e => e.severity = severity && e.summary.isSome &&
    (severity ≠ .ok || hasIssues store e.key)).bind (·.summary)

def groupSummary (g : SourceGroup) (severity : EntrySeverity) (entries : List Entry) :
    Option Text :=
  match severity with
  | .unspecified => g.summary
  | .unknown =>
    let failed := entries.countP fun e => store.hasError e.key
    some (if 0 < failed then Strings.refreshErrorSummary (.ofNat failed)
      else Strings.groupUnknownSummary)
  | .ok | .recommendation | .criticalWarning => explanation? store severity entries <|> g.summary

def groupIcon (g : SourceGroup) : UnspecifiedIcon :=
  match g.statelessIcon with
  | .privacy => .privacy
  | .none => .noIcon

def entryItems (g : SourceGroup) : List Entry → List EntryItem
  | [] => []
  | [entry] => [.single entry]
  | entries =>
    let severity := groupSeverity entries
    [.group {
      id := encodeGroupId g.id
      title := g.title.getD ""
      summary := groupSummary store g severity entries
      severity
      unspecifiedIcon := groupIcon g
      entries }]

inductive Placement where
  | absent
  | withoutAction
  | shown (entry : StaticEntry)
  deriving DecidableEq, Repr

def Placement.kept : Placement → Option StaticEntry
  | .shown entry => some entry
  | .absent | .withoutAction => none

def defaultPlacement (source : Source) (m : Member) : Placement :=
  if source.isInitiallyHidden then .absent
  else
    match resolver source m.userId m.isPaused with
    | none => .withoutAction
    | some action => .shown ⟨defaultTitle source m, defaultSummary store source m, action⟩

def placement (source : Source) (m : Member) : Placement :=
  match source.kind with
  | .issueOnly _ => .absent
  | .fixed _ => defaultPlacement resolver store source m
  | .dynamic _ _ =>
    match liveStatus? store source m with
    | none => defaultPlacement resolver store source m
    | some status =>
      match status.pendingAction with
      | none => .withoutAction
      | some action => .shown ⟨status.title, some status.summary, action⟩

def placedEntries (users : UserGroup) (g : SourceGroup) : List (StaticEntry × Bool) :=
  g.sources.flatMap fun source =>
    (users.members source.supportsManaged).filterMap fun m =>
      (placement resolver store source m).kept.map fun entry =>
        (entry, m.isPaused || store.hasError (memberKey source m))

end SafetyBoard.View
