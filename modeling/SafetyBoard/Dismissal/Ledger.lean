import SafetyBoard.Dismissal.Basic
import SafetyBoard.Log
import SafetyBoard.Table

/-!
The records of all issues seen, under their encoded keys, and whether any of them changed since they
were last saved.
-/

namespace SafetyBoard

structure DismissalLedger where
  records : Table String DismissalRecord
  dirty : Bool
  deriving DecidableEq, Repr

namespace DismissalLedger

def empty : DismissalLedger := ⟨∅, false⟩

instance : EmptyCollection DismissalLedger := ⟨empty⟩

def record? (l : DismissalLedger) (issue : IssueKey) : Option DismissalRecord :=
  l.records.get? issue.encode

def isDismissed (l : DismissalLedger) (issue : IssueKey) (severity : SourceSeverity) : Bool :=
  (l.record? issue).any (·.hides severity)

def dismiss (l : DismissalLedger) (issue : IssueKey) (severity : SourceSeverity) (now : Instant) :
    DismissalLedger :=
  let record := (l.record? issue).getD (.seen issue now)
  ⟨l.records.insert issue.encode (record.dismiss severity now), true⟩

def dismissLine (issue : IssueKey) (severity : SourceSeverity) : LogLine :=
  .line .debug "IssueDismissalCache" "Issue dismissed"
    (some [("issue", .string issue.encode), ("severity", .string severity.name)])

def countActive (l : DismissalLedger) (group : UserGroup) : Nat :=
  l.records.values.countP fun r => group.containsUser r.issue.userId

def keep (l : DismissalLedger) (p : DismissalRecord → Bool) : DismissalLedger :=
  ⟨l.records.filter fun _ r => p r, l.dirty || l.records.values.any fun r => !p r⟩

def track (now : Instant) (l : DismissalLedger) (issue : IssueKey) : DismissalLedger :=
  if l.records.contains issue.encode then l
  else ⟨l.records.insert issue.encode (.seen issue now), true⟩

/-- Forgets what a source no longer reports and tracks what it does, up to the first garbled id:
there the syncing fails. -/
def sync (l : DismissalLedger) (key : SourceKey) (issueIds : List Text) (now : Instant) :
    DismissalLedger :=
  let kept := l.keep fun r => !r.issue.source.same key || issueIds.contains r.issue.issueId
  ((Text.spelledPrefix issueIds).map key.issue).foldl (track now) kept

def clearForUser (l : DismissalLedger) (user : UserId) : DismissalLedger :=
  l.keep fun r => !r.issue.userId.equals user

def clear (l : DismissalLedger) : DismissalLedger := ⟨∅, l.dirty || !l.records.isEmpty⟩

def persisted (l : DismissalLedger) : List PersistedRecord :=
  l.records.entries.map fun e => e.2.persist e.1

def markSaved (l : DismissalLedger) : DismissalLedger := { l with dirty := false }

def loadFaults (records : List PersistedRecord) : List Text :=
  records.filterMap fun p =>
    match p.check with
    | .error fault => some (p.faultText fault)
    | .ok _ => none

def hasGarbled (records : List PersistedRecord) : Bool :=
  records.any fun p =>
    match p.check with
    | .ok none => true
    | .error _ | .ok (some _) => false

/-- The records that a list of valid records stands for: one per issue, where its key first occurs
and with what is said last. -/
def loadTable (records : List PersistedRecord) : Table String DismissalRecord :=
  Table.ofList (records.filterMap fun p =>
    match p.check with
    | .error _ | .ok none => none
    | .ok (some issue) => some (issue.encode, p.restore issue))

/-- Faults are collected, but the first valid record with a garbled key ends the loading at once. -/
def load (records : List PersistedRecord) : Except Fault DismissalLedger :=
  if hasGarbled records then .error .malformedUri
  else
    match loadFaults records with
    | [] => .ok ⟨loadTable records, false⟩
    | faults => .error (.hub (.invalidRecords faults))

def severityLines (p : PersistedRecord) : List LogLine :=
  if p.lacksSeverity then
    [.line .warn "IssueDismissalCache" "Dismissed issue has no recorded severity"
      (some [("issue", .string p.key)])]
  else []

def loadLines : List PersistedRecord → List LogLine
  | [] => []
  | p :: rest =>
    match p.check with
    | .error _ => loadLines rest
    | .ok none => severityLines p
    | .ok (some _) => severityLines p ++ loadLines rest

end DismissalLedger

end SafetyBoard
