import SafetyBoard.Keys
import SafetyBoard.Severity
import SafetyBoard.Text.Basic

/-!
What is remembered about an issue. A record exists from the first time an issue is seen; once it was
dismissed it hides the issue up to the recorded severity.
-/

namespace SafetyBoard

structure DismissalRecord where
  issue : IssueKey
  firstSeenAt : Instant
  dismissedSeverity : Option SourceSeverity
  dismissedAt : Option Instant
  dismissCount : Number
  deriving DecidableEq, Repr

/-- A record as it is handed out for keeping, under its encoded key. One that is handed in may have
any text for a key. -/
structure PersistedRecord where
  key : Text
  firstSeenAt : Instant
  dismissedAt : Option Instant
  dismissCount : Number
  dismissedSeverity : Option SourceSeverity
  deriving DecidableEq, Repr

namespace DismissalRecord

def seen (issue : IssueKey) (now : Instant) : DismissalRecord := ⟨issue, now, none, none, 0⟩

def hides (r : DismissalRecord) (severity : SourceSeverity) : Bool :=
  r.dismissCount ≠ 0 &&
    match r.dismissedSeverity with
    | some dismissed => severity.rank ≤ dismissed.rank
    | none => false

/-- One more dismissal. While the issue is hidden the recorded severity stays. -/
def dismiss (r : DismissalRecord) (severity : SourceSeverity) (now : Instant) : DismissalRecord :=
  { r with
    dismissedSeverity := if r.hides severity then r.dismissedSeverity else some severity
    dismissedAt := some now
    dismissCount := r.dismissCount + 1 }

def persist (r : DismissalRecord) (key : String) : PersistedRecord :=
  ⟨key, r.firstSeenAt, r.dismissedAt, r.dismissCount, r.dismissedSeverity⟩

end DismissalRecord

inductive RecordFault where
  | key
  | count
  | date
  deriving DecidableEq, Repr

namespace PersistedRecord

def isDismissed (p : PersistedRecord) : Bool := Number.less 0 p.dismissCount

/-- The issue of a valid record; a garbled key names one that has no encoding. Reading passes an
unpaired surrogate on like any other character, so the repaired key is as well-formed as the key. -/
def check (p : PersistedRecord) : Except RecordFault (Option IssueKey) :=
  match IssueKey.decode? p.key.repaired with
  | none => .error .key
  | some issue =>
    if !p.dismissCount.isWhole || Number.less p.dismissCount 0 then .error .count
    else if p.isDismissed != p.dismissedAt.isSome then .error .date
    else .ok (if p.key.isSpelled then some issue else none)

def faultText (p : PersistedRecord) : RecordFault → Text
  | .key => p.key ++ ": malformed issue key"
  | .count => p.key ++ ": dismissCount must be a non-negative integer"
  | .date => p.key ++ ": dismissedAt must be set exactly when dismissCount is positive"

def lacksSeverity (p : PersistedRecord) : Bool := p.isDismissed && p.dismissedSeverity.isNone

def restore (p : PersistedRecord) (issue : IssueKey) : DismissalRecord where
  issue
  firstSeenAt := p.firstSeenAt
  dismissedSeverity := if p.lacksSeverity then some .criticalWarning else p.dismissedSeverity
  dismissedAt := p.dismissedAt
  dismissCount := p.dismissCount

end PersistedRecord

end SafetyBoard
