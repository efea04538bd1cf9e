import SafetyBoard.Keys
import SafetyBoard.Report.Basic
import SafetyBoard.Table

/-!
The latest report of each source and user, the sources in error, and the actions in flight, each
under the encoded form of its key. A source and user is never in error while it has a report, as
long as reports and errors are only written here.
-/

namespace SafetyBoard

structure StoredReport where
  key : SourceKey
  report : Report
  deriving DecidableEq, Repr

structure ReportStore where
  reports : Table String StoredReport
  errors : Table String SourceKey
  actionsInFlight : Table String ActionKey
  deriving DecidableEq, Repr

namespace ReportStore

def empty : ReportStore := ⟨∅, ∅, ∅⟩

instance : EmptyCollection ReportStore := ⟨empty⟩

def get? (s : ReportStore) (key : SourceKey) : Option Report :=
  (s.reports.get? key.encode).map (·.report)

def hasError (s : ReportStore) (key : SourceKey) : Bool := s.errors.contains key.encode

def isActionInFlight (s : ReportStore) (action : ActionKey) : Bool :=
  s.actionsInFlight.contains action.encode

def keys (s : ReportStore) : List SourceKey := s.reports.values.map (·.key)

/-- Replaces the report and clears the error; tells whether anything observable changed. -/
def set (s : ReportStore) (key : SourceKey) (report : Report) : Bool × ReportStore :=
  let changed := s.hasError key || s.get? key != some report
  (changed, { s with
    reports := s.reports.insert key.encode ⟨key, report⟩
    errors := s.errors.erase key.encode })

/-- Drops the report and marks the error; tells whether anything changed. -/
def markError (s : ReportStore) (key : SourceKey) : Bool × ReportStore :=
  let changed := s.reports.contains key.encode || !s.hasError key
  (changed, { s with
    reports := s.reports.erase key.encode
    errors := s.errors.insert key.encode key })

def markActionInFlight (s : ReportStore) (action : ActionKey) : ReportStore :=
  { s with actionsInFlight := s.actionsInFlight.insert action.encode action }

/-- Forgets the actions of a source and user; tells whether there were any. -/
def clearActionsInFlight (s : ReportStore) (key : SourceKey) : Bool × ReportStore :=
  let belongs (action : ActionKey) : Bool := action.issue.source.same key
  (s.actionsInFlight.values.any belongs,
    { s with actionsInFlight := s.actionsInFlight.filter fun _ action => !belongs action })

/-- Forgets all about a source and user; tells whether there was a report or an error. -/
def clear (s : ReportStore) (key : SourceKey) : Bool × ReportStore :=
  let changed := s.reports.contains key.encode || s.hasError key
  (changed, { (s.clearActionsInFlight key).2 with
    reports := s.reports.erase key.encode
    errors := s.errors.erase key.encode })

def clearForUser (s : ReportStore) (user : UserId) : ReportStore where
  reports := s.reports.filter fun _ stored => !stored.key.userId.equals user
  errors := s.errors.filter fun _ key => !key.userId.equals user
  actionsInFlight := s.actionsInFlight.filter fun _ action => !action.issue.userId.equals user

end ReportStore

end SafetyBoard
