/-!
Four severity scales: what sources report, what an issue, an entry and the whole view show.
`unknown` marks missing or failed data; it has no rank and its own merge rules.
-/

namespace SafetyBoard

inductive SourceSeverity where
  | unspecified
  | information
  | recommendation
  | criticalWarning
  deriving DecidableEq, Repr

inductive IssueSeverity where
  | ok
  | recommendation
  | criticalWarning
  deriving DecidableEq, Repr

inductive EntrySeverity where
  | unknown
  | unspecified
  | ok
  | recommendation
  | criticalWarning
  deriving DecidableEq, Repr

inductive OverallSeverity where
  | unknown
  | ok
  | recommendation
  | criticalWarning
  deriving DecidableEq, Repr

namespace SourceSeverity

def all : List SourceSeverity := [.unspecified, .information, .recommendation, .criticalWarning]

def name : SourceSeverity → String
  | .unspecified => "unspecified"
  | .information => "information"
  | .recommendation => "recommendation"
  | .criticalWarning => "critical_warning"

def rank : SourceSeverity → Nat
  | .unspecified => 0
  | .information => 1
  | .recommendation => 2
  | .criticalWarning => 3

def compare (a b : SourceSeverity) : Int := a.rank - b.rank

def max (a b : SourceSeverity) : SourceSeverity := if b.rank ≤ a.rank then a else b

def exceeds (a b : SourceSeverity) : Bool := b.rank < a.rank

def toIssue : SourceSeverity → IssueSeverity
  | .unspecified | .information => .ok
  | .recommendation => .recommendation
  | .criticalWarning => .criticalWarning

def toEntry : SourceSeverity → EntrySeverity
  | .unspecified => .unspecified
  | .information => .ok
  | .recommendation => .recommendation
  | .criticalWarning => .criticalWarning

end SourceSeverity

namespace IssueSeverity

def all : List IssueSeverity := [.ok, .recommendation, .criticalWarning]

def name : IssueSeverity → String
  | .ok => "ok"
  | .recommendation => "recommendation"
  | .criticalWarning => "critical_warning"

def rank : IssueSeverity → Nat
  | .ok => 1
  | .recommendation => 2
  | .criticalWarning => 3

def toOverall : IssueSeverity → OverallSeverity
  | .ok => .ok
  | .recommendation => .recommendation
  | .criticalWarning => .criticalWarning

end IssueSeverity

namespace EntrySeverity

def all : List EntrySeverity := [.unknown, .unspecified, .ok, .recommendation, .criticalWarning]

def name : EntrySeverity → String
  | .unknown => "unknown"
  | .unspecified => "unspecified"
  | .ok => "ok"
  | .recommendation => "recommendation"
  | .criticalWarning => "critical_warning"

def rank? : EntrySeverity → Option Nat
  | .unknown => none
  | .unspecified => some 0
  | .ok => some 1
  | .recommendation => some 2
  | .criticalWarning => some 3

def toOverall : EntrySeverity → OverallSeverity
  | .unknown => .unknown
  | .unspecified | .ok => .ok
  | .recommendation => .recommendation
  | .criticalWarning => .criticalWarning

/-- The higher of two known levels. Against `unknown` only a level above ok wins. -/
def merge (a b : EntrySeverity) : EntrySeverity :=
  match a.rank?, b.rank? with
  | some m, some n => if n ≤ m then a else b
  | some m, none => if 1 < m then a else .unknown
  | none, some n => if 1 < n then b else .unknown
  | none, none => .unknown

end EntrySeverity

namespace OverallSeverity

def all : List OverallSeverity := [.unknown, .ok, .recommendation, .criticalWarning]

def name : OverallSeverity → String
  | .unknown => "unknown"
  | .ok => "ok"
  | .recommendation => "recommendation"
  | .criticalWarning => "critical_warning"

def rank? : OverallSeverity → Option Nat
  | .unknown => none
  | .ok => some 1
  | .recommendation => some 2
  | .criticalWarning => some 3

/-- The higher of two known levels; `unknown` wins over every level. -/
def merge (a b : OverallSeverity) : OverallSeverity :=
  match a.rank?, b.rank? with
  | some m, some n => if n ≤ m then a else b
  | _, _ => .unknown

/-- Strictly above, among known levels only. -/
def exceeds (a b : OverallSeverity) : Bool :=
  match a.rank?, b.rank? with
  | some m, some n => n < m
  | _, _ => false

end OverallSeverity

end SafetyBoard
