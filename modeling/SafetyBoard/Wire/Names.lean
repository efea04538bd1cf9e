import SafetyBoard.Error
import SafetyBoard.Json.Decode
import SafetyBoard.Log
import SafetyBoard.Refresh.Reason
import SafetyBoard.Source.Basic
import SafetyBoard.Report.Basic

/-!
Values that are given by their names.
-/

namespace SafetyBoard

open Json (Decode asName)

def SourceSeverity.ofJson : Json → Decode SourceSeverity := asName all name
def IssueSeverity.ofJson : Json → Decode IssueSeverity := asName all name
def EntrySeverity.ofJson : Json → Decode EntrySeverity := asName all name
def OverallSeverity.ofJson : Json → Decode OverallSeverity := asName all name
def IssueCategory.ofJson : Json → Decode IssueCategory := asName all name
def IconType.ofJson : Json → Decode IconType := asName all name
def Profile.ofJson : Json → Decode Profile := asName every name
def InitialDisplay.ofJson : Json → Decode InitialDisplay := asName all name
def GroupType.ofJson : Json → Decode GroupType := asName all name
def StatelessIcon.ofJson : Json → Decode StatelessIcon := asName all name
def RefreshReason.ofJson : Json → Decode RefreshReason := asName all name
def RefreshResult.ofJson : Json → Decode RefreshResult := asName all name
def RefreshStatus.ofJson : Json → Decode RefreshStatus := asName all name
def ErrorCategory.ofJson : Json → Decode ErrorCategory := asName all name
def LogLevel.ofJson : Json → Decode LogLevel := asName all name

end SafetyBoard
