import SafetyBoard.Number.Decimal
import SafetyBoard.Report.Basic

/-!
The texts of the view. A counted text takes its singular form for a count that is one or minus one
when its text is rounded to three places; among whole counts those are one and minus one only.
-/

namespace SafetyBoard.Strings

def scanningTitle := "Scanning"
def loadingSummary := "Checking your settings"
def okTitle := "Looks good"
def okReviewTitle := "Review your settings"
def okSummary := "No problems found"
def okReviewSummary := "Some settings need your attention"
def deviceRecommendationTitle := "Your device may be at risk"
def accountRecommendationTitle := "Your account may be at risk"
def generalRecommendationTitle := "Safety recommendation"
def deviceCriticalTitle := "Your device is at risk"
def accountCriticalTitle := "Your account is at risk"
def generalCriticalTitle := "Safety warning"
def workProfilePaused := "Work profile is paused"
def groupUnknownSummary := "Status unavailable"

/-- Least size that is one when it is rounded to three places; a half counts up. -/
def leastSingular : Number := Decimal.toNumber false ⟨9995, -4⟩

def singularBound : Number := Decimal.toNumber false ⟨10005, -4⟩

/-- Whether the size of a count is one when it is rounded to three places. As neighbouring numbers
have texts in the same order, it is enough to compare with the two ends. -/
def isSingular (count : Number) : Bool :=
  !count.abs.less leastSingular && count.abs.less singularBound

def alertsSummary (count : Number) : String :=
  count.text ++ if isSingular count then " alert" else " alerts"

def refreshErrorSummary (count : Number) : String :=
  if isSingular count then "Couldn't check setting"
  else "Couldn't check " ++ count.text ++ " settings"

def recommendationTitle : IssueCategory → String
  | .device => deviceRecommendationTitle
  | .account => accountRecommendationTitle
  | .general => generalRecommendationTitle

def criticalTitle : IssueCategory → String
  | .device => deviceCriticalTitle
  | .account => accountCriticalTitle
  | .general => generalCriticalTitle

end SafetyBoard.Strings
