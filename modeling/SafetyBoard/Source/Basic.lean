import SafetyBoard.Severity
import SafetyBoard.Text.Basic

/-!
Configured sources. A dynamic source reports a status and issues, and until it does its entry shows
what is configured; a static source only ever shows that; an issue-only source reports issues and
has no entry. Sources stand in groups, which say how their entries are shown.
A configuration may hold any texts; a hub runs on one whose ids are spelled out.
-/

namespace SafetyBoard

inductive Profile where
  | none
  | primary
  | all
  deriving DecidableEq, Repr

inductive InitialDisplay where
  | enabled
  | disabled
  | hidden
  deriving DecidableEq, Repr

inductive GroupType where
  | collapsible
  | rigid
  | hidden
  deriving DecidableEq, Repr

inductive StatelessIcon where
  | none
  | privacy
  deriving DecidableEq, Repr

def Profile.every : List Profile := [.none, .primary, .all]

def Profile.name : Profile → String
  | .none => "none"
  | .primary => "primary"
  | .all => "all"

def InitialDisplay.all : List InitialDisplay := [.enabled, .disabled, .hidden]

def InitialDisplay.name : InitialDisplay → String
  | .enabled => "enabled"
  | .disabled => "disabled"
  | .hidden => "hidden"

def GroupType.all : List GroupType := [.collapsible, .rigid, .hidden]

def GroupType.name : GroupType → String
  | .collapsible => "collapsible"
  | .rigid => "rigid"
  | .hidden => "hidden"

def StatelessIcon.all : List StatelessIcon := [.none, .privacy]

def StatelessIcon.name : StatelessIcon → String
  | .none => "none"
  | .privacy => "privacy"

structure Reporting where
  packageName : Text
  maxSeverity : SourceSeverity
  loggingAllowed : Bool
  refreshOnPageOpenAllowed : Bool
  deriving DecidableEq, Repr

structure DynamicEntry where
  title : Option Text
  titleForWork : Option Text
  summary : Option Text
  intentAction : Option Text
  initialDisplay : InitialDisplay
  deriving DecidableEq, Repr

structure FixedEntry where
  title : Text
  titleForWork : Option Text
  summary : Option Text
  intentAction : Text
  deriving DecidableEq, Repr

inductive SourceKind where
  | dynamic (reporting : Reporting) (entry : DynamicEntry)
  | fixed (entry : FixedEntry)
  | issueOnly (reporting : Reporting)
  deriving DecidableEq, Repr

structure SourceOf (ι : Type) where
  id : ι
  profile : Profile
  supportsManaged : Bool
  kind : SourceKind
  deriving DecidableEq, Repr

abbrev Source := SourceOf String

structure SourceGroupOf (ι : Type) where
  id : ι
  type : GroupType
  title : Option Text
  summary : Option Text
  statelessIcon : StatelessIcon
  sources : List (SourceOf ι)
  deriving DecidableEq, Repr

abbrev SourceGroup := SourceGroupOf String

namespace SourceOf

variable {ι : Type}

def reporting? (s : SourceOf ι) : Option Reporting :=
  match s.kind with
  | .dynamic reporting _ | .issueOnly reporting => some reporting
  | .fixed _ => none

def isExternal (s : SourceOf ι) : Bool := s.reporting?.isSome

def hasDisplay (s : SourceOf ι) (display : InitialDisplay) : Bool :=
  match s.kind with
  | .dynamic _ entry => entry.initialDisplay = display
  | .fixed _ | .issueOnly _ => false

/-- No entry is shown until the source reports. -/
def isInitiallyHidden (s : SourceOf ι) : Bool := s.hasDisplay .hidden

def isInitiallyDisabled (s : SourceOf ι) : Bool := s.hasDisplay .disabled

def configuredAction (s : SourceOf ι) : Option Text :=
  match s.kind with
  | .dynamic _ entry => entry.intentAction
  | .fixed entry => some entry.intentAction
  | .issueOnly _ => none

def configuredSummary (s : SourceOf ι) : Option Text :=
  match s.kind with
  | .dynamic _ entry => entry.summary
  | .fixed entry => entry.summary
  | .issueOnly _ => none

/-- The configured title; managed profiles have their own if there is one. -/
def configuredTitle? (s : SourceOf ι) (isManaged : Bool) : Option Text :=
  match s.kind with
  | .dynamic _ entry => if isManaged then entry.titleForWork <|> entry.title else entry.title
  | .fixed entry => if isManaged then entry.titleForWork <|> some entry.title else some entry.title
  | .issueOnly _ => none

def map {κ : Type} (f : ι → κ) (s : SourceOf ι) : SourceOf κ := { s with id := f s.id }

/-- The source under its id spelled out, unless the id is garbled. -/
def spelled? (s : SourceOf Text) : Option Source := s.id.spelled?.map fun id => { s with id }

end SourceOf

def SourceGroupOf.map {ι κ : Type} (f : ι → κ) (g : SourceGroupOf ι) : SourceGroupOf κ :=
  { g with id := f g.id, sources := g.sources.map (·.map f) }

def SourceGroupOf.spelled? (g : SourceGroupOf Text) : Option SourceGroup := do
  let id ← g.id.spelled?
  let sources ← g.sources.mapM (·.spelled?)
  pure { g with id, sources }

end SafetyBoard
