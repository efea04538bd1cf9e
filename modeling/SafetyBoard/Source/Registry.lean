import SafetyBoard.Error
import SafetyBoard.Source.Basic
import SafetyBoard.Table

/-!
Look-ups on configured groups. The index holds one source per id, at the place where the id first
occurs and with the source that occurs last.
-/

namespace SafetyBoard

structure RegistryOf (ι : Type) where
  groups : List (SourceGroupOf ι)
  deriving DecidableEq, Repr

abbrev Registry := RegistryOf String

namespace RegistryOf

variable {ι : Type}

def allSources (r : RegistryOf ι) : List (SourceOf ι) := r.groups.flatMap (·.sources)

def map {κ : Type} (f : ι → κ) (r : RegistryOf ι) : RegistryOf κ := ⟨r.groups.map (·.map f)⟩

/-- The registry with its ids spelled out, unless one is garbled. -/
def spelled? (r : RegistryOf Text) : Option Registry := RegistryOf.mk <$> r.groups.mapM (·.spelled?)

variable [DecidableEq ι]

def index (r : RegistryOf ι) : Table ι (SourceOf ι) :=
  Table.ofList (r.allSources.map fun s => (s.id, s))

def sources (r : RegistryOf ι) : List (SourceOf ι) := r.index.values

def source? (r : RegistryOf ι) (id : ι) : Option (SourceOf ι) := r.index.get? id

def externalSources (r : RegistryOf ι) : List (SourceOf ι) := r.sources.filter (·.isExternal)

def isLoggingAllowed (r : RegistryOf ι) (id : ι) : Bool :=
  match (r.source? id).bind (·.reporting?) with
  | some reporting => reporting.loggingAllowed
  | none => false

/-- The source of an id; an error names the id as a text. -/
def require (r : RegistryOf ι) (text : ι → Text) (id : ι) : Except HubError (SourceOf ι) :=
  match r.source? id with
  | none => .error (.unknownSource (text id))
  | some source => .ok source

end RegistryOf

end SafetyBoard
