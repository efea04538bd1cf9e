import SafetyBoard.Wire.Names

/-!
Configured sources as JSON. What is not configured has no member.
-/

namespace SafetyBoard

open Json (Decode asBool asList asString asText)

def Reporting.parts (r : Reporting) : List (Text × Option Json) :=
  [("packageName", some (.string r.packageName)),
    ("maxSeverity", some (.string r.maxSeverity.name)),
    ("loggingAllowed", some (.bool r.loggingAllowed)),
    ("refreshOnPageOpenAllowed", some (.bool r.refreshOnPageOpenAllowed))]

def Reporting.ofJson (j : Json) : Decode Reporting :=
  return ⟨← j.field asText "packageName", ← j.field SourceSeverity.ofJson "maxSeverity",
    ← j.field asBool "loggingAllowed", ← j.field asBool "refreshOnPageOpenAllowed"⟩

def DynamicEntry.ofJson (j : Json) : Decode DynamicEntry :=
  return ⟨← j.field? asText "title", ← j.field? asText "titleForWork",
    ← j.field? asText "summary", ← j.field? asText "intentAction",
    ← j.field InitialDisplay.ofJson "initialDisplayState"⟩

def FixedEntry.ofJson (j : Json) : Decode FixedEntry :=
  return ⟨← j.field asText "title", ← j.field? asText "titleForWork",
    ← j.field? asText "summary", ← j.field asText "intentAction"⟩

def SourceKind.parts : SourceKind → List (Text × Option Json)
  | .dynamic r e =>
    let entry : List (Text × Option Json) :=
      [("title", e.title.map .string), ("titleForWork", e.titleForWork.map .string),
        ("summary", e.summary.map .string), ("intentAction", e.intentAction.map .string),
        ("initialDisplayState", some (.string e.initialDisplay.name))]
    ("type", some (.string "dynamic")) :: (r.parts ++ entry)
  | .fixed e =>
    [("type", some (.string "static")), ("title", some (.string e.title)),
      ("titleForWork", e.titleForWork.map .string), ("summary", e.summary.map .string),
      ("intentAction", some (.string e.intentAction))]
  | .issueOnly r => ("type", some (.string "issue_only")) :: r.parts

def SourceKind.ofJson (j : Json) : Decode SourceKind := do
  match ← j.field asString "type" with
  | "dynamic" => return .dynamic (← Reporting.ofJson j) (← DynamicEntry.ofJson j)
  | "static" => return .fixed (← FixedEntry.ofJson j)
  | "issue_only" => return .issueOnly (← Reporting.ofJson j)
  | other => throw ("unknown source type " ++ other)

namespace SourceOf

variable {ι : Type}

def toJson (text : ι → Text) (s : SourceOf ι) : Json :=
  .ofParts (("id", some (.string (text s.id))) :: ("profile", some (.string s.profile.name)) ::
    ("supportsManagedProfiles", some (.bool s.supportsManaged)) :: s.kind.parts)

def ofJson (id : Json → Decode ι) (j : Json) : Decode (SourceOf ι) :=
  return ⟨← j.field id "id", ← j.field Profile.ofJson "profile",
    ← j.field asBool "supportsManagedProfiles", ← SourceKind.ofJson j⟩

end SourceOf

namespace SourceGroupOf

variable {ι : Type}

def toJson (text : ι → Text) (g : SourceGroupOf ι) : Json :=
  .ofParts [("id", some (.string (text g.id))), ("type", some (.string g.type.name)),
    ("title", g.title.map .string), ("summary", g.summary.map .string),
    ("statelessIconType", some (.string g.statelessIcon.name)),
    ("sources", some (.array (g.sources.map (·.toJson text))))]

def ofJson (id : Json → Decode ι) (j : Json) : Decode (SourceGroupOf ι) :=
  return ⟨← j.field id "id", ← j.field GroupType.ofJson "type",
    ← j.field? asText "title", ← j.field? asText "summary",
    ← j.fieldD StatelessIcon.ofJson "statelessIconType" .none,
    ← j.field (asList (SourceOf.ofJson id)) "sources"⟩

end SourceGroupOf

end SafetyBoard
