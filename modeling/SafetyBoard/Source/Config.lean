import SafetyBoard.Source.Basic
import SafetyBoard.Json.Schema

/-!
The configuration of sources, read from JSON. Shape is checked first; the rules that join several
members, or several sources, are only checked on a configuration of the right shape.
-/

namespace SafetyBoard.Config

open Reader

abbrev RawSource := SourceOf Text

abbrev RawGroup := SourceGroupOf Text

def supportsManaged (profile : Profile) : Bool := profile = .all

def profileMember (members : Members) : Checked Profile :=
  defaulted "profile" .primary (choice Profile.every Profile.name) members

def maxSeverityMember (members : Members) : Checked SourceSeverity :=
  defaulted "maxSeverity" .criticalWarning (choice SourceSeverity.all SourceSeverity.name) members

def dynamicMembers : List Text :=
  ["type", "id", "packageName", "title", "titleForWork", "summary", "intentAction", "profile",
    "initialDisplayState", "maxSeverity", "loggingAllowed", "refreshOnPageOpenAllowed"]

def readDynamic (members : Members) : Checked RawSource :=
  (fun id packageName title titleForWork summary intentAction profile display maxSeverity logging
      onPageOpen _ =>
    { id, profile, supportsManaged := supportsManaged profile
      kind := .dynamic ⟨packageName, maxSeverity, logging, onPageOpen⟩
        ⟨title, titleForWork, summary, intentAction, display⟩ : RawSource }) <$>
    required "id" text members <*>
    required "packageName" text members <*>
    optional "title" text members <*>
    optional "titleForWork" text members <*>
    optional "summary" text members <*>
    optional "intentAction" text members <*>
    profileMember members <*>
    defaulted "initialDisplayState" .enabled (choice InitialDisplay.all InitialDisplay.name)
      members <*>
    maxSeverityMember members <*>
    defaulted "loggingAllowed" true flag members <*>
    defaulted "refreshOnPageOpenAllowed" false flag members <*>
    onlyMembers dynamicMembers members

def fixedMembers : List Text :=
  ["type", "id", "title", "titleForWork", "summary", "intentAction", "profile"]

def readFixed (members : Members) : Checked RawSource :=
  (fun id title titleForWork summary intentAction profile _ =>
    { id, profile, supportsManaged := supportsManaged profile
      kind := .fixed ⟨title, titleForWork, summary, intentAction⟩ : RawSource }) <$>
    required "id" text members <*>
    required "title" text members <*>
    optional "titleForWork" text members <*>
    optional "summary" text members <*>
    required "intentAction" text members <*>
    profileMember members <*>
    onlyMembers fixedMembers members

def issueOnlyMembers : List Text :=
  ["type", "id", "packageName", "profile", "maxSeverity", "loggingAllowed",
    "refreshOnPageOpenAllowed"]

def readIssueOnly (members : Members) : Checked RawSource :=
  (fun id packageName profile maxSeverity logging onPageOpen _ =>
    { id, profile, supportsManaged := supportsManaged profile
      kind := .issueOnly ⟨packageName, maxSeverity, logging, onPageOpen⟩ : RawSource }) <$>
    required "id" text members <*>
    required "packageName" text members <*>
    profileMember members <*>
    maxSeverityMember members <*>
    defaulted "loggingAllowed" true flag members <*>
    defaulted "refreshOnPageOpenAllowed" false flag members <*>
    onlyMembers issueOnlyMembers members

def readSource : Reader RawSource := object fun members =>
  match Json.member? members "type" with
  | some (.string "dynamic") => readDynamic members
  | some (.string "static") => readFixed members
  | some (.string "issue_only") => readIssueOnly members
  | _ => (Checked.fail ("Invalid discriminator value. Expected " ++
      quoted ["dynamic", "static", "issue_only"] " | ")).inside "type"

def groupMembers : List Text := ["id", "type", "title", "summary", "statelessIconType", "sources"]

def readGroup : Reader RawGroup := object fun members =>
  (fun id type title summary statelessIcon sources _ =>
    { id, type, title, summary, statelessIcon, sources : RawGroup }) <$>
    required "id" text members <*>
    required "type" (choice GroupType.all GroupType.name) members <*>
    optional "title" text members <*>
    optional "summary" text members <*>
    defaulted "statelessIconType" .none (choice StatelessIcon.all StatelessIcon.name) members <*>
    required "sources" (nonemptyList readSource) members <*>
    onlyMembers groupMembers members

def readGroups : Reader (List RawGroup) :=
  object fun members => required "groups" (nonemptyList readGroup) members

inductive Breach where
  | duplicateGroup (group : Text)
  | untitledGroup (group : Text) (type : GroupType)
  | duplicateSource (group source : Text)
  | untitledSource (group source : Text)
  | noAction (group source : Text)
  | noTitleForWork (group source : Text)
  deriving DecidableEq, Repr

def Breach.text : Breach → Text
  | .duplicateGroup g => "groups." ++ g ++ ": duplicate group id"
  | .untitledGroup g type => "groups." ++ g ++ ": " ++ type.name ++ " group requires a title"
  | .duplicateSource g s => place g s ++ ": duplicate source id"
  | .untitledSource g s =>
    place g s ++ ": visible dynamic source requires a title and a summary"
  | .noAction g s => place g s ++ ": enabled dynamic source requires an intentAction"
  | .noTitleForWork g s => place g s ++ ": source for all profiles requires a titleForWork"
where
  place (g s : Text) : Text := "groups." ++ g ++ ".sources." ++ s

def entryBreaches (group : Text) (s : RawSource) : List Breach :=
  match s.kind with
  | .dynamic _ entry =>
    let shown := entry.initialDisplay ≠ .hidden
    (if shown ∧ (entry.title.isNone ∨ entry.summary.isNone) then [.untitledSource group s.id]
      else []) ++
    (if entry.initialDisplay = .enabled ∧ entry.intentAction.isNone then [.noAction group s.id]
      else []) ++
    (if shown ∧ s.profile = .all ∧ entry.titleForWork.isNone then [.noTitleForWork group s.id]
      else [])
  | .fixed entry =>
    if s.profile = .all ∧ entry.titleForWork.isNone then [.noTitleForWork group s.id] else []
  | .issueOnly _ => []

def sourceBreaches (group : Text) : List Text → List RawSource → List Breach
  | _, [] => []
  | seen, s :: rest =>
    (if seen.contains s.id then [.duplicateSource group s.id] else []) ++
      entryBreaches group s ++ sourceBreaches group (s.id :: seen) rest

def groupBreaches : List Text → List Text → List RawGroup → List Breach
  | _, _, [] => []
  | seenGroups, seenSources, g :: rest =>
    (if seenGroups.contains g.id then [.duplicateGroup g.id] else []) ++
      (if g.type ≠ .hidden ∧ g.title.isNone then [.untitledGroup g.id g.type] else []) ++
      sourceBreaches g.id seenSources g.sources ++
      groupBreaches (g.id :: seenGroups) ((g.sources.map (·.id)).reverse ++ seenSources) rest

def breaches (groups : List RawGroup) : List Breach := groupBreaches [] [] groups

def parse (raw : Json) : Except (List Text) (List RawGroup) :=
  match readGroups raw with
  | .bad first more => .error ((first :: more).map Finding.text)
  | .good groups =>
    match breaches groups with
    | [] => .ok groups
    | first :: more => .error ((first :: more).map Breach.text)

end SafetyBoard.Config
