import SafetyBoard.Json.Decode
import SafetyBoard.Keys

/-!
Keys and user groups as JSON.
-/

namespace SafetyBoard

open Json (Decode asBool asList asNumber asString)

def SourceKey.toJson (k : SourceKey) : Json :=
  .object [("sourceId", .string k.sourceId), ("userId", .number k.userId)]

def SourceKey.ofJson (j : Json) : Decode SourceKey :=
  return ⟨← j.field asString "sourceId", ← j.field asNumber "userId"⟩

def IssueKey.toJson (k : IssueKey) : Json :=
  .object [("sourceId", .string k.sourceId), ("issueId", .string k.issueId),
    ("userId", .number k.userId)]

def IssueKey.ofJson (j : Json) : Decode IssueKey :=
  return ⟨← j.field asString "sourceId", ← j.field asString "issueId",
    ← j.field asNumber "userId"⟩

def ActionKey.ofJson (j : Json) : Decode ActionKey :=
  return ⟨← j.field IssueKey.ofJson "issueKey", ← j.field asString "actionId"⟩

def ManagedProfile.toJson (p : ManagedProfile) : Json :=
  .object [("userId", .number p.userId), ("running", .bool p.running)]

def ManagedProfile.ofJson (j : Json) : Decode ManagedProfile :=
  return ⟨← j.field asNumber "userId", ← j.field asBool "running"⟩

def UserGroup.toJson (g : UserGroup) : Json :=
  .object [("profileParentUserId", .number g.parent),
    ("managedProfiles", .array (g.managed.map (·.toJson)))]

def UserGroup.ofJson (j : Json) : Decode UserGroup :=
  return ⟨← j.field asNumber "profileParentUserId",
    ← j.field (asList ManagedProfile.ofJson) "managedProfiles"⟩

end SafetyBoard
