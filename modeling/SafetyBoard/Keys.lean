import SafetyBoard.Users
import SafetyBoard.Number.Reader

/-!
Keys of sources, issues and actions, and their encoded forms. Every part that a source chooses is
percent-encoded, so the separators `/`, `@`, `#` and `:` stand where the encoder put them.
-/

namespace SafetyBoard

structure SourceKey where
  sourceId : String
  userId : UserId
  deriving DecidableEq, Repr

structure IssueKey where
  sourceId : String
  issueId : String
  userId : UserId
  deriving DecidableEq, Repr

structure ActionKey where
  issue : IssueKey
  actionId : String
  deriving DecidableEq, Repr

def SourceKey.same (k l : SourceKey) : Bool := k.sourceId = l.sourceId && k.userId.equals l.userId

def SourceKey.issue (k : SourceKey) (issueId : String) : IssueKey := ⟨k.sourceId, issueId, k.userId⟩

def IssueKey.source (k : IssueKey) : SourceKey := ⟨k.sourceId, k.userId⟩

def encodePart (s : String) : String := String.ofList (Text.Percent.encode s.toList)

def SourceKey.encode (k : SourceKey) : String := encodePart k.sourceId ++ "@" ++ k.userId.text

def IssueKey.encode (k : IssueKey) : String :=
  encodePart k.sourceId ++ "/" ++ encodePart k.issueId ++ "@" ++ k.userId.text

def ActionKey.encode (k : ActionKey) : String := k.issue.encode ++ "#" ++ encodePart k.actionId

def encodeGroupId (id : String) : String := "group:" ++ encodePart id

def splitLast? (c : Char) (cs : List Char) : Option (List Char × List Char) :=
  let behind := (cs.reverse.takeWhile (· ≠ c)).reverse
  match cs.reverse.dropWhile (· ≠ c) with
  | [] => none
  | _ :: front => some (front.reverse, behind)

def splitFirst? (c : Char) (cs : List Char) : Option (List Char × List Char) :=
  match cs.dropWhile (· ≠ c) with
  | [] => none
  | _ :: rest => some (cs.takeWhile (· ≠ c), rest)

/-- Reads an encoded issue key: the user behind the last `@`, the source before the first `/`, the
issue in between. The user must be written in digits. -/
def IssueKey.decode? (text : String) : Option IssueKey := do
  let (front, user) ← splitLast? '@' text.toList
  let (source, issue) ← splitFirst? '/' front
  let userId ← Number.ofDigits? user
  let sourceId ← Text.Percent.decode source
  let issueId ← Text.Percent.decode issue
  pure ⟨String.ofList sourceId, String.ofList issueId, userId⟩

end SafetyBoard
