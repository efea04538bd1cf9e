import SafetyBoard.Json.Basic
import SafetyBoard.Number.Reader

/-!
Values out of JSON whose form is agreed on. A failure only says what was missing: unlike the schema
reader, which lists all faults of foreign data, a decoder stops at the first one. A member that is
null counts as absent.
-/

namespace SafetyBoard.Json

abbrev Decode := Except String

def member (name : String) : Json → Decode Json
  | .object members =>
    match member? members name with
    | some value => pure value
    | none => throw ("no member " ++ name)
  | _ => throw ("no object with " ++ name)

def given? (name : String) : Json → Option Json
  | .object members => (member? members name).filter fun
    | .null => false
    | _ => true
  | _ => none

def asText : Json → Decode Text
  | .string t => pure t
  | _ => throw "no string"

def asString : Json → Decode String
  | .string (.plain s) => pure s
  | _ => throw "no string"

def asBool : Json → Decode Bool
  | .bool b => pure b
  | _ => throw "no boolean"

def asNumber : Json → Decode Number
  | .number n => pure n
  | .object [("$num", .string (.plain text))] => pure (Number.ofSetting text)
  | _ => throw "no number"

def asList {α : Type} (f : Json → Decode α) : Json → Decode (List α)
  | .array items => items.mapM f
  | _ => throw "no array"

def asMembers : Json → Decode (List (Text × Json))
  | .object members => pure members
  | _ => throw "no object"

def asName {α : Type} (all : List α) (name : α → String) (j : Json) : Decode α := do
  let s ← asString j
  match all.find? fun a => name a = s with
  | some a => pure a
  | none => throw ("unknown name " ++ s)

def field {α : Type} (f : Json → Decode α) (name : String) (j : Json) : Decode α := do
  f (← j.member name)

def field? {α : Type} (f : Json → Decode α) (name : String) (j : Json) : Decode (Option α) :=
  match j.given? name with
  | some value => some <$> f value
  | none => pure none

def fieldD {α : Type} (f : Json → Decode α) (name : String) (default : α) (j : Json) :
    Decode α := do
  return (← j.field? f name).getD default

end SafetyBoard.Json
