import SafetyBoard.Number.Decimal
import SafetyBoard.Text.Basic

/-!
JSON values. An object keeps its members in the order in which they are listed to a reader: members
whose names are array indexes come first, by index, and the others follow in order of appearance. A
name occurs once, with the value that was written last.
-/

namespace SafetyBoard

inductive Json where
  | null
  | bool (value : Bool)
  | number (value : Number)
  | string (value : Text)
  | array (items : List Json)
  | object (members : List (Text × Json))
  deriving Repr

namespace Json

def memberIndex? (name : Text) : Option Nat := do
  let cs := (← name.spelled?).toList
  let n := cs.foldl (fun n c => n * 10 + (c.toNat - 48)) 0
  if cs ≠ [] ∧ cs.all (fun c => '0' ≤ c && c ≤ '9') ∧ (cs.head? ≠ some '0' ∨ cs = ['0']) ∧
      n < 4294967295 then some n else none

def setMember (name : Text) (value : Json) : List (Text × Json) → List (Text × Json)
  | [] => [(name, value)]
  | m :: rest => if m.1 = name then (name, value) :: rest else m :: setMember name value rest

def ofMembers (written : List (Text × Json)) : Json :=
  let members := written.foldl (fun ms m => setMember m.1 m.2 ms) []
  let indexed := members.filter fun m => (memberIndex? m.1).isSome
  let named := members.filter fun m => (memberIndex? m.1).isNone
  let place (m : Text × Json) : Nat := (memberIndex? m.1).getD 0
  .object (indexed.mergeSort (fun a b => place a ≤ place b) ++ named)

def member? (members : List (Text × Json)) (name : Text) : Option Json := members.lookup name

def ofParts (parts : List (Text × Option Json)) : Json :=
  .object (parts.filterMap fun p => p.2.map fun v => (p.1, v))

def ofTexts (ts : List Text) : Json := .array (ts.map .string)

def ofStrings (ss : List String) : Json := .array (ss.map fun (s : String) => .string s)

def ofOption (value : Option Json) : Json := value.getD .null

def kind : Json → String
  | .null => "null"
  | .bool _ => "boolean"
  | .number _ => "number"
  | .string _ => "string"
  | .array _ => "array"
  | .object _ => "object"

/-- The text of a bare value: an array is its elements' texts with commas, a null in it is empty. -/
def plainText : Json → Text
  | .null => "null"
  | .bool b => if b then "true" else "false"
  | .number n => n.text
  | .string s => s
  | .array items => Text.join "," (elementTexts items)
  | .object _ => "[object Object]"
where
  elementTexts : List Json → List Text
    | [] => []
    | .null :: rest => "" :: elementTexts rest
    | item :: rest => plainText item :: elementTexts rest

end Json

end SafetyBoard
