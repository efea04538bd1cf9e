import SafetyBoard.Json.Basic

/-!
Reading typed values out of JSON. A reader either gives a value or lists every complaint, each with
the path to the place it is about; readers of several members run all of them, in the order in which
they are combined, and put their complaints one after the other.
-/

namespace SafetyBoard

structure Finding where
  path : List String
  message : Text
  deriving DecidableEq, Repr

def Finding.text (f : Finding) : Text := ".".intercalate f.path ++ ": " ++ f.message

inductive Checked (α : Type) where
  | good (value : α)
  | bad (first : Finding) (more : List Finding)
  deriving Repr

namespace Checked

variable {α β : Type}

def findings : Checked α → List Finding
  | .good _ => []
  | .bad first more => first :: more

def value? : Checked α → Option α
  | .good value => some value
  | .bad _ _ => none

def fail (message : Text) : Checked α := .bad ⟨[], message⟩ []

def map (f : α → β) : Checked α → Checked β
  | .good value => .good (f value)
  | .bad first more => .bad first more

/-- Both are read; with a complaint on either side the complaints of both remain. -/
def apply (f : Checked (α → β)) (x : Checked α) : Checked β :=
  match f, x with
  | .good g, .good value => .good (g value)
  | .good _, .bad first more => .bad first more
  | .bad first more, x => .bad first (more ++ x.findings)

instance : Applicative Checked where
  pure := .good
  map := map
  seq f x := apply f (x ())

def inside (step : String) : Checked α → Checked α
  | .good value => .good value
  | .bad first more =>
    let under (f : Finding) : Finding := { f with path := step :: f.path }
    .bad (under first) (more.map under)

end Checked

abbrev Reader (α : Type) := Json → Checked α

namespace Reader

variable {α : Type}

def wrongKind (expected : Text) (j : Json) : Checked α :=
  .fail ("Expected " ++ expected ++ ", received " ++ j.kind)

def text : Reader Text
  | .string s => if s = "" then .fail "String must contain at least 1 character(s)" else .good s
  | j => wrongKind "string" j

def flag : Reader Bool
  | .bool b => .good b
  | j => wrongKind "boolean" j

def quoted (names : List Text) (separator : Text) : Text :=
  .join separator (names.map fun n => "'" ++ n ++ "'")

def anyOf (options : List α) (name : α → String) : Text :=
  quoted (options.map fun o => (name o : Text)) " | "

def choice (options : List α) (name : α → String) : Reader α
  | .string s =>
    match options.find? (fun o => name o = s) with
    | some o => .good o
    | none => .fail ("Invalid enum value. Expected " ++ anyOf options name ++
        ", received '" ++ s ++ "'")
  | j => wrongKind (anyOf options name) j

def elements (read : Reader α) : Nat → List Json → Checked (List α)
  | _, [] => .good []
  | i, j :: rest =>
    (List.cons <$> (read j).inside (toString i)) <*> elements read (i + 1) rest

def list (read : Reader α) : Reader (List α)
  | .array items => elements read 0 items
  | j => wrongKind "array" j

def nonemptyList (read : Reader α) : Reader (List α)
  | .array [] => .fail "Array must contain at least 1 element(s)"
  | j => list read j

abbrev Members := List (Text × Json)

def object (read : Members → Checked α) : Reader α
  | .object members => read members
  | j => wrongKind "object" j

def required (name : String) (read : Reader α) (members : Members) : Checked α :=
  (match Json.member? members name with
    | some j => read j
    | none => .fail "Required").inside name

/-- Absence is no value; any value that is present has to be readable. -/
def optional (name : String) (read : Reader α) (members : Members) : Checked (Option α) :=
  match Json.member? members name with
  | some j => ((read j).map some).inside name
  | none => .good none

def defaulted (name : String) (fallback : α) (read : Reader α) (members : Members) : Checked α :=
  match Json.member? members name with
  | some j => (read j).inside name
  | none => .good fallback

/-- Complains about members that are not known, after all complaints about the known ones. -/
def onlyMembers (known : List Text) (members : Members) : Checked Unit :=
  match (members.map Prod.fst).filter (fun n => !known.contains n) with
  | [] => .good ()
  | unknown => .fail ("Unrecognized key(s) in object: " ++ quoted unknown ", ")

end Reader

end SafetyBoard
