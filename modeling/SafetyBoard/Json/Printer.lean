import SafetyBoard.Json.Basic
import SafetyBoard.Text.Percent

/-!
JSON texts of values, without blanks. Control characters are escaped, and so are the line ends that
lie outside ASCII, so that a text is one line for every reader; a garbled text is written in escapes
only. A number that is not finite has
no numeral and is written by its name, in an object of its own.
-/

namespace SafetyBoard.Json

def isLineEnd (c : Char) : Bool := c = '\u0085' || c = '\u2028' || c = '\u2029'

def escapeUnit (n : Nat) : List Char :=
  '\\' :: 'u' :: [n / 4096, n / 256 % 16, n / 16 % 16, n % 16].map Text.Percent.hexDigit

def escape (c : Char) : List Char :=
  if c = '"' || c = '\\' then ['\\', c]
  else if c.toNat < 32 || isLineEnd c then escapeUnit c.toNat
  else [c]

def quote (t : Text) : String :=
  let inside := match t with
    | .plain s => s.toList.flatMap escape
    | .garbled units _ => units.flatMap fun u => escapeUnit u.toNat
  "\"" ++ String.ofList inside ++ "\""

def numberText (n : Number) : String :=
  match n with
  | .finite _ _ => n.text
  | .infinite _ | .undefined => "\x7b\"$num\":" ++ quote n.text ++ "\x7d"

def print : Json → String
  | .null => "null"
  | .bool b => if b then "true" else "false"
  | .number n => numberText n
  | .string s => quote s
  | .array items => "[" ++ ",".intercalate (printItems items) ++ "]"
  | .object members => "\x7b" ++ ",".intercalate (printMembers members) ++ "\x7d"
where
  printItems : List Json → List String
    | [] => []
    | item :: rest => print item :: printItems rest
  printMembers : List (Text × Json) → List String
    | [] => []
    | (name, value) :: rest => (quote name ++ ":" ++ print value) :: printMembers rest

end SafetyBoard.Json
