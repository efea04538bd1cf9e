import SafetyBoard.Json.Basic
import SafetyBoard.Number.Reader

/-!
Strict reading of JSON text: the four blanks of the format and no others, no leading zeros, no
trailing commas, no raw control characters in strings. A string is read unit by unit, so escapes may
spell a garbled text.
-/

namespace SafetyBoard.Json

def skipBlanks (cs : List Char) : List Char :=
  cs.dropWhile fun c => c == ' ' || c == '\t' || c == '\n' || c == '\r'

def hex4? (a b c d : Char) : Option Nat := do
  let a ← Text.Percent.hexValue? a
  let b ← Text.Percent.hexValue? b
  let c ← Text.Percent.hexValue? c
  let d ← Text.Percent.hexValue? d
  pure (((a * 16 + b) * 16 + c) * 16 + d)

def simpleEscape? : Char → Option Char
  | '"' => some '"'
  | '\\' => some '\\'
  | '/' => some '/'
  | 'b' => some '\x08'
  | 'f' => some '\x0c'
  | 'n' => some '\n'
  | 'r' => some '\r'
  | 't' => some '\t'
  | _ => none

/-- The units up to the closing quote, and what follows it. -/
def stringUnits : List Char → Option (List UInt16 × List Char)
  | [] => none
  | '"' :: rest => some ([], rest)
  | '\\' :: 'u' :: a :: b :: c :: d :: rest => do
    let unit ← hex4? a b c d
    let (units, tail) ← stringUnits rest
    pure (.ofNat unit :: units, tail)
  | '\\' :: e :: rest => do
    let c ← simpleEscape? e
    let (units, tail) ← stringUnits rest
    pure (Text.Utf16.charUnits c ++ units, tail)
  | c :: rest =>
    if c.toNat < 0x20 ∨ c = '\\' then none
    else do
      let (units, tail) ← stringUnits rest
      pure (Text.Utf16.charUnits c ++ units, tail)

def string? (cs : List Char) : Option (Text × List Char) :=
  (stringUnits cs).map fun (units, tail) => (.ofUnits units, tail)

def digits? (cs : List Char) : Option (List Char × List Char) :=
  match cs.takeWhile Number.isDigit with
  | [] => none
  | ds => some (ds, cs.dropWhile Number.isDigit)

def wholePart? (cs : List Char) : Option (List Char × List Char) := do
  match cs with
  | '0' :: rest => pure (['0'], rest)
  | _ => digits? cs

def fractionPart? : List Char → Option (List Char × List Char)
  | '.' :: rest => digits? rest
  | cs => some ([], cs)

def exponentPart? : List Char → Option (Int × List Char)
  | 'e' :: rest | 'E' :: rest => do
    let (negative, rest) := Number.sign rest
    let (ds, rest) ← digits? rest
    let n : Int := Number.decimalValue ds
    pure (if negative then -n else n, rest)
  | cs => some (0, cs)

def number? (cs : List Char) : Option (Number × List Char) := do
  let (negative, rest) := match cs with
    | '-' :: rest => (true, rest)
    | rest => (false, rest)
  let (whole, rest) ← wholePart? rest
  let (fraction, rest) ← fractionPart? rest
  let (exponent, rest) ← exponentPart? rest
  let d : Decimal := ⟨Number.decimalValue (whole ++ fraction), exponent - fraction.length⟩
  pure (d.toNumber negative, rest)

mutual

def value? : Nat → List Char → Option (Json × List Char)
  | 0, _ => none
  | fuel + 1, cs =>
    match skipBlanks cs with
    | 'n' :: 'u' :: 'l' :: 'l' :: rest => some (.null, rest)
    | 't' :: 'r' :: 'u' :: 'e' :: rest => some (.bool true, rest)
    | 'f' :: 'a' :: 'l' :: 's' :: 'e' :: rest => some (.bool false, rest)
    | '"' :: rest => (string? rest).map fun (s, tail) => (.string s, tail)
    | '[' :: rest =>
      match skipBlanks rest with
      | ']' :: tail => some (.array [], tail)
      | _ => (items? fuel rest).map fun (items, tail) => (.array items, tail)
    | '{' :: rest =>
      match skipBlanks rest with
      | '}' :: tail => some (.object [], tail)
      | _ => (members? fuel rest).map fun (members, tail) => (ofMembers members, tail)
    | rest => (number? rest).map fun (n, tail) => (.number n, tail)

def items? : Nat → List Char → Option (List Json × List Char)
  | 0, _ => none
  | fuel + 1, cs => do
    let (item, rest) ← value? fuel cs
    match skipBlanks rest with
    | ',' :: rest =>
      let (items, tail) ← items? fuel rest
      pure (item :: items, tail)
    | ']' :: tail => pure ([item], tail)
    | _ => none

def members? : Nat → List Char → Option (List (Text × Json) × List Char)
  | 0, _ => none
  | fuel + 1, cs => do
    match skipBlanks cs with
    | '"' :: rest =>
      let (name, rest) ← string? rest
      match skipBlanks rest with
      | ':' :: rest =>
        let (value, rest) ← value? fuel rest
        match skipBlanks rest with
        | ',' :: rest =>
          let (members, tail) ← members? fuel rest
          pure ((name, value) :: members, tail)
        | '}' :: tail => pure ([(name, value)], tail)
        | _ => none
      | _ => none
    | _ => none

end

def parse? (text : String) : Option Json := do
  let cs := text.toList
  let (value, rest) ← value? (2 * cs.length + 2) cs
  if skipBlanks rest = [] then some value else none

end SafetyBoard.Json
