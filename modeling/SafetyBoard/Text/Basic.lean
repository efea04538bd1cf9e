/-!
Texts as sequences of 16-bit units, as sources and configurations write them. The units of a text
mostly make up characters; a text with an unpaired surrogate is garbled. It is a text like any
other, except that it has no percent-encoding.
-/

namespace SafetyBoard

namespace Text.Utf16

def isHigh (u : UInt16) : Bool := 0xD800 ≤ u && u < 0xDC00

def isLow (u : UInt16) : Bool := 0xDC00 ≤ u && u < 0xE000

def charUnits (c : Char) : List UInt16 :=
  let n := c.toNat
  if n < 0x10000 then [.ofNat n]
  else [.ofNat (0xD800 + (n - 0x10000) / 0x400), .ofNat (0xDC00 + (n - 0x10000) % 0x400)]

def encode (s : List Char) : List UInt16 := s.flatMap charUnits

def single? (u : UInt16) : Option Char :=
  if isHigh u || isLow u then none else some (Char.ofNat u.toNat)

def pair (high low : UInt16) : Char :=
  Char.ofNat (0x10000 + (high.toNat - 0xD800) * 0x400 + (low.toNat - 0xDC00))

/-- The characters that the units make up, with nothing in the place of an unpaired surrogate. -/
def scan : List UInt16 → List (Option Char)
  | [] => []
  | [u] => [single? u]
  | u :: v :: rest =>
    if isHigh u && isLow v then some (pair u v) :: scan rest else single? u :: scan (v :: rest)

def decode (units : List UInt16) : Option (List Char) := (scan units).mapM id

end Text.Utf16

inductive Text where
  | plain (s : String)
  | garbled (units : List UInt16) (unpaired : Text.Utf16.decode units = none)
  deriving DecidableEq, Repr

namespace Text

instance : Coe String Text := ⟨plain⟩

/-- The characters of a text, unless it is garbled. -/
def spelled? : Text → Option String
  | plain s => some s
  | garbled _ _ => none

def isSpelled (t : Text) : Bool := t.spelled?.isSome

/-- The texts before the first garbled one. -/
def spelledPrefix : List Text → List String
  | plain s :: rest => s :: spelledPrefix rest
  | garbled _ _ :: _ | [] => []

def units : Text → List UInt16
  | plain s => Utf16.encode s.toList
  | garbled units _ => units

def ofUnits (units : List UInt16) : Text :=
  match decoded : Utf16.decode units with
  | some s => plain (String.ofList s)
  | none => garbled units decoded

def append : Text → Text → Text
  | plain s, plain t => plain (s ++ t)
  | s, t => ofUnits (s.units ++ t.units)

instance : Append Text := ⟨append⟩

def join (separator : Text) : List Text → Text
  | [] => ""
  | [t] => t
  | t :: rest => t ++ separator ++ join separator rest

def replacement : Char := '\uFFFD'

/-- The text with the replacement character for every unpaired surrogate. -/
def repaired : Text → String
  | plain s => s
  | garbled units _ => String.ofList ((Utf16.scan units).map (·.getD replacement))

end Text

end SafetyBoard
