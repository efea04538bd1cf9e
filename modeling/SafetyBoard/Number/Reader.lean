import SafetyBoard.Number.Decimal
import SafetyBoard.Text.Blank
import SafetyBoard.Text.Percent

/-!
Numbers out of text. `ofDigits?` reads the digits of a user id; `ofSetting` reads the value of a
setting, where anything that is not a numeral gives the undefined value.
-/

namespace SafetyBoard.Number

def isDigit (c : Char) : Bool := '0' ≤ c && c ≤ '9'

def digitsValue (base : Nat) (digits : List Nat) : Nat :=
  digits.foldl (fun n d => n * base + d) 0

def decimalValue (cs : List Char) : Nat := digitsValue 10 (cs.map fun c => c.toNat - 48)

/-- A non-empty run of ASCII digits and nothing else. -/
def ofDigits? (cs : List Char) : Option Number :=
  if cs ≠ [] ∧ cs.all isDigit then some (Decimal.toNumber false ⟨decimalValue cs, 0⟩) else none

def mantissa? (cs : List Char) : Option (Decimal × List Char) :=
  let whole := cs.takeWhile isDigit
  match cs.dropWhile isDigit with
  | '.' :: rest =>
    let fraction := rest.takeWhile isDigit
    if whole = [] ∧ fraction = [] then none
    else some (⟨decimalValue (whole ++ fraction), -fraction.length⟩, rest.dropWhile isDigit)
  | rest => if whole = [] then none else some (⟨decimalValue whole, 0⟩, rest)

def sign : List Char → Bool × List Char
  | '-' :: rest => (true, rest)
  | '+' :: rest => (false, rest)
  | rest => (false, rest)

def exponent? : List Char → Option Int
  | [] => some 0
  | e :: rest =>
    if e = 'e' ∨ e = 'E' then
      let (negative, digits) := sign rest
      if digits ≠ [] ∧ digits.all isDigit then
        some (if negative then -(decimalValue digits : Int) else decimalValue digits)
      else none
    else none

def unsignedDecimal? (negative : Bool) (cs : List Char) : Option Number :=
  if cs = "Infinity".toList then some (.infinite negative)
  else do
    let (d, rest) ← mantissa? cs
    let exponent ← exponent? rest
    pure (Decimal.toNumber negative ⟨d.digits, d.exponent + exponent⟩)

def radixDigits? (base : Nat) (cs : List Char) : Option Number := do
  let digits ← cs.mapM fun c => (Text.Percent.hexValue? c).filter (· < base)
  if digits = [] then none else some (nearest (digitsValue base digits * scale : Nat) 1)

/-- A whole trimmed text as a numeral. The empty text is zero; the prefixes for the bases sixteen,
eight and two take no sign. -/
def numeral? : List Char → Option Number
  | [] => some 0
  | '0' :: mark :: digits =>
    if mark = 'x' ∨ mark = 'X' then radixDigits? 16 digits
    else if mark = 'o' ∨ mark = 'O' then radixDigits? 8 digits
    else if mark = 'b' ∨ mark = 'B' then radixDigits? 2 digits
    else unsignedDecimal? false ('0' :: mark :: digits)
  | cs =>
    let (negative, rest) := sign cs
    unsignedDecimal? negative rest

def ofSetting (s : String) : Number := (numeral? (Text.trimBlank s.toList)).getD .undefined

end SafetyBoard.Number
