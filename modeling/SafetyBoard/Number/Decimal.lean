import SafetyBoard.Number.Basic

/-!
Decimals and the text of a number. A number is written with the fewest digits that read back as it;
of several such texts the nearest is taken, and of two equally near ones the even one. Whole numbers
below 2^53 are written out plainly, which is the same rule.
-/

namespace SafetyBoard

structure Decimal where
  digits : Nat
  exponent : Int
  deriving DecidableEq, Repr

namespace Decimal

def powTen (n : Nat) : Nat := Nat.pow 10 n

def length (n : Nat) : Nat := (Nat.toDigits 10 n).length

/-- The nearest number. Values of more than 400 places before or behind the point are outside the
range of numbers, so their powers of ten are never formed. -/
def toNumber (negative : Bool) (d : Decimal) : Number :=
  let places : Int := length d.digits + d.exponent
  let sign : Int := if negative then -1 else 1
  if d.digits = 0 ∨ places < -400 then 0
  else if 400 < places then .infinite negative
  else if 0 ≤ d.exponent then
    .nearest (sign * (d.digits * powTen d.exponent.toNat * Number.scale : Nat)) 1
  else .nearest (sign * (d.digits * Number.scale : Nat)) (powTen (-d.exponent).toNat)

def stripZeros : Nat → Decimal → Decimal
  | 0, d => d
  | fuel + 1, d =>
    if d.digits % 10 = 0 ∧ d.digits ≠ 0 then stripZeros fuel ⟨d.digits / 10, d.exponent + 1⟩ else d

def stripped (d : Decimal) : Decimal := stripZeros (length d.digits) d

/-- Positional up to 21 places before the point and six zeros behind it, otherwise with an
exponent. -/
def layout (d : Decimal) : String :=
  let digits := Nat.toDigits 10 d.digits
  let places : Int := digits.length + d.exponent
  if 0 ≤ d.exponent ∧ places ≤ 21 then
    String.ofList (digits ++ List.replicate d.exponent.toNat '0')
  else if 0 < places ∧ places ≤ 21 then
    String.ofList (digits.take places.toNat ++ '.' :: digits.drop places.toNat)
  else if -6 < places ∧ places ≤ 0 then
    String.ofList ('0' :: '.' :: List.replicate (-places).toNat '0' ++ digits)
  else
    let fraction := match digits.drop 1 with
      | [] => []
      | rest => '.' :: rest
    let power := places - 1
    String.ofList (digits.take 1 ++ fraction ++ 'e' :: (if 0 ≤ power then ['+'] else ['-']) ++
      Nat.toDigits 10 power.natAbs)

end Decimal

namespace Number

def places (units : Nat) : Int :=
  (Decimal.length (units * Decimal.powTen 400 / scale) : Int) - 400

def neighbours (units count : Nat) : List Decimal :=
  let exponent := places units - count
  let num := units * Decimal.powTen (-exponent).toNat
  let den := scale * Decimal.powTen exponent.toNat
  let below := num / den
  let rest := num % den
  if rest = 0 then [⟨below, exponent⟩]
  else if 2 * rest < den ∨ (2 * rest = den ∧ below % 2 = 0) then
    [⟨below, exponent⟩, ⟨below + 1, exponent⟩]
  else [⟨below + 1, exponent⟩, ⟨below, exponent⟩]

def exactDecimal (units : Nat) : Decimal := ⟨units * Nat.pow 5 1074, -1074⟩

/-- The shortest decimal that reads back as a positive number; all digits if seventeen are too
few. -/
def shortest (units : Nat) (exact : Exact units) : Decimal :=
  let candidates := (List.range 17).flatMap fun i => neighbours units (i + 1)
  let readsBack (d : Decimal) : Bool := d.toNumber false = .finite units exact
  ((candidates.find? readsBack).getD (exactDecimal units)).stripped

def text : Number → String
  | .undefined => "NaN"
  | .infinite negative => if negative then "-Infinity" else "Infinity"
  | .finite units exact =>
    if (scale : Int) ∣ units ∧ (units / scale).natAbs < Nat.pow 2 53 then toString (units / scale)
    else
      let digits := (shortest units.natAbs (exact.of_natAbs_eq rfl)).layout
      if units < 0 then "-" ++ digits else digits

instance : ToString Number := ⟨text⟩

end Number

end SafetyBoard
