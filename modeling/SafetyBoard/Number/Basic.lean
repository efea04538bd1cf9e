/-!
Numbers as the board receives, adds and shows them: signed values of 53 significant bits between
2^-1074 and 2^1024, two infinities and an undefined value. A finite number is held exactly, as a
whole count of units of 2^-1074, so equality of numbers is equality of values (there is one zero),
and each operation is exact arithmetic followed by one rounding to the nearest number.
-/

namespace SafetyBoard

namespace Number

def scale : Nat := Nat.pow 2 1074

def bound : Nat := Nat.pow 2 2098

def spacing (units : Nat) : Nat := Nat.pow 2 (units.log2 - 52)

def Exact (units : Int) : Prop := units.natAbs < bound ∧ spacing units.natAbs ∣ units.natAbs

instance (units : Int) : Decidable (Exact units) :=
  inferInstanceAs (Decidable (_ ∧ _))

/-- Whether a count is a number depends on its size only. -/
theorem Exact.of_natAbs_eq {m n : Int} (h : m.natAbs = n.natAbs) (exact : Exact m) : Exact n := by
  unfold Exact at *
  rwa [h] at exact

end Number

inductive Number where
  | finite (units : Int) (exact : Number.Exact units)
  | infinite (negative : Bool)
  | undefined
  deriving DecidableEq, Repr

namespace Number

def halfEven (num den : Nat) : Nat :=
  let below := num / den
  let rest := num % den
  if 2 * rest < den ∨ (2 * rest = den ∧ below % 2 = 0) then below else below + 1

def roundUnits (num den : Nat) : Nat :=
  let gap := spacing (num / den)
  halfEven num (den * gap) * gap

/-- The number nearest to `num / den` units; past the largest number it is infinite. -/
def nearest (num : Int) (den : Nat) : Number :=
  let magnitude : Int := roundUnits num.natAbs den
  let units := if num < 0 then -magnitude else magnitude
  if h : Exact units then .finite units h else .infinite (num < 0)

def ofInt (n : Int) : Number := nearest (n * scale) 1

instance (n : Nat) : OfNat Number n := ⟨ofInt n⟩

def ofNat (n : Nat) : Number := ofInt n

def neg : Number → Number
  | .finite units exact => .finite (-units) (exact.of_natAbs_eq (Int.natAbs_neg units).symm)
  | .infinite negative => .infinite (!negative)
  | .undefined => .undefined

def add : Number → Number → Number
  | .finite a _, .finite b _ => nearest (a + b) 1
  | .undefined, _ | _, .undefined => .undefined
  | .infinite s, .infinite t => if s = t then .infinite s else .undefined
  | .infinite s, .finite _ _ | .finite _ _, .infinite s => .infinite s

def sub (a b : Number) : Number := add a (neg b)

instance : Add Number := ⟨add⟩
instance : Sub Number := ⟨sub⟩
instance : Neg Number := ⟨neg⟩

/-- Whether two numbers are one; the undefined value is none, not even itself. -/
def equals (a b : Number) : Bool := a = b && a ≠ .undefined

/-- Strict order; nothing is below or above the undefined value. -/
def less : Number → Number → Bool
  | .finite a _, .finite b _ => a < b
  | .infinite s, .infinite t => s && !t
  | .infinite s, .finite _ _ => s
  | .finite _ _, .infinite t => !t
  | .undefined, _ | _, .undefined => false

def abs (n : Number) : Number := if n.less 0 then -n else n

def toInt? : Number → Option Int
  | .finite units _ => if (scale : Int) ∣ units then some (units / scale) else none
  | _ => none

def isWhole (n : Number) : Bool := n.toInt?.isSome

def truncate? : Number → Option Int
  | .finite units _ => some (units.tdiv scale)
  | _ => none

end Number

/-- A date: whole milliseconds since the epoch, at most a hundred million days away, or no date. -/
structure Instant where
  ms? : Option Int
  deriving DecidableEq, Repr

namespace Instant

def farthest : Number := Number.ofInt 8640000000000000

def ofNumber (n : Number) : Instant :=
  if Number.less farthest n || Number.less n (-farthest) then ⟨none⟩ else ⟨n.truncate?⟩

def toNumber (t : Instant) : Number :=
  match t.ms? with
  | some ms => Number.ofInt ms
  | none => .undefined

end Instant

end SafetyBoard
