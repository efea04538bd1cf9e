import SafetyBoard.Text.Utf8

/-!
Percent-encoding of one part of an identifier. Letters, digits and nine marks stand for themselves;
every other character is written octet by octet as a percent sign with two upper-case digits, so the
separators of an identifier never occur inside a part.
-/

namespace SafetyBoard.Text.Percent

def isPlain (c : Char) : Bool :=
  c.isAlphanum || "-_.!~*'()".toList.contains c

def hexDigit (n : Nat) : Char :=
  if n < 10 then Char.ofNat (48 + n) else Char.ofNat (55 + n)

def hexValue? (c : Char) : Option Nat :=
  if '0' ≤ c ∧ c ≤ '9' then some (c.toNat - 48)
  else if 'A' ≤ c ∧ c ≤ 'F' then some (c.toNat - 55)
  else if 'a' ≤ c ∧ c ≤ 'f' then some (c.toNat - 87)
  else none

def octet (b : Nat) : List Char := ['%', hexDigit (b / 16), hexDigit (b % 16)]

def encodeChar (c : Char) : List Char :=
  if isPlain c then [c] else (Utf8.charOctets c).flatMap octet

def encode (s : List Char) : List Char := s.flatMap encodeChar

/-- The octets that a text spells: an escape is one octet, any other character its own octets. -/
def octets? : List Char → Option (List Nat)
  | [] => some []
  | '%' :: high :: low :: rest => do
    let h ← hexValue? high
    let l ← hexValue? low
    (octets? rest).map fun bs => (h * 16 + l) :: bs
  | c :: rest => if c = '%' then none else (octets? rest).map (Utf8.charOctets c ++ ·)

def decode (s : List Char) : Option (List Char) := (octets? s).bind Utf8.decode

end SafetyBoard.Text.Percent
