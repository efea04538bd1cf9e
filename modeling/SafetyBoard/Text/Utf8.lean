/-!
UTF-8 over natural numbers below 256. Writing a character gives its octets; reading goes octet by
octet and refuses whatever no character writes: stray or missing continuations, spellings that are
longer than needed, surrogates and values past the last character.
-/

namespace SafetyBoard.Text.Utf8

def charOctets (c : Char) : List Nat :=
  let n := c.toNat
  if n < 0x80 then [n]
  else if n < 0x800 then [0xC0 + n / 64, 0x80 + n % 64]
  else if n < 0x10000 then [0xE0 + n / 4096, 0x80 + n / 64 % 64, 0x80 + n % 64]
  else [0xF0 + n / 262144, 0x80 + n / 4096 % 64, 0x80 + n / 64 % 64, 0x80 + n % 64]

def encode (s : List Char) : List Nat := s.flatMap charOctets

/-- Reads on with `owed` continuations outstanding, `value` collected so far and `least` the
smallest value that needs an octet sequence of this length. -/
def decodeFrom : (owed value least : Nat) → List Nat → Option (List Char)
  | 0, _, _, [] => some []
  | _ + 1, _, _, [] => none
  | 0, _, _, b :: rest =>
    if b < 0x80 then (decodeFrom 0 0 0 rest).map (Char.ofNat b :: ·)
    else if b < 0xC0 then none
    else if b < 0xE0 then decodeFrom 1 (b - 0xC0) 0x80 rest
    else if b < 0xF0 then decodeFrom 2 (b - 0xE0) 0x800 rest
    else if b < 0xF8 then decodeFrom 3 (b - 0xF0) 0x10000 rest
    else none
  | owed + 1, value, least, b :: rest =>
    if 0x80 ≤ b ∧ b < 0xC0 then
      let value := value * 64 + (b - 0x80)
      if owed = 0 then
        if least ≤ value ∧ value.isValidChar then
          (decodeFrom 0 0 0 rest).map (Char.ofNat value :: ·)
        else none
      else decodeFrom owed value least rest
    else none

def decode (octets : List Nat) : Option (List Char) := decodeFrom 0 0 0 octets

end SafetyBoard.Text.Utf8
