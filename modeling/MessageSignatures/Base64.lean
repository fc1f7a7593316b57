/-!
# Base64

The standard alphabet with padding.

* `encode` writes octets as text.
* `decode` reads strictly: it accepts exactly what `encode` writes, so the padding must be there and
  the bits that no octet uses must be zero.
* `decodeLoose` reads the form that structured fields allow: padding signs count for nothing
  wherever they stand, and unused bits are ignored.
-/

namespace MessageSignatures

namespace Base64

/-- The symbol of a six-bit value. -/
def symbol (n : Nat) : Char :=
  if n < 26 then Char.ofNat (n + 65)
  else if n < 52 then Char.ofNat (n + 71)
  else if n < 62 then Char.ofNat (n - 4)
  else if n = 62 then '+'
  else '/'

/-- The six-bit value of a symbol. -/
def value? (c : Char) : Option Nat :=
  if 'A' ≤ c && c ≤ 'Z' then some (c.toNat - 65)
  else if 'a' ≤ c && c ≤ 'z' then some (c.toNat - 71)
  else if '0' ≤ c && c ≤ '9' then some (c.toNat + 4)
  else if c = '+' then some 62
  else if c = '/' then some 63
  else none

/-- Symbols of an octet string: three octets give four symbols, and a shorter last group is
padded. -/
def encodeChars : List UInt8 → List Char
  | [] => []
  | [a] =>
    [symbol (a.toNat / 4), symbol (a.toNat % 4 * 16), '=', '=']
  | [a, b] =>
    [symbol (a.toNat / 4), symbol (a.toNat % 4 * 16 + b.toNat / 16), symbol (b.toNat % 16 * 4), '=']
  | a :: b :: c :: rest =>
    symbol (a.toNat / 4) :: symbol (a.toNat % 4 * 16 + b.toNat / 16)
      :: symbol (b.toNat % 16 * 4 + c.toNat / 64) :: symbol (c.toNat % 64) :: encodeChars rest

/-- **Writing.** The padded base64 text of an octet string. -/
def encode (bs : List UInt8) : String :=
  String.ofList (encodeChars bs)

/-- Octets of a string of six-bit values. The bits left over at the end are dropped; a single value
left over is no octet string. -/
def octetsOfValues : List Nat → Option (List UInt8)
  | [] => some []
  | [_] => none
  | [a, b] => some [UInt8.ofNat (a * 4 + b / 16)]
  | [a, b, c] => some [UInt8.ofNat (a * 4 + b / 16), UInt8.ofNat (b % 16 * 16 + c / 4)]
  | a :: b :: c :: d :: rest =>
    (octetsOfValues rest).map fun bs =>
      UInt8.ofNat (a * 4 + b / 16) :: UInt8.ofNat (b % 16 * 16 + c / 4)
        :: UInt8.ofNat (c % 4 * 64 + d) :: bs

/-- **Loose reading.** Padding signs are skipped wherever they stand and unused bits are ignored. -/
def decodeLoose (cs : List Char) : Option (List UInt8) :=
  ((cs.filter (· != '=')).mapM value?).bind octetsOfValues

/-- Strict reading of symbols: the text must be the one that the octets are written as. -/
def decodeChars (cs : List Char) : Option (List UInt8) :=
  (decodeLoose cs).filter fun bs => encodeChars bs == cs

/-- **Strict reading.** It accepts exactly what `encode` writes. -/
def decode (s : String) : Option (List UInt8) :=
  decodeChars s.toList

/-- Only the written form of an octet string is read as that string. -/
theorem eq_encodeChars_of_decodeChars {cs : List Char} {bs : List UInt8}
    (h : decodeChars cs = some bs) : cs = encodeChars bs := by
  unfold decodeChars at h
  have := (Option.filter_eq_some_iff.1 h).2
  exact (beq_iff_eq.1 this).symm

end Base64

end MessageSignatures
