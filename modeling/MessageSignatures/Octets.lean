/-!
# Octet strings as numbers

Cryptographic formats write a non-negative integer as a string of octets of a fixed length.

* `toNat` reads an octet string, most significant octet first; `ofNat` writes one.
* `toNatLE` and `ofNatLE` are the same with the least significant octet first.

Writing keeps the low octets only, so `ofNat len n` has length `len` whatever `n` is
(`length_ofNat`).
-/

namespace MessageSignatures

namespace Octets

/-- The number that an octet string denotes, most significant octet first. -/
def toNat (bs : List UInt8) : Nat :=
  bs.foldl (fun n b => n * 256 + b.toNat) 0

/-- The last `len` octets of a number, most significant octet first. -/
def ofNat : Nat → Nat → List UInt8
  | 0, _ => []
  | len + 1, n => UInt8.ofNat (n >>> (8 * len)) :: ofNat len n

@[simp] theorem length_ofNat (len n : Nat) : (ofNat len n).length = len := by
  induction len with
  | zero => rfl
  | succ len ih => simp [ofNat, ih]

/-- The number that an octet string denotes, least significant octet first. -/
def toNatLE (bs : List UInt8) : Nat :=
  toNat bs.reverse

/-- The last `len` octets of a number, least significant octet first. -/
def ofNatLE (len n : Nat) : List UInt8 :=
  (ofNat len n).reverse

@[simp] theorem length_ofNatLE (len n : Nat) : (ofNatLE len n).length = len := by
  simp [ofNatLE]

/-- How many octets a number needs; zero needs none. -/
def sizeOf (n : Nat) : Nat :=
  if n = 0 then 0 else n.log2 / 8 + 1

/-- Octetwise exclusive or, as long as the shorter string. -/
def xor (a b : List UInt8) : List UInt8 :=
  List.zipWith (· ^^^ ·) a b

end Octets

end MessageSignatures
