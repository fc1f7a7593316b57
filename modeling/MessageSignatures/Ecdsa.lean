import MessageSignatures.EllipticCurve
import MessageSignatures.Error
import MessageSignatures.Hmac
import MessageSignatures.Sha2

/-!
# ECDSA

Signatures over elliptic curves, with the hash function that goes with the curve.

* **Deterministic signing.** The secret number of a signature is derived from the private scalar and
  the hash of the message by keyed hashing, so signing needs no randomness. The hash enters as it
  is.
* **Signatures** are two numbers of the length of the field. Both have to be units modulo the order;
  the second may be in either half of the range.
-/

namespace MessageSignatures

namespace Ecdsa

open EllipticCurve (Curve)

/-- **Scheme.** A curve with a hash function whose digests are as long as the order. -/
inductive Scheme where
  | p256
  | p384
deriving DecidableEq, Repr

namespace Scheme

/-- The curve. -/
def curve : Scheme → Curve
  | p256 => EllipticCurve.p256
  | p384 => EllipticCurve.p384

/-- The hash function. -/
def hash : Scheme → List UInt8 → List UInt8
  | p256 => Sha2.sha256
  | p384 => Sha2.sha384

/-- Octets in a block of the hash function. -/
def blockOctets : Scheme → Nat
  | p256 => 64
  | p384 => 128

/-- The algorithm. -/
def algorithm : Scheme → Algorithm
  | p256 => .ecdsaP256Sha256
  | p384 => .ecdsaP384Sha384

variable (s : Scheme)

/-- Keyed hashing with the hash function of the scheme. -/
def code (key message : List UInt8) : List UInt8 :=
  Hmac.code s.hash s.blockOctets key message

/-- **Secret numbers.** The first number in range among those that a state of the generator gives. A
number out of range is rare; `tries` bounds the search. -/
def secretNumber (key value : List UInt8) : (tries : Nat) → Option Nat
  | 0 => none
  | tries + 1 =>
    let value := s.code key value
    let k := Octets.toNat value
    if 0 < k && k < s.curve.n then some k
    else
      let key := s.code key (value ++ [0x00])
      secretNumber key (s.code key value) tries

/-- The secret number for a private scalar and a hash. -/
def deriveNumber (scalar : Nat) (digest : List UInt8) : Option Nat :=
  let seed := Octets.ofNat s.curve.octets scalar ++ digest
  -- two rounds mix the seed into the key of the generator
  let value := List.replicate digest.length 0x01
  let key := s.code (List.replicate digest.length 0x00) (value ++ 0x00 :: seed)
  let value := s.code key value
  let key := s.code key (value ++ 0x01 :: seed)
  s.secretNumber key (s.code key value) 64

/-- **Signing** with a private scalar. -/
def sign (scalar : Nat) (message : List UInt8) : Except SigningFault (List UInt8) :=
  let c := s.curve
  let digest := s.hash message
  let signature := do
    let k ← s.deriveNumber scalar digest
    let (x, _) ← c.affine? (c.multiply k c.base)
    let inverse ← Modular.inverse? c.n k
    let r := x % c.n
    -- the hash is as long as the order, so all of its bits count
    let t := inverse * ((Octets.toNat digest + r * scalar) % c.n) % c.n
    if r = 0 || t = 0 then none else some (Octets.ofNat c.octets r ++ Octets.ofNat c.octets t)
  match signature with
  | some bs => .ok bs
  | none => .error .computation

/-- **Verifying** with a public point. -/
def accepts (x y : Nat) (message signature : List UInt8) : Bool :=
  let c := s.curve
  let r := Octets.toNat (signature.take c.octets)
  let t := Octets.toNat (signature.drop c.octets)
  signature.length == 2 * c.octets && 0 < r && r < c.n && 0 < t && t < c.n &&
    match Modular.inverse? c.n t with
    | none => false
    | some inverse =>
      let u := Octets.toNat (s.hash message) % c.n * inverse % c.n
      let v := r * inverse % c.n
      match c.affine? (c.add (c.multiply u c.base) (c.multiply v (.ofAffine x y))) with
      | none => false
      | some (px, _) => px % c.n == r

end Scheme

end Ecdsa

end MessageSignatures
