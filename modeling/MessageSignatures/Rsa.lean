import MessageSignatures.Error
import MessageSignatures.Modular
import MessageSignatures.Octets
import MessageSignatures.Sha2

/-!
# RSA

Signatures with RSA keys, under two paddings.

* **PKCS #1 v1.5** with SHA-256 pads the hash with fixed octets, so it is deterministic.
* **PSS** with SHA-512 and its mask function adds a salt of 64 octets, which is random and therefore
  an argument. Verifying demands a salt of that length.

A modulus too small for the padding cannot sign and accepts nothing. A private key keeps its two
factors and computes modulo each of them. `PrivateKey.isSound` tells whether its numbers fit
together; whether the factors are primes shows when a signature, raised to the public exponent, is
compared with what was signed.
-/

namespace MessageSignatures

namespace Rsa

/-- **Public key.** -/
structure PublicKey where
  modulus : Nat
  exponent : Nat
deriving DecidableEq

/-- **Private key.** -/
structure PrivateKey where
  modulus : Nat
  publicExponent : Nat
  privateExponent : Nat
  prime1 : Nat
  prime2 : Nat
deriving DecidableEq

/-- **Padding.** -/
inductive Padding where
  | pkcs1
  | pss
deriving DecidableEq, Repr

namespace Padding

/-- The algorithm that signs under a padding. -/
def algorithm : Padding → Algorithm
  | pkcs1 => .rsaPkcs1Sha256
  | pss => .rsaPssSha512

/-- The padding of an algorithm, if it is one of RSA. -/
def ofAlgorithm? : Algorithm → Option Padding
  | .rsaPkcs1Sha256 => some pkcs1
  | .rsaPssSha512 => some pss
  | _ => none

theorem algorithm_of_ofAlgorithm? {a : Algorithm} {p : Padding} (h : ofAlgorithm? a = some p) :
    p.algorithm = a := by
  cases a <;> cases h <;> rfl

end Padding

/-- The public half of a private key. -/
def PrivateKey.publicKey (key : PrivateKey) : PublicKey :=
  ⟨key.modulus, key.publicExponent⟩

namespace PublicKey

/-- The length of the modulus, and of every signature, in octets. -/
def size (key : PublicKey) : Nat :=
  Octets.sizeOf key.modulus

/-- The length of the modulus in bits. -/
def bits (key : PublicKey) : Nat :=
  if key.modulus = 0 then 0 else key.modulus.log2 + 1

/-- Raise to the public exponent. -/
def raise (key : PublicKey) (s : Nat) : Nat :=
  Modular.pow key.modulus s key.exponent

/-- **Soundness** of a public key: an odd modulus, and an odd exponent from 2 to 2³³ - 1 that is
less than the modulus. -/
def isSound (key : PublicKey) : Bool :=
  key.modulus % 2 == 1 && key.exponent % 2 == 1 && 2 ≤ key.exponent && key.exponent < Nat.pow 2 33
    && key.exponent < key.modulus

/-- Whether a key that comes from elsewhere is fit for use. Its modulus has at most 4096 bits, so
that nobody can make verifying slow. -/
def isFit (key : PublicKey) : Bool :=
  key.bits ≤ 4096 && key.isSound

end PublicKey

namespace PrivateKey

/-- **Soundness** of a private key: the public half is sound, the modulus is the product of the two
factors, and the exponents are inverse to each other modulo one less than each factor. So, if the
factors are different primes, raising to one exponent undoes raising to the other. -/
def isSound (key : PrivateKey) : Bool :=
  let isInverse (prime : Nat) :=
    2 ≤ prime && key.publicExponent * key.privateExponent % (prime - 1) == 1
  key.publicKey.isSound && key.prime1 * key.prime2 == key.modulus
    && isInverse key.prime1 && isInverse key.prime2

/-- Raise to the private exponent, modulo each prime and then put together. If the second prime has
no inverse modulo the first, modulo the modulus. -/
def raise (key : PrivateKey) (c : Nat) : Nat :=
  match Modular.inverse? key.prime1 key.prime2 with
  | none => Modular.pow key.modulus c key.privateExponent
  | some coefficient =>
    -- the exponents may be reduced modulo one less than each prime
    let m1 := Modular.pow key.prime1 c (key.privateExponent % (key.prime1 - 1))
    let m2 := Modular.pow key.prime2 c (key.privateExponent % (key.prime2 - 1))
    m2 + Modular.sub key.prime1 m1 m2 * coefficient % key.prime1 * key.prime2

/-- The signature of a padded message, if the numbers of the key fit together. -/
def signPadded (key : PrivateKey) (padded : List UInt8) : Except SigningFault (List UInt8) :=
  let c := Octets.toNat padded
  let s := key.raise c
  -- a wrong result would give away a prime, so it is never handed out
  let size := key.publicKey.size
  if c < key.modulus && key.publicKey.raise s == c && Octets.sizeOf s ≤ size then
    .ok (Octets.ofNat size s)
  else .error .computation

end PrivateKey

/-- The octets that name SHA-256 in front of a hash. -/
def sha256Info : List UInt8 :=
  [0x30, 0x31, 0x30, 0x0D, 0x06, 0x09, 0x60, 0x86, 0x48, 0x01, 0x65, 0x03, 0x04, 0x02, 0x01, 0x05,
    0x00, 0x04, 0x20]

/-- **PKCS #1 v1.5 padding** to a length, which must leave room for eight filling octets. -/
def padPkcs1 (size : Nat) (message : List UInt8) : Option (List UInt8) :=
  let t := sha256Info ++ Sha2.sha256 message
  if size < t.length + 11 then none
  else some (0x00 :: 0x01 :: (List.replicate (size - t.length - 3) 0xFF ++ 0x00 :: t))

/-- Octets in the salt of a PSS signature. -/
def saltOctets : Nat := 64

/-- Octets in a PSS hash. -/
def hashOctets : Nat := 64

/-- The mask that a seed gives. -/
def mask (seed : List UInt8) (length : Nat) : List UInt8 :=
  ((List.range ((length + hashOctets - 1) / hashOctets)).flatMap fun i =>
    Sha2.sha512 (seed ++ Octets.ofNat 4 i)).take length

/-- Clear the first bits of an octet string. -/
def clearFirst (bits : Nat) : List UInt8 → List UInt8
  | [] => []
  | b :: bs => UInt8.ofNat (b.toNat % Nat.pow 2 (8 - bits)) :: bs

/-- The hash of a message under a salt. -/
def saltedHash (message salt : List UInt8) : List UInt8 :=
  Sha2.sha512 (List.replicate 8 0 ++ Sha2.sha512 message ++ salt)

/-- **PSS padding** to a number of bits. -/
def padPss (bits : Nat) (message salt : List UInt8) : Option (List UInt8) :=
  let length := (bits + 7) / 8
  if length < hashOctets + saltOctets + 2 then none
  else
    let hash := saltedHash message salt
    -- zeros, a one, and the salt: masked by what the hash gives
    let block := List.replicate (length - saltOctets - hashOctets - 2) 0 ++ 0x01 :: salt
    let masked := clearFirst (8 * length - bits) (Octets.xor block (mask hash block.length))
    some (masked ++ hash ++ [0xBC])

/-- Whether octets are a message in PSS padding. -/
def isPssOf (bits : Nat) (message padded : List UInt8) : Bool :=
  let length := (bits + 7) / 8
  let masked := padded.take (length - hashOctets - 1)
  let hash := (padded.drop (length - hashOctets - 1)).take hashOctets
  let block := clearFirst (8 * length - bits) (Octets.xor masked (mask hash masked.length))
  let zeros := length - saltOctets - hashOctets - 2
  -- no bit is set above the number of bits, and the block is zeros, a one, and the salt
  hashOctets + saltOctets + 2 ≤ length
    && padded.getLast? == some 0xBC
    && clearFirst (8 * length - bits) masked == masked
    && block.take (zeros + 1) == List.replicate zeros 0 ++ [0x01]
    && saltedHash message (block.drop (zeros + 1)) == hash

/-- **Signing.** Under PSS with a salt. -/
def PrivateKey.sign (key : PrivateKey) (padding : Padding) (salt message : List UInt8) :
    Except SigningFault (List UInt8) :=
  let padded := match padding with
    | .pkcs1 => padPkcs1 key.publicKey.size message
    | .pss => padPss (key.publicKey.bits - 1) message salt
  match padded with
  | some padded => key.signPadded padded
  | none => .error .computation

/-- **Verifying.** A signature is as long as the modulus and, as a number, less. -/
def PublicKey.accepts (key : PublicKey) (padding : Padding)
    (message signature : List UInt8) : Bool :=
  let s := Octets.toNat signature
  signature.length == key.size && s < key.modulus &&
    match padding with
    | .pkcs1 => padPkcs1 key.size message == some (Octets.ofNat key.size (key.raise s))
    | .pss =>
      isPssOf (key.bits - 1) message (Octets.ofNat ((key.bits - 1 + 7) / 8) (key.raise s))

end Rsa

end MessageSignatures
