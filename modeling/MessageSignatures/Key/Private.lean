import MessageSignatures.Key.Public

/-!
# Private keys

Private keys of the five algorithms that have two keys, how they are read, and how they sign.

* **Reading** takes the algorithm that the key is meant for, as for public keys. All Ed25519 seeds
  of 32 octets are taken, zeros as well: a library that stops the program at a weak seed is not
  modelled.
* **Signing.** The salt of a PSS signature and the noise of an Ed25519 signature are drawn at
  random. The other signatures are deterministic.
* **Public half.** `PrivateKey.publicKey` derives the key that accepts the signatures.
-/

namespace MessageSignatures

/-- **Private key.** -/
inductive PrivateKey where
  | rsa (padding : Rsa.Padding) (key : Rsa.PrivateKey)
  | ecdsa (scheme : Ecdsa.Scheme) (scalar : Nat)
  | ed25519 (seed : List UInt8)
deriving DecidableEq

namespace PrivateKey

/-- The algorithm of a key. -/
def alg : PrivateKey → Algorithm
  | rsa padding _ => padding.algorithm
  | ecdsa scheme _ => scheme.algorithm
  | ed25519 _ => .ed25519

/-- **Public half.** -/
def publicKey : PrivateKey → PublicKey
  | rsa padding key => .rsa padding key.publicKey
  | ecdsa scheme scalar =>
    let c := scheme.curve
    -- a scalar in range never gives the neutral point
    let (x, y) := (c.affine? (c.multiply scalar c.base)).getD (0, 0)
    .ecdsa scheme x y
  | ed25519 seed => .ed25519 (Ed25519.publicKey seed)

theorem alg_publicKey (key : PrivateKey) : key.publicKey.alg = key.alg := by
  cases key <;> rfl

/-- **Signing** a message. -/
def sign : PrivateKey → Entropy → (message : List UInt8) → Except SigningFault (List UInt8)
  | rsa padding key, entropy, message => key.sign padding (entropy.take Rsa.saltOctets) message
  | ecdsa scheme scalar, _, message => scheme.sign scalar message
  | ed25519 seed, entropy, message =>
    .ok (Ed25519.sign seed (entropy.take Ed25519.noiseOctets) message)

/-- The key as a signing key. -/
def signingKey (key : PrivateKey) : SigningKey where
  alg := key.alg
  sign := key.sign

/-- The key as a verifying key, which accepts what its public half accepts. -/
def verifyingKey (key : PrivateKey) : VerifyingKey :=
  key.publicKey.verifyingKey

/-- The scalar that octets write: a unit modulo the order, in no more octets than the field has and
in no less than 24. -/
def scalarOf? (c : EllipticCurve.Curve) (octets : List UInt8) : Option Nat :=
  let scalar := Octets.toNat octets
  if 24 ≤ octets.length && octets.length ≤ c.octets && 0 < scalar && scalar < c.n then some scalar
  else none

/-- **Seed** of an Ed25519 key: what follows two octets, a tag and a length, which are not looked
at. -/
def seedOf (octets : List UInt8) : Except KeyFault (List UInt8) :=
  if octets.length = 34 then .ok (octets.drop 2) else .error .wrongSeedLength

/-- **Key information.** The key that the information holds, for an algorithm. -/
def ofInfo (alg : Algorithm) (info : PrivateKeyInfo) : Except KeyFault PrivateKey :=
  match info.algorithm.kind? with
  | none => .error .unsupportedKind
  | some .rsa => do
    let key ← KeyFault.undecodable.unlessSome info.rsaPrivateKey?
    let padding ← (KeyFault.rsaFor alg).unlessSome (Rsa.Padding.ofAlgorithm? alg)
    return rsa padding key
  | some .ec => do
    let curve ← KeyFault.undecodable.unlessSome info.algorithm.parameterArcs?
    let octets ← KeyFault.undecodableEcKey.unlessSome info.ecScalar?
    -- the curve of the algorithm identifier counts, not the one beside the scalar
    let scheme ← KeyFault.unsupportedCurve.unlessSome (curveScheme? curve)
    KeyFault.unlessBound scheme.algorithm alg
    let scalar ← KeyFault.undecodable.unlessSome (scalarOf? scheme.curve octets)
    return ecdsa scheme scalar
  | some .ed25519 => do
    KeyFault.unlessBound .ed25519 alg
    let seed ← seedOf info.key
    return ed25519 seed

/-- **Document.** The key in a document, for an algorithm. -/
def ofDer (alg : Algorithm) (bs : List UInt8) : Except Error PrivateKey :=
  match PrivateKeyInfo.ofDer bs with
  | none => .error (.privateKey .undecodable)
  | some info => (ofInfo alg info).mapError .privateKey

/-- The label of the text encoding. -/
def pemLabel : String := "PRIVATE KEY"

/-- **Text.** The key in a text, for an algorithm. The text has to be well-formed before its label
is looked at. -/
def ofPem (alg : Algorithm) (s : String) : Except Error PrivateKey :=
  match Pem.decodeSequence s with
  | none => .error (.privateKey .undecodable)
  | some (label, bs) =>
    if label = pemLabel then ofDer alg bs else .error (.privateKey .wrongLabel)

end PrivateKey

end MessageSignatures
