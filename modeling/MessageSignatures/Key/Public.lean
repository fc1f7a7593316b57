import MessageSignatures.Ed25519
import MessageSignatures.Key
import MessageSignatures.Key.Information
import MessageSignatures.Pem

/-!
# Public keys

Public keys of the five algorithms that have two keys, and how they are read.

* **Reading** takes the algorithm that the key is meant for. The key material of an elliptic curve
  is bound to one algorithm; an RSA key serves two, and the algorithm selects the padding.
* **Order of faults.** A document that cannot be read at all comes first. An RSA key is then read
  before the algorithm is looked at; other keys are read after.
-/

namespace MessageSignatures

/-- **Public key.** -/
inductive PublicKey where
  | rsa (padding : Rsa.Padding) (key : Rsa.PublicKey)
  | ecdsa (scheme : Ecdsa.Scheme) (x y : Nat)
  | ed25519 (octets : List UInt8)
deriving DecidableEq

namespace PublicKey

/-- The algorithm of a key. -/
def alg : PublicKey → Algorithm
  | rsa padding _ => padding.algorithm
  | ecdsa scheme _ _ => scheme.algorithm
  | ed25519 _ => .ed25519

/-- Whether a key accepts a signature over a message. -/
def accepts : PublicKey → (message signature : List UInt8) → Bool
  | rsa padding key => key.accepts padding
  | ecdsa scheme x y => scheme.accepts x y
  | ed25519 octets => Ed25519.accepts octets

/-- The key as a verifying key. -/
def verifyingKey (key : PublicKey) : VerifyingKey :=
  ⟨key.alg, key.accepts⟩

/-- Octets in an Ed25519 public key. -/
def ed25519Octets : Nat := 32

/-- **Key information.** The key that the information holds, for an algorithm. -/
def ofInfo (alg : Algorithm) (info : PublicKeyInfo) : Except KeyFault PublicKey :=
  match info.algorithm.kind? with
  | none => .error .unsupportedKind
  | some .rsa => do
    -- RSA material does not tell the padding, so it is read before the algorithm is looked at
    let key ← KeyFault.undecodable.unlessSome info.rsaPublicKey?
    let padding ← (KeyFault.rsaFor alg).unlessSome (Rsa.Padding.ofAlgorithm? alg)
    return rsa padding key
  | some .ec => do
    let curve ← KeyFault.undecodable.unlessSome info.algorithm.parameterArcs?
    let octets ← KeyFault.wrongPublicKeyLength.unlessSome info.key.whole?
    let scheme ← KeyFault.unsupportedCurve.unlessSome (curveScheme? curve)
    KeyFault.unlessBound scheme.algorithm alg
    let (x, y) ← KeyFault.undecodable.unlessSome (scheme.curve.decodePoint octets)
    return ecdsa scheme x y
  | some .ed25519 => do
    KeyFault.unlessBound .ed25519 alg
    let octets ← KeyFault.wrongPublicKeyLength.unlessSome info.key.whole?
    if octets.length ≠ ed25519Octets then throw .wrongPublicKeyLength
    return ed25519 octets

/-- **Document.** The key in a document, for an algorithm. -/
def ofDer (alg : Algorithm) (bs : List UInt8) : Except Error PublicKey :=
  match PublicKeyInfo.ofDer bs with
  | none => .error (.publicKey .undecodablePublicInfo)
  | some info => (ofInfo alg info).mapError .publicKey

/-- The label of the text encoding. -/
def pemLabel : String := "PUBLIC KEY"

/-- **Text.** The key in a text, for an algorithm. The text has to be well-formed before its label
is looked at. -/
def ofPem (alg : Algorithm) (s : String) : Except Error PublicKey :=
  match Pem.decodeSequence s with
  | none => .error (.publicKey .undecodable)
  | some (label, bs) =>
    if label = pemLabel then ofDer alg bs else .error (.publicKey .wrongLabel)

end PublicKey

end MessageSignatures
