import MessageSignatures.Entropy
import MessageSignatures.Error

/-!
# Keys

What a signer and a verifier need of a key, whatever kind of key it is.

* A **signing key** has an algorithm, may supply a nonce for every signature, and signs octets. Both
  may draw on randomness.
* A **verifying key** has an algorithm and accepts a signature over octets or does not. It gives no
  reason for what it does not accept.

`SigningKey.withRandomNonce` makes a key supply fresh nonces, `SigningKey.withNonce` one and the
same.
-/

namespace MessageSignatures

/-- **Signing key.** -/
structure SigningKey where
  alg : Algorithm
  nonce : Entropy → Option String := fun _ => none
  sign : Entropy → List UInt8 → Except SigningFault (List UInt8)

/-- **Verifying key.** -/
structure VerifyingKey where
  alg : Algorithm
  accepts : (message signature : List UInt8) → Bool

namespace SigningKey

/-- Octets in a random nonce. -/
def nonceOctets : Nat := 32

/-- The key, with a fresh nonce for every signature. -/
def withRandomNonce (key : SigningKey) : SigningKey where
  alg := key.alg
  nonce := fun e => some (Base64.encode (e.take nonceOctets))
  sign := fun e => key.sign (e.drop nonceOctets)

/-- The key, with one nonce for all signatures. -/
def withNonce (key : SigningKey) (nonce : String) : SigningKey :=
  { key with nonce := fun _ => some nonce }

/-- A key that refuses to sign. -/
def refusing (alg : Algorithm) (reason : String) : SigningKey where
  alg := alg
  sign := fun _ _ => .error (.refused reason)

end SigningKey

/-- **Verification** as a check that may fail. -/
def VerifyingKey.verify (key : VerifyingKey) (message signature : List UInt8) : Except Error Unit :=
  if key.accepts message signature then .ok () else .error .invalidSignature

end MessageSignatures
