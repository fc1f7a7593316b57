import MessageSignatures.Hmac
import MessageSignatures.Key
import MessageSignatures.Sha2

/-!
# Shared keys

A secret that signs and verifies alike, by HMAC with SHA-256. A signature is accepted only as a
whole: a cut one is not.
-/

namespace MessageSignatures

/-- **Shared key.** Any octets will do. -/
structure SharedKey where
  secret : List UInt8
deriving DecidableEq

namespace SharedKey

/-- The key that a base64 text holds. -/
def ofBase64 (s : String) : Except Error SharedKey :=
  match Base64.decode s with
  | some secret => .ok ⟨secret⟩
  | none => .error .undecodableSharedKey

/-- The authentication code of a message. -/
def code (key : SharedKey) (message : List UInt8) : List UInt8 :=
  Hmac.code Sha2.sha256 64 key.secret message

/-- The key as a signing key. -/
def signingKey (key : SharedKey) : SigningKey where
  alg := .hmacSha256
  sign := fun _ message => .ok (key.code message)

/-- The key as a verifying key. -/
def verifyingKey (key : SharedKey) : VerifyingKey where
  alg := .hmacSha256
  accepts := fun message signature => signature == key.code message

end SharedKey

end MessageSignatures
