import MessageSignatures.ContentDigest
import MessageSignatures.KeyStore
import MessageSignatures.Signature.Labelled

/-!
# Verifiers

A verifier checks one signature of a request: the first whose key it knows. Signatures before it are
passed over, signatures after it are never looked at.

* **Keys** come from a store; for an id that is not there, a resolver may supply one, given the
  declared algorithm.
* **Stages.** Verifying reads the parameters, selects a signature, compares the declared algorithm
  with that of the key, compares the time of validity with the present, rebuilds the signature base,
  reads the signature, and asks the key. The first stage that fails gives the error.
* **Digest.** `Verifier.verify` then compares the body with the `content-digest` fields, if there
  are any.
-/

namespace MessageSignatures

/-- **Resolver.** Supplies the key of an id and a declared algorithm. -/
abbrev KeyResolver := (keyId declaredAlg : String) → Option VerifyingKey

/-- **Configuration of a verifier.** -/
structure VerifierConfig where
  keys : List (String × VerifyingKey)
  resolver : Option KeyResolver := none

/-- **Verifier.** -/
structure Verifier where
  keys : KeyStore VerifyingKey
  resolver : Option KeyResolver

/-- **Building a verifier.** There has to be a key or a resolver. -/
def VerifierConfig.build (c : VerifierConfig) : Except Error Verifier :=
  match KeyStore.ofList c.keys with
  | .error e => .error e
  | .ok keys =>
    if keys.isEmpty && c.resolver.isNone then .error (.config .noVerifyingKey)
    else .ok ⟨keys, c.resolver⟩

/-- **Selection.** A signature to check, with its key. -/
structure Selection where
  label : String
  params : SignatureParams
  key : VerifyingKey

namespace Verifier

/-- **Known keys.** The key of an id: from the store, or else from the resolver. -/
def keyFor? (r : Verifier) (keyId declaredAlg : String) : Option VerifyingKey :=
  r.keys.get? keyId <|> r.resolver.bind fun resolve => resolve keyId declaredAlg

/-- The first signature with a known key. -/
def select? (r : Verifier) : List (String × SignatureParams) → Option Selection
  | [] => none
  | (label, params) :: rest =>
    match r.keyFor? params.keyId params.alg with
    | some key => some ⟨label, params, key⟩
    | none => r.select? rest

/-- The signatures that a request declares, in order. -/
def declared (v : RequestView) : Except Error (List (String × SignatureParams)) :=
  match v.headerValues .signatureInput with
  | [] => .error .missingSignature
  | lines =>
    match parseSignatureInput (", ".intercalate lines) with
    | .error e => .error e
    | .ok inputs => if inputs.isEmpty then .error .missingSignature else .ok inputs.entries

/-- The octets of the signature under a label. -/
def signatureOf (v : RequestView) (label : String) : Except Error (List UInt8) :=
  match v.headerValues .signature with
  | [] => .error .missingSignature
  | lines => parseSignature (", ".intercalate lines) label

/-- **Checking** a selected signature. -/
def check (now : Timestamp) (v : RequestView) (s : Selection) : Except Error Unit := do
  -- the key decides the algorithm; what is declared may only agree
  if s.params.alg ≠ s.key.alg.tag then throw (.algorithmMismatch s.params.alg s.key.alg)
  s.params.checkFreshness now
  -- a component without a value is told before a missing signature
  let base ← SignatureBase.build v s.params
  let signature ← signatureOf v s.label
  base.verify s.key signature

/-- **Verifying the signature** of a request. The result is the id of the key it was made with. -/
def verifySignature (r : Verifier) (now : Timestamp) (v : RequestView) : Except Error String := do
  let inputs ← declared v
  match r.select? inputs with
  | none => throw .unknownKeyId
  | some s =>
    check now v s
    return s.params.keyId

/-- Whether the digest on a request, if it carries one, is the digest of its body. -/
def digestMatches (v : RequestView) : Bool :=
  match v.headerValues .contentDigest with
  | [] => true
  | lines => ContentDigest.verify v.body (", ".intercalate lines)

/-- **Verifying** the signature of a request, and then its digest. -/
def verify (r : Verifier) (now : Timestamp) (v : RequestView) : Except Error String := do
  let keyId ← r.verifySignature now v
  if digestMatches v then return keyId else throw .digestMismatch

end Verifier

end MessageSignatures
