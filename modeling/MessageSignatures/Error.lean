import MessageSignatures.Algorithm
import MessageSignatures.StructuredField.Printer
import MessageSignatures.Text.Spelled

/-!
# What can go wrong

One type of errors for the whole library, by cause. Each group of causes has a type of its own:

* `ComponentFault` — a component identifier is refused.
* `KeyFault` — key material is refused.
* `ParamsFault` — signature parameters cannot be written as structured fields.
* `HeaderFault` — a received header is refused.
* `ConfigFault` — a signer or verifier cannot be built.
* `SigningFault` — a key could not sign.

`Error.message` is the wording. Where text or key material cannot be decoded at all, the wording
ends in the decoder's complaint; this library does not phrase such complaints, so the caller of
`message` supplies it as `detail`.
-/

namespace MessageSignatures

open StructuredField (BareItem)

/-- **Component faults.** Why a component identifier is refused. -/
inductive ComponentFault where
  /-- The text is no structured-field item. -/
  | undecodable
  /-- The item has parameters. -/
  | hasParameters
  /-- The item is no string. -/
  | notString (item : BareItem)
  /-- The name begins with `@` and is none of the derived components. -/
  | unknownDerived (name : String)
  /-- The name is no field name. -/
  | invalidFieldName (name : String)
deriving DecidableEq

/-- The wording of a component fault. -/
def ComponentFault.message (detail : String) : ComponentFault → String
  | undecodable => "Invalid http message component id: " ++ detail
  | hasParameters =>
    "Invalid http message component id: Component parameters are not supported"
  | notString item =>
    "Invalid http message component id: Invalid http message component id: " ++ item.describe
  | unknownDerived name =>
    "Invalid http message component id: Unsupported derived component: " ++ name
  | invalidFieldName name => "Invalid http message component id: Invalid http field name: " ++ name

/-- **Key faults.** Why key material is refused. -/
inductive KeyFault where
  /-- The encoding is malformed, or a number in it is out of range. -/
  | undecodable
  /-- The elliptic-curve key inside a private key is malformed. -/
  | undecodableEcKey
  /-- The public key information is malformed. -/
  | undecodablePublicInfo
  /-- The label of the text encoding is another one. -/
  | wrongLabel
  /-- The elliptic curve is not supported. -/
  | unsupportedCurve
  /-- The kind of key is not supported. -/
  | unsupportedKind
  /-- The material is an RSA key and another kind of algorithm was asked for. -/
  | rsaFor (requested : Algorithm)
  /-- The material is bound to another algorithm than the one asked for. -/
  | boundTo (found requested : Algorithm)
  /-- The seed of an Ed25519 key has the wrong length. -/
  | wrongSeedLength
  /-- The public key has the wrong length, or is no whole number of octets. -/
  | wrongPublicKeyLength
deriving DecidableEq

/-- The wording of a key fault. -/
def KeyFault.message (detail : String) : KeyFault → String
  | undecodable => detail
  | undecodableEcKey => "Error decoding EcPrivateKey: " ++ detail
  | undecodablePublicInfo => "Error decoding SubjectPublicKeyInfo: " ++ detail
  | wrongLabel => "Invalid tag"
  | unsupportedCurve => "Unsupported curve"
  | unsupportedKind => "Unsupported algorithm that supports PEM format keys"
  | rsaFor requested => "RSA key cannot be used for " ++ requested.tag
  | boundTo found requested => "key material is for " ++ found.tag ++ ", not " ++ requested.tag
  | wrongSeedLength => "Invalid Ed25519 private key"
  | wrongPublicKeyLength => "Invalid public key"

/-- **Parameter faults.** Why signature parameters are refused. -/
inductive ParamsFault where
  /-- A component is covered twice. -/
  | repeatedComponent
  /-- The key id is empty or not printable. -/
  | invalidKeyId (keyId : String)
  /-- The nonce is not printable. -/
  | invalidNonce
deriving DecidableEq

/-- The wording of a parameter fault. -/
def ParamsFault.message : ParamsFault → String
  | repeatedComponent => "duplicate covered component ids"
  | invalidKeyId keyId => "invalid keyid: " ++ Text.spelled keyId
  | invalidNonce => "invalid nonce"

/-- **Header faults.** Why a received header is refused. -/
inductive HeaderFault where
  /-- The text of signature parameters is no structured-field list. -/
  | undecodableParams
  /-- The `signature-input` header is no dictionary. -/
  | undecodableSignatureInput
  /-- The `signature` header is no dictionary. -/
  | undecodableSignature
  /-- The text of signature parameters is not exactly one member. -/
  | notSingle
  /-- Signature parameters are an item and no inner list. -/
  | notInnerList
  /-- A covered component is refused. -/
  | component (fault : ComponentFault)
  /-- A component is covered twice. -/
  | repeatedComponent
  /-- A parameter is no point in time. -/
  | notTimestamp (name : String)
  /-- A parameter is no string. -/
  | notString (name : String)
  /-- A parameter is missing. -/
  | missing (name : String)
  /-- A signature is no octet string. -/
  | notOctets (label : String)
deriving DecidableEq

/-- The wording of a header fault. -/
def HeaderFault.message (detail : String) : HeaderFault → String
  | undecodableParams => detail
  | undecodableSignatureInput => "signature-input: " ++ detail
  | undecodableSignature => "signature: " ++ detail
  | notSingle => "signature params must be a single inner list"
  | notInnerList => "signature params must be an inner list"
  | component fault => fault.message detail
  | repeatedComponent => "duplicate covered component ids"
  | notTimestamp name => "`" ++ name ++ "` must be a non-negative integer"
  | notString name => "`" ++ name ++ "` must be a string"
  | missing name => "`" ++ name ++ "` is required"
  | notOctets label => "signature `" ++ label ++ "` must be a byte sequence"

/-- **Configuration faults.** Why a key store, a signer or a verifier cannot be built. -/
inductive ConfigFault where
  /-- A key id is empty. -/
  | emptyKeyId
  /-- A signer has no key. -/
  | noSigningKey
  /-- A signer's key id is not printable. -/
  | unprintableKeyId (keyId : String)
  /-- A verifier has neither a key nor a resolver. -/
  | noVerifyingKey
deriving DecidableEq

/-- The wording of a configuration fault. -/
def ConfigFault.message : ConfigFault → String
  | emptyKeyId => "key id must not be empty"
  | noSigningKey => "at least one signing key is required"
  | unprintableKeyId keyId => "key id must be printable ASCII: " ++ Text.spelled keyId
  | noVerifyingKey => "at least one verifying key or a resolver is required"

/-- **Signing faults.** Why a key could not sign. -/
inductive SigningFault where
  /-- The computation failed, as with a modulus too small for the hash. -/
  | computation
  /-- The key refuses to sign. -/
  | refused (reason : String)
deriving DecidableEq

/-- The wording of a signing fault. -/
def SigningFault.message (detail : String) : SigningFault → String
  | computation => detail
  | refused reason => reason

/-- **Errors.** -/
inductive Error where
  /-- A shared key is no base64. -/
  | undecodableSharedKey
  /-- Private key material is refused. -/
  | privateKey (fault : KeyFault)
  /-- Public key material is refused. -/
  | publicKey (fault : KeyFault)
  /-- A tag names no algorithm. -/
  | unknownAlgorithm (tag : String)
  /-- A key could not sign. -/
  | signing (fault : SigningFault)
  /-- A signature is not accepted. The error carries no detail, on purpose. -/
  | invalidSignature
  /-- A component identifier is refused. -/
  | componentId (fault : ComponentFault)
  /-- The request has no value for a covered component. -/
  | missingComponent (name : String)
  /-- The request has a value for a covered component that is no text. -/
  | unreadableComponent (name : String)
  /-- Signature parameters are refused. -/
  | params (fault : ParamsFault)
  /-- A received header is refused. -/
  | malformedHeader (fault : HeaderFault)
  /-- The request carries no signature, or none under the label that was looked up. -/
  | missingSignature
  /-- The body is not the one that the digest was taken of. -/
  | digestMismatch
  /-- No signature names a known key. -/
  | unknownKeyId
  /-- The declared algorithm is not the algorithm of the key. -/
  | algorithmMismatch (declared : String) (actual : Algorithm)
  /-- The signature was made later than now. -/
  | notYetValid
  /-- The signature is past its end. -/
  | expired
  /-- Two keys have one id. -/
  | duplicateKeyId (keyId : String)
  /-- A key store, a signer or a verifier cannot be built. -/
  | config (fault : ConfigFault)
  /-- The body of a request cannot be read. -/
  | body (reason : String)
deriving DecidableEq

/-- **Wording** of an error. `detail` stands for the complaint of a decoder. -/
def Error.message (detail : String) : Error → String
  | undecodableSharedKey => "Base64 decode error: " ++ detail
  | privateKey fault => "Failed to parse private key: " ++ fault.message detail
  | publicKey fault => "Failed to parse public key: " ++ fault.message detail
  | unknownAlgorithm tag => "Invalid algorithm name: " ++ tag
  | signing fault => "Failed to sign: " ++ fault.message detail
  | invalidSignature => "Invalid signature"
  | componentId fault => fault.message detail
  | missingComponent name => "Missing http message component: " ++ name
  | unreadableComponent name =>
    "Missing http message component: " ++ name ++ " (value is not visible ASCII)"
  | params fault => "Invalid signature params: " ++ fault.message
  | malformedHeader fault => "Malformed header: " ++ fault.message detail
  | missingSignature => "Missing signature"
  | digestMismatch => "Content-Digest mismatch"
  | unknownKeyId => "Unknown key id"
  | algorithmMismatch declared actual =>
    "Algorithm mismatch: declared " ++ declared ++ ", key is " ++ actual.tag
  | notYetValid => "Signature is not yet valid"
  | expired => "Signature expired"
  | duplicateKeyId keyId => "Duplicate key id: " ++ keyId
  | config fault => "Invalid configuration: " ++ fault.message
  | body reason => "Failed to read body: " ++ reason

end MessageSignatures
