import MessageSignatures.Http.Request
import MessageSignatures.Signer
import MessageSignatures.Verifier

/-!
# Signing and verifying HTTP requests

The operations of signers and verifiers on requests as they are sent.

* `Request.sign` and `Request.verify` read the body once and hand on a request whose body is known
  as a whole. A request that cannot be signed is given up as it is.
* `Request.signatureParams` and `Request.declaredKeys` tell what signatures a request declares,
  without verifying any.
* `Request.setContentDigest` and `Request.verifyContentDigest` are about the digest alone. A request
  without a digest does not match.
-/

namespace MessageSignatures

namespace Http

/-- **Errors** on HTTP requests. -/
inductive Error where
  /-- The request declares no signature. -/
  | noSignatureInput
  /-- A header value that is needed is no text. -/
  | unreadableHeader
  /-- A text cannot be a header value. -/
  | invalidHeaderValue
  /-- Signing or verifying failed. -/
  | signature (error : MessageSignatures.Error)
deriving DecidableEq

/-- **Wording** of an error. `detail` stands for the complaint of a decoder. -/
def Error.message (detail : String) : Error → String
  | noSignatureInput =>
    "No signature headers found: The request does not have signature-input header"
  | unreadableHeader => "Failed to stringify header value: " ++ detail
  | invalidHeaderValue => "Failed to parse header value: " ++ detail
  | signature error => "ReqSigError: " ++ error.message detail

/-- The values of a field, joined. Each has to be a text. -/
def joinedValues (hs : Headers) (name : FieldName) : Except Error String :=
  match (hs.valuesOf name).mapM HeaderValue.text? with
  | some values => .ok (", ".intercalate values)
  | none => .error .unreadableHeader

/-- A text as a header value. -/
def headerValue (s : String) : Except Error HeaderValue :=
  match HeaderValue.ofText? s with
  | some value => .ok value
  | none => .error .invalidHeaderValue

namespace Request

/-- The whole body of a request. -/
def readBody (r : Request) : Except Error (List UInt8) :=
  r.body.read.mapError fun reason => .signature (.body reason)

/-- **Signing** a request. Nothing is put on it before every value has been made. -/
def sign (r : Request) (s : Signer) (now : Timestamp) (entropy : Nat → Entropy) :
    Except Error Request := do
  let body ← r.readBody
  let signed ← (s.sign now entropy (r.view body)).mapError .signature
  -- every value is made before a header is replaced
  let digest ← headerValue signed.contentDigest
  let input ← headerValue signed.inputText
  let signature ← headerValue signed.signatureText
  let headers := ((r.headers.set .contentDigest digest).set .signatureInput input).set .signature
    signature
  return { r with headers, body := .ofOctets body }

/-- **Verifying** a request. The result is the request with the id of the key it was signed with. -/
def verify (r : Request) (v : Verifier) (now : Timestamp) : Except Error (Request × String) := do
  let body ← r.readBody
  let keyId ← (v.verify now (r.view body)).mapError .signature
  return ({ r with body := .ofOctets body }, keyId)

/-- Whether a request has both headers of a signature. -/
def hasSignature (r : Request) : Bool :=
  r.headers.has .signature && r.headers.has .signatureInput

/-- **The parameters of all signatures** by label, in the order of the header. -/
def signatureParams (r : Request) : Except Error (OrderedMap SignatureParams) := do
  if !r.headers.has .signatureInput then throw .noSignatureInput
  let input ← joinedValues r.headers .signatureInput
  (parseSignatureInput input).mapError .signature

/-- **The keys of all signatures**: for each label the declared algorithm, if it is a supported one,
and the key id. -/
def declaredKeys (r : Request) : Except Error (List (String × Option Algorithm × String)) :=
  r.signatureParams.map fun params =>
    params.entries.map fun (label, p) => (label, p.declaredAlgorithm?, p.keyId)

/-- **Setting the digest** of the body, in place of any there was. -/
def setContentDigest (r : Request) : Except Error Request := do
  let body ← r.readBody
  let digest ← headerValue (ContentDigest.compute body)
  return { r with headers := r.headers.set .contentDigest digest, body := .ofOctets body }

/-- **Checking the digest.** The header is looked at before the body is read. -/
def verifyContentDigest (r : Request) : Except Error Bool := do
  let value ← joinedValues r.headers .contentDigest
  -- no digest, no match: the body does not matter then
  if value = "" then return false
  let body ← r.readBody
  return ContentDigest.verify body value

end Request

end Http

end MessageSignatures
