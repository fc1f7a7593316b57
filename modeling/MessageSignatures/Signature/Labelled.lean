import MessageSignatures.Key
import MessageSignatures.Signature.Base

/-!
# Labelled signatures

A request can carry several signatures. Each has a label, which names its member in two headers:
`signature-input` with the parameters, and `signature` with the octets.

* **Writing.** `LabelledSignature.inputText` and `LabelledSignature.signatureText` are the two
  members.
* **Reading.** `parseSignatureInput` and `parseSignatures` read a whole header, in the order of the
  labels; every member has to be well-formed. `parseSignature` reads one label and looks at no
  other.
-/

namespace MessageSignatures

open StructuredField (Member)

/-- **Labelled signature.** -/
structure LabelledSignature where
  label : String
  params : SignatureParams
  signature : List UInt8
deriving DecidableEq

namespace LabelledSignature

/-- The member of the `signature-input` header. -/
def inputText (s : LabelledSignature) : String :=
  s.label ++ "=" ++ s.params.text

/-- The member of the `signature` header. -/
def signatureText (s : LabelledSignature) : String :=
  s.label ++ "=" ++ StructuredField.octetsText s.signature

end LabelledSignature

namespace SignatureBase

/-- **Signing** the base under a label. -/
def sign (b : SignatureBase) (key : SigningKey) (entropy : Entropy) (label : String) :
    Except Error LabelledSignature :=
  match key.sign entropy b.octets with
  | .ok signature => .ok ⟨label, b.params, signature⟩
  | .error fault => .error (.signing fault)

/-- **Verifying** a signature over the base. -/
def verify (b : SignatureBase) (key : VerifyingKey) (signature : List UInt8) : Except Error Unit :=
  key.verify b.octets signature

end SignatureBase

/-- **Signature parameters by label**, in the order of the header. -/
def parseSignatureInput (s : String) : Except Error (OrderedMap SignatureParams) :=
  match StructuredField.parseDictionary s with
  | none => .error (.malformedHeader .undecodableSignatureInput)
  | some d => (d.traverse fun _ m => SignatureParams.ofMember m).mapError .malformedHeader

/-- The octets of the signature in a member. -/
def signatureOctets (label : String) : Member → Except Error (List UInt8)
  | .item ⟨.octets bs, _⟩ => .ok bs
  | _ => .error (.malformedHeader (.notOctets label))

/-- **Signatures by label**, in the order of the header. -/
def parseSignatures (s : String) : Except Error (OrderedMap (List UInt8)) :=
  match StructuredField.parseDictionary s with
  | none => .error (.malformedHeader .undecodableSignature)
  | some d => d.traverse signatureOctets

/-- **The signature under one label.** -/
def parseSignature (s label : String) : Except Error (List UInt8) :=
  match StructuredField.parseDictionary s with
  | none => .error (.malformedHeader .undecodableSignature)
  | some d =>
    match d.get? label with
    | some m => signatureOctets label m
    | none => .error .missingSignature

end MessageSignatures
