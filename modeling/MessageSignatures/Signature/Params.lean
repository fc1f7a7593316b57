import MessageSignatures.Clock
import MessageSignatures.Component

/-!
# Signature parameters

Every signature declares what it covers and how it was made: the list of covered components, the
points in time at which it begins and ends to be valid, a nonce, the algorithm and the id of the
key.

* **Canonical text.** `SignatureParams.text` writes the parameters in one fixed order.
* **Received text.** Parameters that were read keep, in `received`, the member they were read from,
  written anew with its own order and with the parameters this library does not know. It is what the
  signature was made over, so `baseText` prefers it. A setter makes a change to what is declared and
  therefore drops it.
* **Reading.** `ofMember` reads a member of a dictionary or a list, `parse` a text.

The declared algorithm is a text, since received parameters may name one that is not supported.
-/

namespace MessageSignatures

open StructuredField (BareItem Member Parameters)

/-- **Signature parameters.** -/
structure SignatureParams where
  created : Timestamp
  expires : Option Timestamp
  nonce : Option String
  alg : String
  keyId : String
  covered : List ComponentId
  received : Option String
deriving DecidableEq

namespace SignatureParams

/-- **New parameters.** Components must not be repeated, and the key id must be printable and not
empty. -/
def new (covered : List ComponentId) (created : Timestamp) (alg : Algorithm) (keyId : String) :
    Except Error SignatureParams :=
  if ¬ covered.Nodup then .error (.params .repeatedComponent)
  else if keyId == "" || !Text.isPrintable keyId then .error (.params (.invalidKeyId keyId))
  else .ok ⟨created, none, none, alg.tag, keyId, covered, none⟩

/-- Declare the end of validity. -/
def setExpires (p : SignatureParams) (expires : Timestamp) : SignatureParams :=
  { p with expires := some expires, received := none }

/-- Declare the end of validity by its distance from the beginning. -/
def setExpiresAfter (p : SignatureParams) (seconds : UInt64) : SignatureParams :=
  p.setExpires (p.created.after seconds)

/-- Declare a nonce, which has to be printable. -/
def setNonce (p : SignatureParams) (nonce : String) : Except Error SignatureParams :=
  if Text.isPrintable nonce then .ok { p with nonce := some nonce, received := none }
  else .error (.params .invalidNonce)

/-- **Canonical text.** Covered components, `created`, `expires`, `nonce`, `alg` and `keyid`, in
this order. -/
def text (p : SignatureParams) : String :=
  "(" ++ " ".intercalate (p.covered.map ComponentId.text) ++ ");created=" ++ p.created.toNat.repr
    ++ (match p.expires with | some t => ";expires=" ++ t.toNat.repr | none => "")
    ++ (match p.nonce with | some n => ";nonce=" ++ StructuredField.quoted n | none => "")
    ++ ";alg=" ++ StructuredField.quoted p.alg ++ ";keyid=" ++ StructuredField.quoted p.keyId

/-- **Signed text.** What the signature base says of the parameters. -/
def baseText (p : SignatureParams) : String :=
  p.received.getD p.text

/-- The declared algorithm, if it is a supported one. -/
def declaredAlgorithm? (p : SignatureParams) : Option Algorithm :=
  Algorithm.ofTag? p.alg

/-- **Freshness.** A signature is valid from `created` to `expires`, both included. -/
def checkFreshness (p : SignatureParams) (now : Timestamp) : Except Error Unit :=
  if now < p.created then .error .notYetValid
  else
    match p.expires with
    | some t => if t < now then .error .expired else .ok ()
    | none => .ok ()

/-- The declarations of a member, as far as they have been read. -/
structure Declared where
  created : Option Timestamp := none
  expires : Option Timestamp := none
  nonce : Option String := none
  alg : Option String := none
  keyId : Option String := none

/-- A parameter that has to be a point in time. -/
def readTimestamp (name : String) : BareItem → Except HeaderFault Timestamp
  | .integer n => if 0 ≤ n then .ok (UInt64.ofNat n.toNat) else .error (.notTimestamp name)
  | _ => .error (.notTimestamp name)

/-- A parameter that has to be a string. -/
def readString (name : String) : BareItem → Except HeaderFault String
  | .string s => .ok s
  | _ => .error (.notString name)

/-- Take in one parameter. Unknown ones are passed over. -/
def Declared.add (d : Declared) (name : String) (value : BareItem) :
    Except HeaderFault Declared :=
  match name with
  | "created" => (readTimestamp name value).map fun t => { d with created := some t }
  | "expires" => (readTimestamp name value).map fun t => { d with expires := some t }
  | "nonce" => (readString name value).map fun s => { d with nonce := some s }
  | "alg" => (readString name value).map fun s => { d with alg := some s }
  | "keyid" => (readString name value).map fun s => { d with keyId := some s }
  | _ => .ok d

/-- A declaration that has to be there. -/
def required {α : Type} (name : String) : Option α → Except HeaderFault α
  | some a => .ok a
  | none => .error (.missing name)

/-- **Member.** The parameters that a member of a received header declares: first the components are
looked at, then the parameters in the order in which they came, then what is missing. -/
def ofMember : Member → Except HeaderFault SignatureParams
  | .item _ => .error .notInnerList
  | .innerList items params => do
    let covered ← (items.mapM ComponentId.ofItem).mapError .component
    if ¬ covered.Nodup then throw .repeatedComponent
    -- a parameter of the wrong kind is a fault even where another one is missing
    let declared ← params.entries.foldlM (fun d p => Declared.add d p.1 p.2) {}
    let created ← required "created" declared.created
    let alg ← required "alg" declared.alg
    let keyId ← required "keyid" declared.keyId
    return {
      created, expires := declared.expires, nonce := declared.nonce, alg, keyId, covered
      received := some (Member.innerList items params).text }

/-- **Text.** The parameters that a text declares, which has to be a single inner list. -/
def parse (s : String) : Except Error SignatureParams :=
  match StructuredField.parseList s with
  | none => .error (.malformedHeader .undecodableParams)
  | some [m] => (ofMember m).mapError .malformedHeader
  | some _ => .error (.malformedHeader .notSingle)

end SignatureParams

end MessageSignatures
