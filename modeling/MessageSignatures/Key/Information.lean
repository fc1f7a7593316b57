import MessageSignatures.Der
import MessageSignatures.Ecdsa
import MessageSignatures.Rsa

/-!
# Key information

The two documents in which keys are exchanged: `PrivateKeyInfo` and `PublicKeyInfo`. Both name the
kind of the key by an algorithm identifier and hold the key in a form of its kind.

* **Kinds.** `AlgorithmId.kind?` compares object identifiers by their arcs.
* **Forms.** `rsaPrivateKey?` and `rsaPublicKey?` read keys of numbers; they hold their kind to the
  exact octets of its identifier, with null parameters. `ecScalar?` reads the octets of a private
  scalar; what else its form says of curve and public key is read and passed over.
-/

namespace MessageSignatures

open Der (BitString Element)

/-- **Kind of key.** -/
inductive KeyKind where
  | rsa
  | ec
  | ed25519
deriving DecidableEq, Repr

/-- **Algorithm identifier.** The octets and the arcs of an object identifier, and parameters. -/
structure AlgorithmId where
  octets : List UInt8
  arcs : List Nat
  parameters : Option Element
deriving DecidableEq

namespace AlgorithmId

/-- The algorithm identifier in an element. -/
def ofElement (e : Element) : Option AlgorithmId := do
  match ← e.elementsOf? Der.Tag.sequence with
  | [id] => return ⟨id.content, ← id.arcs?, none⟩
  | [id, parameters] => return ⟨id.content, ← id.arcs?, some parameters⟩
  | _ => none

/-- The kind of key. -/
def kind? (a : AlgorithmId) : Option KeyKind :=
  if a.arcs = [1, 2, 840, 113549, 1, 1, 1] then some .rsa
  else if a.arcs = [1, 2, 840, 10045, 2, 1] then some .ec
  else if a.arcs = [1, 3, 101, 112] then some .ed25519
  else none

/-- The arcs that the parameters hold. -/
def parameterArcs? (a : AlgorithmId) : Option (List Nat) :=
  a.parameters.bind Element.arcs?

/-- Whether these are the exact octets of the identifier of RSA keys. -/
def isExactRsa (a : AlgorithmId) : Bool :=
  a.octets == [0x2A, 0x86, 0x48, 0x86, 0xF7, 0x0D, 0x01, 0x01, 0x01]
    && a.parameters == some ⟨Der.Tag.null, []⟩

end AlgorithmId

/-- The scheme that goes with a curve. -/
def curveScheme? (arcs : List Nat) : Option Ecdsa.Scheme :=
  if arcs = [1, 2, 840, 10045, 3, 1, 7] then some .p256
  else if arcs = [1, 3, 132, 0, 34] then some .p384
  else none

/-- **Private key information.** -/
structure PrivateKeyInfo where
  algorithm : AlgorithmId
  key : List UInt8
deriving DecidableEq

namespace PrivateKeyInfo

/-- Whether an element may stand after all that is known: one other element, under some number. -/
def isExtension (e : Element) : Bool :=
  Der.Tag.isContextual e.tag && Der.Tag.isConstructed e.tag && (Der.whole? e.content).isSome

/-- **Reading.** A document of version 0 holds no public key, one of version 1 does. -/
def ofDer (bs : List UInt8) : Option PrivateKeyInfo := do
  match ← (← Der.whole? bs).elementsOf? Der.Tag.sequence with
  | version :: algorithm :: key :: rest =>
    let version ← version.natural?
    let algorithm ← AlgorithmId.ofElement algorithm
    let key ← key.contentOf? Der.Tag.octetString
    -- attributes have the number 0 and are passed over
    let (publicKey, extensions) := Der.takeNumbered 1 rest
    match version, publicKey with
    | 0, none => pure ()
    | 1, some e =>
      let _ ← (← BitString.ofContent (← e.contentOf? (Der.Tag.primitive 1))).whole?
    | _, _ => none
    if extensions.all isExtension then some ⟨algorithm, key⟩ else none
  | _ => none

/-- The RSA key in the information, if its numbers fit together. -/
def rsaPrivateKey? (info : PrivateKeyInfo) : Option Rsa.PrivateKey := do
  if info.algorithm.isExactRsa then
    let numbers ← (← (← Der.whole? info.key).elementsOf? Der.Tag.sequence).mapM Element.natural?
    match numbers with
    -- the last three follow from the others
    | [version, modulus, publicExponent, privateExponent, prime1, prime2, _, _, _] =>
      let key : Rsa.PrivateKey := { modulus, publicExponent, privateExponent, prime1, prime2 }
      if version = 0 && key.isSound then some key else none
    | _ => none
  else none

/-- The octets of the private scalar in the information. -/
def ecScalar? (info : PrivateKeyInfo) : Option (List UInt8) := do
  match ← (← Der.whole? info.key).elementsOf? Der.Tag.sequence with
  | version :: key :: rest =>
    let version ← version.natural?
    let key ← key.contentOf? Der.Tag.octetString
    -- both are optional and have to be well-formed
    let (curve, rest) := Der.takeNumbered 0 rest
    let (publicKey, rest) := Der.takeNumbered 1 rest
    let isCurve (e : Element) :=
      ((e.contentOf? (Der.Tag.constructed 0)).bind Der.whole?).bind Element.arcs? |>.isSome
    let isPublicKey (e : Element) :=
      ((e.contentOf? (Der.Tag.constructed 1)).bind Der.whole?).bind Element.wholeBits? |>.isSome
    if version = 1 && curve.all isCurve && publicKey.all isPublicKey && rest = [] then some key
    else none
  | _ => none

end PrivateKeyInfo

/-- **Public key information.** -/
structure PublicKeyInfo where
  algorithm : AlgorithmId
  key : BitString
deriving DecidableEq

namespace PublicKeyInfo

/-- **Reading.** -/
def ofDer (bs : List UInt8) : Option PublicKeyInfo := do
  match ← (← Der.whole? bs).elementsOf? Der.Tag.sequence with
  | [algorithm, key] => return ⟨← AlgorithmId.ofElement algorithm, ← key.bitString?⟩
  | _ => none

/-- The RSA key in the information, which has to be fit for use. -/
def rsaPublicKey? (info : PublicKeyInfo) : Option Rsa.PublicKey := do
  if info.algorithm.isExactRsa then
    let octets ← info.key.whole?
    let numbers ← (← (← Der.whole? octets).elementsOf? Der.Tag.sequence).mapM Element.natural?
    match numbers with
    | [modulus, exponent] =>
      let key : Rsa.PublicKey := ⟨modulus, exponent⟩
      if key.isFit then some key else none
    | _ => none
  else none

end PublicKeyInfo

namespace KeyFault

/-- A value that has to be there. -/
def unlessSome {α : Type} (fault : KeyFault) : Option α → Except KeyFault α
  | some a => .ok a
  | none => .error fault

/-- **Binding.** Key material that is bound to an algorithm serves that algorithm only. -/
def unlessBound (found requested : Algorithm) : Except KeyFault Unit :=
  if requested = found then .ok () else .error (boundTo found requested)

end KeyFault

end MessageSignatures
