import MessageSignatures.ContentDigest
import MessageSignatures.KeyStore
import MessageSignatures.Signature.Labelled

/-!
# Signers

A signer signs requests with every key of its store.

* **Coverage.** Each signature covers the head — the digest of the body, query, path and method —
  and then the configured header fields that the request has.
* **Digest.** What is signed is the request with a `content-digest` of its own body, in place of any
  it came with.
* **Labels.** A signature is labelled with its key id, if that can be a dictionary key and is not
  taken; else with `sig` and the first free number from its position on.
* **All or nothing.** A key that cannot sign makes the whole signing fail.

`SignerConfig.build` checks a configuration; `Signer.sign` makes the headers and
`Signer.signRequest` puts them on the request.
-/

namespace MessageSignatures

/-- **Head.** The components that every signature of a signer begins with. -/
def headComponents : List ComponentId :=
  [.contentDigest, .derived .query, .derived .path, .derived .method]

/-- Append an identifier to a list that does not have it. -/
def addComponent (covered : List ComponentId) (id : ComponentId) : List ComponentId :=
  if id ∈ covered then covered else covered ++ [id]

/-- **Head and more.** The head, then each identifier that has not come before. -/
def withHead (ids : List ComponentId) : List ComponentId :=
  ids.foldl addComponent headComponents

/-- The header fields that are covered unless others are configured. -/
def defaultCovered : List String :=
  ["content-type", "content-length"]

/-- **Configuration of a signer.** Keys in order, the names of the header fields to cover, and the
lifetime of signatures in seconds. No name at all stands for `defaultCovered`. -/
structure SignerConfig where
  keys : List (String × SigningKey)
  covered : List String := []
  lifetime : Option UInt64 := none

/-- **Signer.** The keys have printable ids, there is at least one, and no field is covered
twice. -/
structure Signer where
  keys : KeyStore SigningKey
  covered : List ComponentId
  lifetime : Option UInt64
  keys_ne_nil : keys.entries ≠ []
  printable : ∀ id ∈ keys.ids, Text.isPrintable id = true
  covered_nodup : covered.Nodup

/-- Read the names of fields to cover, leaving out repetitions. -/
def coverFields (covered : List ComponentId) : List String → Except Error (List ComponentId)
  | [] => .ok covered
  | name :: names =>
    match ComponentId.ofField name with
    | .ok id => coverFields (addComponent covered id) names
    | .error fault => .error (.componentId fault)

theorem nodup_addComponent {covered : List ComponentId} (h : covered.Nodup) (id : ComponentId) :
    (addComponent covered id).Nodup := by
  unfold addComponent
  split
  · exact h
  · next hid =>
    refine List.nodup_append.2 ⟨h, by simp, ?_⟩
    intro a ha b hb hab
    simp only [List.mem_singleton] at hb
    exact hid (hb ▸ hab ▸ ha)

theorem nodup_coverFields {covered out : List ComponentId} {names : List String}
    (h : covered.Nodup) (hout : coverFields covered names = .ok out) : out.Nodup := by
  induction names generalizing covered with
  | nil => cases hout; exact h
  | cons name names ih =>
    simp only [coverFields] at hout
    split at hout
    · exact ih (nodup_addComponent h _) hout
    · cases hout

/-- **Building a signer.** Faults of the key store come first, then a missing key, then a key id
that is not printable, then the names of fields. -/
def SignerConfig.build (c : SignerConfig) : Except Error Signer :=
  match KeyStore.ofList c.keys with
  | .error e => .error e
  | .ok keys =>
    if empty : keys.entries = [] then .error (.config .noSigningKey)
    else
      match printable : keys.ids.find? fun id => !Text.isPrintable id with
      | some id => .error (.config (.unprintableKeyId id))
      | none =>
        match h : coverFields [] (if c.covered = [] then defaultCovered else c.covered) with
        | .error e => .error e
        | .ok covered =>
          .ok ⟨keys, covered, c.lifetime, empty, fun id hid => by
            simpa using List.find?_eq_none.1 printable id hid, nodup_coverFields List.nodup_nil h⟩

/-- **Signed headers.** What signing puts on a request. -/
structure SignedHeaders where
  contentDigest : String
  signatures : List LabelledSignature
deriving DecidableEq

namespace SignedHeaders

/-- The value of the `signature-input` header. -/
def inputText (s : SignedHeaders) : String :=
  ", ".intercalate (s.signatures.map LabelledSignature.inputText)

/-- The value of the `signature` header. -/
def signatureText (s : SignedHeaders) : String :=
  ", ".intercalate (s.signatures.map LabelledSignature.signatureText)

/-- Put the headers on a request, in place of those it had. -/
def applyTo (s : SignedHeaders) (v : RequestView) : RequestView :=
  ((v.setHeader .contentDigest s.contentDigest).setHeader .signatureInput s.inputText).setHeader
    .signature s.signatureText

end SignedHeaders

/-- The label with a number. -/
def numberedLabel (n : Nat) : String :=
  "sig" ++ n.repr

/-- The first free label with a number from `n` on. As many labels are tried as are taken, and one
more, so one of them is free. -/
def freeLabel (taken : List String) : Nat → Nat → String
  | 0, n => numberedLabel n
  | tries + 1, n =>
    if numberedLabel n ∈ taken then freeLabel taken tries (n + 1) else numberedLabel n

/-- **Label** of the signature at a position, counted from zero. -/
def chooseLabel (keyId : String) (position : Nat) (taken : List String) : String :=
  if StructuredField.isKey keyId && !taken.contains keyId then keyId
  else freeLabel taken taken.length (position + 1)

namespace Signer

/-- The request that is signed: its `content-digest` is the digest of its body. -/
def working (v : RequestView) : RequestView :=
  v.setHeader .contentDigest (ContentDigest.compute v.body)

/-- Whether a request has the field of a component. -/
def isPresent (v : RequestView) (id : ComponentId) : Bool :=
  v.hasHeader (FieldName.ofString id.name)

/-- The components that a signature of a request covers. -/
def coveredOn (s : Signer) (v : RequestView) : List ComponentId :=
  withHead (s.covered.filter (isPresent v))

/-- The parameters of a key's signature. -/
def paramsFor (lifetime : Option UInt64) (covered : List ComponentId) (now : Timestamp)
    (keyId : String) (key : SigningKey) (entropy : Entropy) : Except Error SignatureParams := do
  let params ← SignatureParams.new covered now key.alg keyId
  let params := match lifetime with
    | some seconds => params.setExpiresAfter seconds
    | none => params
  match key.nonce entropy with
  | some nonce => params.setNonce nonce
  | none => return params

/-- The signatures of keys from a position on, given the labels that are taken. -/
def signAll (v : RequestView) (lifetime : Option UInt64) (covered : List ComponentId)
    (now : Timestamp) (entropy : Nat → Entropy) :
    List (String × SigningKey) → Nat → List String → Except Error (List LabelledSignature)
  | [], _, _ => .ok []
  | (keyId, key) :: rest, position, taken => do
    let params ← paramsFor lifetime covered now keyId key (entropy position)
    let base ← SignatureBase.build v params
    -- a fault of a later key discards this signature, and its label with it
    let label := chooseLabel keyId position taken
    let first ← base.sign key (entropy position) label
    let more ← signAll v lifetime covered now entropy rest (position + 1) (label :: taken)
    return first :: more

/-- **Signing.** One signature for each key, in the order of the store. The key at a position draws
on the stream of that position. -/
def sign (s : Signer) (now : Timestamp) (entropy : Nat → Entropy) (v : RequestView) :
    Except Error SignedHeaders :=
  let w := working v
  (signAll w s.lifetime (s.coveredOn w) now entropy s.keys.entries 0 []).map
    fun signatures => ⟨ContentDigest.compute v.body, signatures⟩

/-- **Signing a request** and putting the headers on it. -/
def signRequest (s : Signer) (now : Timestamp) (entropy : Nat → Entropy) (v : RequestView) :
    Except Error RequestView :=
  (s.sign now entropy v).map fun signed => signed.applyTo v

end Signer

end MessageSignatures
