import MessageSignatures.Proofs.ContentDigest
import MessageSignatures.Proofs.Http.Introspection

/-!
# The digest of a request

The digest of the body can be set and checked without any signature. It is written to a request by
`Request.setContentDigest` and by signing, and it is checked on a request by
`Request.verifyContentDigest` and on a view by the verifier. All four are about one field:

* **Written.** The written digest is the only value of the field then, whatever stood there, so it
  is found (`Request.verifyContentDigest_of_valuesOf`).
* **Checked.** If all values of the field are texts, either check compares the body with the joined
  values (`Request.verifyContentDigest_of_texts`). The helper answers early where these are empty,
  which makes no difference, since an empty text holds no digest (`ContentDigest.verify_empty`).
  What differs is a request without the field: it does not match, and a verifier has nothing to
  compare.

`Request.digest_agrees` puts this together.
-/

namespace MessageSignatures

theorem ContentDigest.verify_empty (body : List UInt8) : verify body "" = false := rfl

namespace Http

namespace Request

variable {r r' : Request} {s : Signer} {v : Verifier} {now : Timestamp} {entropy : Nat → Entropy}
  {body : List UInt8} {keyId : String}

/-! ### The check without a signature -/

/-- **All values are texts**: the body is compared with the joined values. -/
theorem verifyContentDigest_of_texts (hread : r.body.read = .ok body)
    (htexts : ∀ value ∈ r.headers.valuesOf .contentDigest, value.text? ≠ none) :
    r.verifyContentDigest
      = .ok (ContentDigest.verify body ((r.view body).fieldText .contentDigest)) := by
  unfold verifyContentDigest
  rw [joinedValues_of_texts htexts, Fallible.ok_bind]
  -- without a digest the body is not even read
  split
  · next hempty =>
    -- the early answer is that of the comparison
    rw [hempty, ContentDigest.verify_empty]
    rfl
  · rw [readBody_of_read hread]
    rfl

/-- **A written digest** that is the only value of the field is the digest of the body. -/
theorem verifyContentDigest_of_valuesOf (hread : r.body.read = .ok body)
    (h : r.headers.valuesOf .contentDigest = [Text.utf8 (ContentDigest.compute body)]) :
    r.verifyContentDigest = .ok true := by
  have htext := HeaderValue.text?_utf8 (ContentDigest.isPrintable_compute body)
  -- the one value that stands there is a digest as it is computed
  have htexts : ∀ value ∈ r.headers.valuesOf .contentDigest, value.text? ≠ none := by
    intro value hvalue
    rw [h] at hvalue
    rw [List.mem_singleton.1 hvalue, htext]
    nofun
  have hfield : (r.view body).fieldText .contentDigest = ContentDigest.compute body := by
    rw [RequestView.fieldText, headerValues_view, h, List.filterMap_cons, htext, List.filterMap_nil,
      String.intercalate_singleton]
  rw [verifyContentDigest_of_texts hread htexts, hfield, ContentDigest.verify_compute]

/-! ### Requests on which the digest is written -/

/-- **Setting the digest** of a body that can be read. -/
theorem setContentDigest_of_read (hread : r.body.read = .ok body) :
    r.setContentDigest = .ok { r with
      headers := r.headers.set .contentDigest (Text.utf8 (ContentDigest.compute body))
      body := .ofOctets body } := by
  unfold setContentDigest
  rw [readBody_of_read hread, Fallible.ok_bind,
    headerValue_of_isPrintable (ContentDigest.isPrintable_compute body)]
  rfl

theorem verifyContentDigest_of_set (h : r.setContentDigest = .ok r') :
    r'.verifyContentDigest = .ok true := by
  obtain ⟨body, hread, -⟩ := readBody_bind_eq_ok.1 h
  obtain rfl := Except.ok.inj ((setContentDigest_of_read hread).symm.trans h)
  refine verifyContentDigest_of_valuesOf (Body.read_ofOctets body) ?_
  rw [Headers.valuesOf_set, if_pos rfl]

theorem valuesOf_contentDigest_withSigned (signed : SignedHeaders) :
    (r.withSigned body signed).headers.valuesOf .contentDigest =
    [Text.utf8 signed.contentDigest] := by
  unfold withSigned
  rw [Headers.valuesOf_set, if_neg SignedHeaders.contentDigest_ne_signature.symm,
    Headers.valuesOf_set,
    if_neg SignedHeaders.contentDigest_ne_signatureInput.symm, Headers.valuesOf_set, if_pos rfl]

theorem verifyContentDigest_of_sign (h : r.sign s now entropy = .ok r') :
    r'.verifyContentDigest = .ok true := by
  obtain ⟨body, hread, -⟩ := readBody_bind_eq_ok.1 h
  obtain ⟨signed, hsigned, rfl⟩ := (sign_eq_ok hread).1 h
  refine verifyContentDigest_of_valuesOf (Body.read_ofOctets body) ?_
  have hdigest : signed.contentDigest = ContentDigest.compute (r.view body).body :=
    (Signer.madeBy_of_sign hsigned).1
  rw [valuesOf_contentDigest_withSigned, hdigest, body_view]

/-! ### Requests that are verified -/

/-- **If the signature is accepted**, the digest decides. -/
theorem verify_of_verifySignature (hread : r.body.read = .ok body)
    (h : v.verifySignature now (r.view body) = .ok keyId) :
    r.verify v now
      = if Verifier.digestMatches (r.view body) then .ok ({ r with body := .ofOctets body }, keyId)
        else .error (.signature .digestMismatch) := by
  unfold verify Verifier.verify
  rw [readBody_of_read hread, Fallible.ok_bind, h, Fallible.ok_bind]
  split <;> rfl

/-- The verifier compares the body with the joined values, if there are any. -/
theorem digestMatches_view (hpresent : (r.view body).headerValues .contentDigest ≠ []) :
    Verifier.digestMatches (r.view body)
      = ContentDigest.verify body ((r.view body).fieldText .contentDigest) := by
  unfold Verifier.digestMatches
  split
  · next hnil => exact absurd hnil hpresent
  · rw [body_view, RequestView.fieldText]

/-- A field whose values are all texts is present in the view. -/
theorem headerValues_ne_nil_of_texts {n : FieldName} (hhas : r.headers.has n = true)
    (htexts : ∀ value ∈ r.headers.valuesOf n, value.text? ≠ none) :
    (r.view body).headerValues n ≠ [] := by
  obtain ⟨value, hvalue⟩ := List.exists_mem_of_ne_nil _ (Headers.has_eq_true.1 hhas)
  obtain ⟨text, htext⟩ := Option.ne_none_iff_exists'.1 (htexts value hvalue)
  rw [headerValues_view]
  exact List.ne_nil_of_mem (List.mem_filterMap.2 ⟨value, hvalue, htext⟩)

/-- **The checks agree.** On a request whose signature is accepted and whose digests are all texts,
what the helper answers decides. -/
theorem verify_of_verifyContentDigest (hread : r.body.read = .ok body)
    (hhas : r.headers.has .contentDigest = true)
    (htexts : ∀ value ∈ r.headers.valuesOf .contentDigest, value.text? ≠ none)
    (h : v.verifySignature now (r.view body) = .ok keyId) :
    ∃ matched, r.verifyContentDigest = .ok matched
      ∧ r.verify v now = if matched then .ok ({ r with body := .ofOctets body }, keyId)
        else .error (.signature .digestMismatch) := by
  refine ⟨_, verifyContentDigest_of_texts hread htexts, ?_⟩
  rw [verify_of_verifySignature hread h,
    digestMatches_view (headerValues_ne_nil_of_texts hhas htexts)]

/-- **The digest of a request.** Where it has been set, by itself or by signing, it is found to be
that of the body, whatever digests there were. Where there are digests, all of them texts, and the
signature is accepted, the request is verified exactly if its digest is found to match, and refused
for it exactly if it is found not to. -/
theorem digest_agrees (r : Request) (hread : r.body.read = .ok body) :
    (∃ r', r.setContentDigest = .ok r' ∧ r'.verifyContentDigest = .ok true)
    ∧ (∀ s now entropy r', r.sign s now entropy = .ok r' → r'.verifyContentDigest = .ok true)
    ∧ ∀ v now keyId, r.headers.has .contentDigest = true →
        (∀ value ∈ r.headers.valuesOf .contentDigest, value.text? ≠ none) →
        v.verifySignature now (r.view body) = .ok keyId →
        ((∃ accepted, r.verify v now = .ok accepted) ↔ r.verifyContentDigest = .ok true)
        ∧ (r.verify v now = .error (.signature .digestMismatch)
          ↔ r.verifyContentDigest = .ok false) := by
  refine ⟨⟨_, setContentDigest_of_read hread,
    verifyContentDigest_of_set (setContentDigest_of_read hread)⟩,
    fun s now entropy r' => verifyContentDigest_of_sign, fun v now keyId hhas htexts h => ?_⟩
  obtain ⟨matched, hmatched, hverify⟩ := verify_of_verifyContentDigest hread hhas htexts h
  -- both answers turn on the same comparison
  rw [hmatched, hverify]
  cases matched with
  | true =>
    rw [if_pos rfl]
    exact ⟨⟨fun _ => rfl, fun _ => ⟨_, rfl⟩⟩, nofun, nofun⟩
  | false =>
    rw [if_neg Bool.false_ne_true]
    refine ⟨⟨?_, nofun⟩, fun _ => rfl, fun _ => rfl⟩
    rintro ⟨accepted, haccepted⟩
    cases haccepted

/-! ### A signed request with a digest -/

namespace Digested

open Verifier.PathOnly

/-- A request with a signature that covers the path, and with one digest. -/
def request (digest : String) : Request where
  method := "GET"
  uri := ⟨none, "/", none⟩
  headers := (.contentDigest, Text.utf8 digest) :: (Lines.request []).headers
  body := .ofOctets [1, 2]

variable {digest : String}

theorem read_request : (request digest).body.read = .ok [1, 2] := Body.read_ofOctets _

theorem valuesOf_request (n : FieldName) :
    (request digest).headers.valuesOf n
      = if .contentDigest = n then [Text.utf8 digest]
        else (Lines.request []).headers.valuesOf n := by
  rw [request, Headers.valuesOf_cons]
  split
  · -- the digest is no header of the signature
    next hn =>
    subst hn
    rw [Lines.valuesOf_request, if_neg SignedHeaders.contentDigest_ne_signature.symm,
      if_neg SignedHeaders.contentDigest_ne_signatureInput.symm]
  · rfl

theorem verifySignature_request :
    verifier.verifySignature 1 ((request digest).view [1, 2]) = .ok "k" := by
  obtain ⟨hinput, hsignature⟩ := Lines.isPrintable_signature
  refine Lines.verifySignature_view rfl ?_ ?_
  · rw [valuesOf_request, if_neg SignedHeaders.contentDigest_ne_signatureInput,
      Lines.valuesOf_request,
      if_neg SignedHeaders.signatureInput_ne_signature.symm, if_pos rfl, List.filterMap_cons,
      HeaderValue.text?_utf8 hinput]
    rfl
  · rw [valuesOf_request, if_neg SignedHeaders.contentDigest_ne_signature, Lines.valuesOf_request,
      if_pos rfl, List.filterMap_cons, HeaderValue.text?_utf8 hsignature]
    rfl

end Digested

/-- An empty digest does not match, and the request is refused for it. -/
theorem digest_agrees_empty :
    (∃ r', (Digested.request "").setContentDigest = .ok r' ∧ r'.verifyContentDigest = .ok true)
      ∧ (Digested.request "").verifyContentDigest = .ok false
      ∧ (Digested.request "").verify Verifier.PathOnly.verifier 1
        = .error (.signature .digestMismatch) := by
  obtain ⟨hset, -, hverify⟩ := digest_agrees (Digested.request "") Digested.read_request
  have hvalues : (Digested.request "").headers.valuesOf .contentDigest = [Text.utf8 ""] :=
    (Digested.valuesOf_request _).trans (if_pos rfl)
  have hhas : (Digested.request "").headers.has .contentDigest = true := by
    rw [Headers.has_eq_true, hvalues]
    exact List.cons_ne_nil _ _
  have htexts : ∀ value ∈ (Digested.request "").headers.valuesOf .contentDigest,
      value.text? ≠ none := by
    -- the empty value is readable, it only denotes no digest
    intro value hvalue
    rw [hvalues] at hvalue
    rw [List.mem_singleton.1 hvalue]
    decide
  have hanswer : (Digested.request "").verifyContentDigest = .ok false := by
    have hfield : ((Digested.request "").view [1, 2]).fieldText .contentDigest = "" := by
      rw [RequestView.fieldText, headerValues_view, hvalues]
      rfl
    rw [verifyContentDigest_of_texts Digested.read_request htexts, hfield,
      ContentDigest.verify_empty]
  obtain ⟨-, hiff⟩ :=
    hverify Verifier.PathOnly.verifier 1 "k" hhas htexts Digested.verifySignature_request
  exact ⟨hset, hanswer, hiff.2 hanswer⟩

end Request

end Http

end MessageSignatures
