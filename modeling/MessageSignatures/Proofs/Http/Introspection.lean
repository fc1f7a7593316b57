import MessageSignatures.Proofs.Http.Signing
import MessageSignatures.Proofs.Verifier.BodyDigest

/-!
# Listing the signatures of a request

What signatures a request declares can be told without verifying any. The listing reads the headers
of the request, a verifier reads its view. The two meet in the lines of the `signature-input`
header.

* **All lines are texts.** Both read the same map of signatures
  (`Request.signatureParams_of_reads`), so the key that a verifier finds is listed, and it is the
  first one listed that the verifier knows.
* **Some line is no text.** A verifier goes by the other lines, as with any header. The listing does
  not: it tells all signatures or none, and fails (`Request.signatureParams_of_unreadable`).

`Request.declaredKeys_of_verify` states both cases; `Request.not_declaredKeys_of_verify` is a
request that is verified and cannot be listed.
-/

namespace MessageSignatures

namespace Http

namespace Request

variable {r r' : Request} {v : Verifier} {now : Timestamp} {body : List UInt8} {keyId : String}

/-- **Joining the values** of a field is what a view does, unless one of them is no text. -/
theorem joinedValues_eq (r : Request) (body : List UInt8) (n : FieldName) :
    joinedValues r.headers n
      = if (r.view body).isUnreadable n then .error .unreadableHeader
        else .ok ((r.view body).fieldText n) := by
  rw [joinedValues, HeaderValue.mapM_text?, isUnreadable_view, RequestView.fieldText,
    headerValues_view]
  -- a value that cannot be read is one that marks the field
  by_cases h : ((r.headers.valuesOf n).any fun value => value.text?.isNone) = true
  · rw [if_pos h, if_pos h]
  · rw [if_neg h, if_neg h]

/-- Texts are joined. -/
theorem joinedValues_of_texts {n : FieldName}
    (h : ∀ value ∈ r.headers.valuesOf n, value.text? ≠ none) :
    joinedValues r.headers n = .ok ((r.view body).fieldText n) := by
  have hreadable : ¬ (r.view body).isUnreadable n = true := by
    rw [isUnreadable_view_eq_true]
    exact fun ⟨value, hvalue, hnone⟩ => h value hvalue hnone
  rw [joinedValues_eq r body, if_neg hreadable]

theorem signatureParams_of_has (h : r.headers.has .signatureInput = true) :
    r.signatureParams = joinedValues r.headers .signatureInput >>= fun input =>
      (parseSignatureInput input).mapError Error.signature := by
  unfold signatureParams
  rw [h]
  rfl

/-- **The listing** is what a verifier reads, if all lines are texts. -/
theorem signatureParams_of_reads {inputs : OrderedMap SignatureParams}
    (h : Verifier.Reads (r.view body) inputs)
    (htexts : ∀ value ∈ r.headers.valuesOf .signatureInput, value.text? ≠ none) :
    r.signatureParams = .ok inputs := by
  rw [signatureParams_of_has (has_of_headerValues h.present), joinedValues_of_texts htexts,
    Fallible.ok_bind, h.parsed]
  rfl

/-- Nothing is listed if a line is no text. -/
theorem signatureParams_of_unreadable
    (h : ∃ value ∈ r.headers.valuesOf .signatureInput, value.text? = none) :
    r.signatureParams = .error .unreadableHeader := by
  -- a value that cannot be read is a value all the same
  obtain ⟨value, hvalue, -⟩ := id h
  have hunreadable : (r.view []).isUnreadable .signatureInput = true :=
    isUnreadable_view_eq_true.2 h
  rw [signatureParams_of_has (Headers.has_eq_true.2 (List.ne_nil_of_mem hvalue)),
    joinedValues_eq r [], if_pos hunreadable]
  rfl

/-- **Listed key** of a signature. -/
def listed (e : String × SignatureParams) : String × Option Algorithm × String :=
  (e.1, e.2.declaredAlgorithm?, e.2.keyId)

theorem declaredKeys_eq (r : Request) :
    r.declaredKeys = r.signatureParams.map fun params => params.entries.map listed := rfl

/-- A current signature is listed with the algorithm of its key. -/
theorem listed_of_current {s : Selection} (h : Verifier.Current now s) :
    listed (s.label, s.params) = (s.label, some s.key.alg, s.params.keyId) := by
  rw [listed, SignatureParams.declaredAlgorithm?, h.alg, Algorithm.ofTag?_tag]

/-- **Listing and verifying.** A request that is verified has the headers of a signature. If all
lines with parameters are texts, they are listed, and the signature that was verified is the first
one listed whose key the verifier knows, with the algorithm of that key; otherwise nothing is
listed. -/
theorem declaredKeys_of_verify (h : r.verify v now = .ok (r', keyId)) :
    r.hasSignature = true
      ∧ ((∀ value ∈ r.headers.valuesOf .signatureInput, value.text? ≠ none) →
        ∃ body s params before after, r.body.read = .ok body ∧ Verifier.Valid now (r.view body) s
          ∧ r.signatureParams = .ok params
          ∧ params.entries = before ++ (s.label, s.params) :: after
          ∧ (∀ e ∈ before, ∀ key, ¬ v.HasKey e.2 key) ∧ v.HasKey s.params s.key
          ∧ r.declaredKeys
            = .ok (before.map listed ++ (s.label, some s.key.alg, keyId) :: after.map listed))
      ∧ ((∃ value ∈ r.headers.valuesOf .signatureInput, value.text? = none) →
        r.signatureParams = .error .unreadableHeader
          ∧ r.declaredKeys = .error .unreadableHeader) := by
  obtain ⟨body, hbody, hverify, -⟩ := verify_eq_ok.1 h
  -- the selected signature splits the map that was read; the listing is about that very map
  obtain ⟨s, ⟨⟨params, before, after, hreads, hentries, hbefore⟩, hknown⟩, hvalid, hkeyId⟩ :=
    Verifier.verifySignature_eq_ok_iff_valid.1 (Verifier.verify_eq_ok.1 hverify).1
  obtain ⟨b, signature, -, hcarries, -⟩ := hvalid.signed
  refine ⟨?_, fun htexts => ?_, fun hunreadable => ?_⟩
  · -- both headers have been read, so they are present
    rw [hasSignature, has_of_headerValues hcarries.present, has_of_headerValues hreads.present]
    rfl
  · have hparams := signatureParams_of_reads hreads htexts
    refine ⟨body, s, params, before, after, hbody, hvalid, hparams, hentries, hbefore, hknown, ?_⟩
    rw [declaredKeys_eq, hparams, Except.map, hentries, List.map_append, List.map_cons,
      listed_of_current hvalid.current, hkeyId]
  · -- the join of the lines fails, and the listing with it
    have hparams := signatureParams_of_unreadable hunreadable
    refine ⟨hparams, ?_⟩
    rw [declaredKeys_eq, hparams]
    rfl

/-! ### A line that is no text -/

namespace Lines

open Verifier.PathOnly

/-- A request with a signature, and with more lines of parameters. -/
def request (extra : List HeaderValue) : Request where
  method := "GET"
  uri := ⟨none, "/", none⟩
  headers := (.signature, Text.utf8 signature.signatureText)
    :: (.signatureInput, Text.utf8 signature.inputText) :: extra.map (.signatureInput, ·)
  body := .ofOctets []

variable {extra : List HeaderValue}

theorem valuesOf_request (n : FieldName) :
    (request extra).headers.valuesOf n
      = if .signature = n then [Text.utf8 signature.signatureText]
        else if .signatureInput = n then Text.utf8 signature.inputText :: extra else [] := by
  -- the lines that are added are of one field
  have hextra : Headers.valuesOf (extra.map (.signatureInput, ·)) n
      = if .signatureInput = n then extra else [] := by
    induction extra with
    | nil => exact (ite_self _).symm
    | cons value extra ih =>
      rw [List.map_cons, Headers.valuesOf_cons, ih]
      split <;> rfl
  rw [request, Headers.valuesOf_cons, Headers.valuesOf_cons, hextra]
  by_cases hsignature : FieldName.signature = n
  · subst hsignature
    rw [if_pos rfl, if_pos rfl, if_neg SignedHeaders.signatureInput_ne_signature,
      if_neg SignedHeaders.signatureInput_ne_signature]
  · rw [if_neg hsignature, if_neg hsignature]
    split <;> rfl

theorem isPrintable_signature :
    Text.isPrintable signature.inputText = true
      ∧ Text.isPrintable signature.signatureText = true := by
  have htexts := LabelledSignature.isPrintable_texts writable_signature.printable
  simpa only [List.map_cons, List.map_nil, String.intercalate_singleton] using htexts

/-- Every request with the two texts and the path is verified. -/
theorem verifySignature_view {body : List UInt8} (hpath : r.uri.path = "/")
    (hinput : (r.headers.valuesOf .signatureInput).filterMap HeaderValue.text?
      = [signature.inputText])
    (hsignature : (r.headers.valuesOf .signature).filterMap HeaderValue.text?
      = [signature.signatureText]) :
    verifier.verifySignature 1 (r.view body) = .ok "k" := by
  obtain ⟨headers, unreadable, hview⟩ := view_eq r body
  refine verifySignature_eq ((headerValues_view ..).trans hinput)
    ((headerValues_view ..).trans hsignature) ?_
  -- the path is none of what headers can change
  rw [hview, hpath]
  rfl

/-- Lines that are no text are passed over by the verifier. -/
theorem verify_request (h : ∀ value ∈ extra, value.text? = none) :
    (request extra).verify verifier 1 = .ok (request extra, "k") := by
  obtain ⟨hinput, hsignature⟩ := isPrintable_signature
  have hextra : extra.filterMap HeaderValue.text? = [] := List.filterMap_eq_nil_iff.2 h
  have hverified : verifier.verifySignature 1 ((request extra).view []) = .ok "k" := by
    refine verifySignature_view rfl ?_ ?_
    · -- the unreadable lines add nothing to what is verified
      rw [valuesOf_request, if_neg SignedHeaders.signatureInput_ne_signature.symm, if_pos rfl,
        List.filterMap_cons, HeaderValue.text?_utf8 hinput, hextra]
    · rw [valuesOf_request, if_pos rfl, List.filterMap_cons, HeaderValue.text?_utf8 hsignature]
      rfl
  have hdigest : ((request extra).view []).headerValues .contentDigest = [] := by
    -- neither of the two headers is the digest
    rw [headerValues_view, valuesOf_request, if_neg SignedHeaders.contentDigest_ne_signature.symm,
      if_neg SignedHeaders.contentDigest_ne_signatureInput.symm]
    rfl
  refine verify_eq_ok.2 ⟨[], Body.read_ofOctets [], Verifier.verify_eq_ok.2 ⟨hverified, ?_⟩, rfl⟩
  exact Verifier.digestMatches_eq_true.2 fun hpresent => absurd hdigest hpresent

end Lines

open Lines Verifier.PathOnly

/-- A request with one line is listed. -/
theorem declaredKeys_of_verify_one_line :
    (request []).verify verifier 1 = .ok (request [], "k") ∧ (request []).hasSignature = true
      ∧ ∃ label before after, (request []).declaredKeys
        = .ok (before ++ (label, some .hmacSha256, "k") :: after) := by
  have hverify : (request []).verify verifier 1 = .ok (request [], "k") := verify_request nofun
  obtain ⟨hhas, hlisted, -⟩ := declaredKeys_of_verify hverify
  have htexts : ∀ value ∈ (request []).headers.valuesOf .signatureInput, value.text? ≠ none := by
    rw [valuesOf_request, if_neg SignedHeaders.signatureInput_ne_signature.symm, if_pos rfl]
    intro value hvalue
    obtain rfl := List.mem_singleton.1 hvalue
    rw [HeaderValue.text?_utf8 isPrintable_signature.1]
    nofun
  obtain ⟨body, s, params, before, after, -, -, -, -, -, hknown, hkeys⟩ := hlisted htexts
  -- the verifier has one key only, so this is the key that was found
  have halg : s.key.alg = .hmacSha256 := by
    cases hknown with
    | stored hstored => exact congrArg (VerifyingKey.alg ·.2) (List.mem_singleton.1 hstored)
    | resolved _ hresolver _ => cases hresolver
  rw [halg] at hkeys
  exact ⟨hverify, hhas, s.label, _, _, hkeys⟩

/-- **A request that is verified need not be listed.** The verifier passes over a second line that
is no text. -/
theorem not_declaredKeys_of_verify :
    ¬ ∀ (r r' : Request) (v : Verifier) (now : Timestamp) (keyId : String),
      r.verify v now = .ok (r', keyId) → ∃ params keys, r.signatureParams = .ok params
        ∧ r.declaredKeys = .ok keys := by
  intro h
  have hnone : HeaderValue.text? [0xE9] = none := by decide
  have hunreadable : ∃ value ∈ (request [[0xE9]]).headers.valuesOf .signatureInput,
      value.text? = none := by
    rw [valuesOf_request, if_neg SignedHeaders.signatureInput_ne_signature.symm, if_pos rfl]
    exact ⟨[0xE9], List.mem_cons_of_mem _ List.mem_cons_self, hnone⟩
  have hverify : (request [[0xE9]]).verify verifier 1 = .ok (request [[0xE9]], "k") :=
    verify_request fun value hvalue => List.mem_singleton.1 hvalue ▸ hnone
  obtain ⟨params, -, hparams, -⟩ := h _ _ verifier 1 "k" hverify
  cases (signatureParams_of_unreadable hunreadable).symm.trans hparams

end Request

end Http

end MessageSignatures
