import MessageSignatures.Http.Signing
import MessageSignatures.Proofs.Exchange
import MessageSignatures.Proofs.Http.View

/-!
# Signing and verifying HTTP requests

A request is signed and verified by its view.

* **Verifying** is verifying the view (`Request.verify_eq_ok`).
* **Signing** is signing the view and setting three headers (`Request.sign_of_read`). What a signer
  makes is printable, so it can always be a header value: no fault comes in from there.

`Request.sign_refines` — signing a request goes through exactly if signing its view does, and fails
with the fault of its view otherwise. The signed request and the signed view agree, and apart from
the three headers nothing on the request has changed; its body is the one that was read.
-/

namespace MessageSignatures

namespace Http

theorem headerValue_of_isPrintable {s : String} (h : Text.isPrintable s = true) :
    headerValue s = .ok (Text.utf8 s) := by
  rw [headerValue, HeaderValue.ofText?_of_isPrintable h]

/-- What is read of a body are its chunks. -/
theorem Body.eq_of_read {b : Body} {octets : List UInt8} (h : b.read = .ok octets) :
    octets = b.chunks.flatten := by
  unfold Body.read at h
  split at h
  · cases h
  · exact (Except.ok.inj h).symm

namespace Request

variable {r r' : Request} {s : Signer} {v : Verifier} {now : Timestamp} {entropy : Nat → Entropy}
  {body : List UInt8} {keyId : String}

theorem readBody_of_read (h : r.body.read = .ok body) : r.readBody = .ok body := by
  rw [readBody, h]
  rfl

/-- What reads the body first goes on with what was read. -/
theorem readBody_bind_eq_ok {α : Type} {f : List UInt8 → Except Error α} {a : α} :
    (r.readBody >>= f) = .ok a ↔ ∃ body, r.body.read = .ok body ∧ f body = .ok a := by
  rw [Fallible.bind_eq_ok]
  exact exists_congr fun body => and_congr_left fun _ => Fallible.mapError_eq_ok

/-! ### Verifying -/

/-- **Verifying a request** is reading its body and verifying the view. -/
theorem verify_eq_ok :
    r.verify v now = .ok (r', keyId) ↔ ∃ body, r.body.read = .ok body
      ∧ v.verify now (r.view body) = .ok keyId ∧ r' = { r with body := .ofOctets body } := by
  unfold verify
  constructor
  · intro h
    obtain ⟨body, hbody, h⟩ := readBody_bind_eq_ok.1 h
    obtain ⟨keyId', hkeyId, h⟩ := Fallible.bind_eq_ok.1 h
    cases h
    exact ⟨body, hbody, Fallible.mapError_eq_ok.1 hkeyId, rfl⟩
  · rintro ⟨body, hbody, hkeyId, rfl⟩
    rw [readBody_of_read hbody, Fallible.ok_bind, hkeyId]
    rfl

/-! ### Signing -/

/-- **The signed request.** It has the signed headers in place of those it came with, and its body
is known as a whole. -/
def withSigned (r : Request) (body : List UInt8) (signed : SignedHeaders) : Request :=
  { r with
    headers := ((r.headers.set .contentDigest (Text.utf8 signed.contentDigest)).set .signatureInput
      (Text.utf8 signed.inputText)).set .signature (Text.utf8 signed.signatureText)
    body := .ofOctets body }

/-- **Signing a request** whose body can be read is signing the view. -/
theorem sign_of_read (h : r.body.read = .ok body) :
    r.sign s now entropy
      = ((s.sign now entropy (r.view body)).mapError Error.signature).map (r.withSigned body) := by
  unfold sign
  rw [readBody_of_read h, Fallible.ok_bind]
  -- the signer only adds printable texts, so all three headers can be made
  cases hsign : s.sign now entropy (r.view body) with
  | error e => rfl
  | ok signed =>
    obtain ⟨hdigest, hinput, hsignature⟩ := Signer.isPrintable_of_sign hsign
    change (headerValue _ >>= _) = _
    rw [headerValue_of_isPrintable hdigest, Fallible.ok_bind, headerValue_of_isPrintable hinput,
      Fallible.ok_bind, headerValue_of_isPrintable hsignature]
    rfl

/-- The view of the signed request is the signed view. -/
theorem agreeOff_view_withSigned {signed : SignedHeaders}
    (h : s.sign now entropy (r.view body) = .ok signed) :
    (signed.applyTo (r.view body)).AgreeOff [] ((r.withSigned body signed).view body) := by
  obtain ⟨hdigest, hinput, hsignature⟩ := Signer.isPrintable_of_sign h
  exact agreeOff_view_set (agreeOff_view_set (agreeOff_view_set (.refl [] (r.view body))
    .contentDigest hdigest) .signatureInput hinput) .signature hsignature

/-- A signed request has the values of other fields that it came with. -/
theorem valuesOf_withSigned {signed : SignedHeaders} {n : FieldName} (hdigest : n ≠ .contentDigest)
    (hinput : n ≠ .signatureInput) (hsignature : n ≠ .signature) :
    (r.withSigned body signed).headers.valuesOf n = r.headers.valuesOf n := by
  unfold withSigned
  rw [Headers.valuesOf_set, if_neg hsignature.symm, Headers.valuesOf_set, if_neg hinput.symm,
    Headers.valuesOf_set, if_neg hdigest.symm]

theorem sign_eq_ok (h : r.body.read = .ok body) :
    r.sign s now entropy = .ok r'
      ↔ ∃ signed, s.sign now entropy (r.view body) = .ok signed
        ∧ r.withSigned body signed = r' := by
  rw [sign_of_read h, Fallible.map_eq_ok]
  exact exists_congr fun signed => and_congr_left fun _ => Fallible.mapError_eq_ok

theorem sign_eq_error {e : Error} (h : r.body.read = .ok body) :
    r.sign s now entropy = .error e
      ↔ ∃ fault, s.sign now entropy (r.view body) = .error fault ∧ .signature fault = e := by
  rw [sign_of_read h, Fallible.map_eq_error, Fallible.mapError_eq_error]

/-- **Signing a request refines signing its view.** If the body can be read, the request is signed
exactly if the view is, and a fault is that of the view. The view of the signed request agrees with
the signed view in all that a view can say. What else is on the request stays, the values of other
fields included, and so do the octets of the body. -/
theorem sign_refines (r : Request) (s : Signer) (now : Timestamp) (entropy : Nat → Entropy)
    (hread : r.body.read = .ok body) :
    body = r.body.chunks.flatten
      ∧ ((∃ r', r.sign s now entropy = .ok r')
        ↔ ∃ signed, s.sign now entropy (r.view body) = .ok signed)
      ∧ (∀ e, r.sign s now entropy = .error e
        ↔ ∃ fault, s.sign now entropy (r.view body) = .error fault ∧ .signature fault = e)
      ∧ ∀ r', r.sign s now entropy = .ok r' →
        (∃ v', s.signRequest now entropy (r.view body) = .ok v' ∧ v'.AgreeOff [] (r'.view body)
          ∧ (r'.view body).authority = v'.authority)
        ∧ r'.body.read = .ok body
        ∧ r'.method = r.method ∧ r'.uri = r.uri ∧ r'.version = r.version
        ∧ r'.verifiedKeyId = r.verifiedKeyId ∧ r'.extensions = r.extensions
        ∧ ∀ n, n ≠ .contentDigest → n ≠ .signatureInput → n ≠ .signature →
          r'.headers.valuesOf n = r.headers.valuesOf n := by
  refine ⟨Body.eq_of_read hread, ?_, fun e => sign_eq_error hread, fun r' hr' => ?_⟩
  · constructor
    · -- the outcome is that of the core signer
      rintro ⟨r', hr'⟩
      obtain ⟨signed, hsigned, -⟩ := (sign_eq_ok hread).1 hr'
      exact ⟨signed, hsigned⟩
    · rintro ⟨signed, hsigned⟩
      exact ⟨_, (sign_eq_ok hread).2 ⟨signed, hsigned, rfl⟩⟩
  · obtain ⟨signed, hsigned, rfl⟩ := (sign_eq_ok hread).1 hr'
    -- the headers are put in one by one, in the order of the core signer
    have hagree := agreeOff_view_withSigned hsigned
    have hsignRequest : s.signRequest now entropy (r.view body)
        = .ok (signed.applyTo (r.view body)) :=
      Signer.signRequest_eq_ok.2 ⟨signed, hsigned, rfl⟩
    refine ⟨⟨_, hsignRequest, hagree, hagree.authority List.not_mem_nil⟩,
      Body.read_ofOctets body, rfl, rfl, rfl, rfl, rfl, fun n => ?_⟩
    exact valuesOf_withSigned

/-! ### A request with stale headers -/

namespace Stale

open Signer.TwoKeys

/-- A request that comes with headers of another signature, one of which is no text. -/
def request : Request where
  method := "POST"
  uri := ⟨some ⟨some "https", "origin.example"⟩, "/new", some "user=bob"⟩
  version := .http2
  headers :=
    [(.contentDigest, Text.utf8 "old"), (.signature, [0xE9]), (.signature, Text.utf8 "old")]
  body := { chunks := [[1], [2, 3]] }
  verifiedKeyId := some "old"

theorem read_request : request.body.read = .ok [1, 2, 3] := rfl

/-- Only a field with signatures is no text. -/
theorem isUnreadable_view_request {n : FieldName} (h : n ≠ .signature) :
    (request.view [1, 2, 3]).isUnreadable n = false := by
  have hold : HeaderValue.text? (Text.utf8 "old") = some "old" := HeaderValue.text?_utf8 (by decide)
  -- the only header that could be unreadable is the old signature
  rw [isUnreadable_view, request, Headers.valuesOf_cons, Headers.valuesOf_cons, if_neg h.symm,
    Headers.valuesOf_cons, if_neg h.symm]
  split
  · rw [List.any_cons, hold]
    rfl
  · rfl

theorem exists_signed_request {s : Signer} (hs : config.build = .ok s)
    (now : Timestamp) (entropy : Nat → Entropy) :
    ∃ signed, s.sign now entropy (request.view [1, 2, 3]) = .ok signed := by
  refine Signer.exists_sign_of_echo hs (eq_echo hs) (fun id hid n hn _ => ?_) now entropy
  -- a field of the configuration is one of the default fields
  obtain ⟨name, hname, hfield⟩ := exists_name_of_mem_covered hs hid
  obtain rfl : FieldName.ofString (Text.trim name) = n := Option.some.inj (hfield.symm.trans hn)
  rcases hname with hname | hname
  · cases hname
  · exact isUnreadable_view_request (ofString_ne_of_mem_defaultCovered hname).1

end Stale

open Signer.TwoKeys in
/-- The request is signed as its view is, and what it is for stays. -/
theorem sign_refines_stale :
    ∃ s r', config.build = .ok s ∧ Stale.request.body.read = .ok [1, 2, 3]
      ∧ Stale.request.sign s 100 (fun _ _ => 0) = .ok r'
      ∧ (∃ v', s.signRequest 100 (fun _ _ => 0) (Stale.request.view [1, 2, 3]) = .ok v'
        ∧ v'.AgreeOff [] (r'.view [1, 2, 3]))
      ∧ r'.body.read = .ok [1, 2, 3] ∧ r'.uri = Stale.request.uri := by
  obtain ⟨s, hs⟩ := Signer.TwoKeys.exists_build
  obtain ⟨-, hiff, -, hsigned⟩ := sign_refines Stale.request s 100 (fun _ _ => 0) Stale.read_request
  obtain ⟨r', hr'⟩ := hiff.2 (Stale.exists_signed_request hs 100 _)
  obtain ⟨⟨v', hv', hagree, -⟩, hread, -, huri, -⟩ := hsigned r' hr'
  exact ⟨s, r', hs, Stale.read_request, hr', ⟨v', hv', hagree⟩, hread, huri⟩

end Request

end Http

end MessageSignatures
