import MessageSignatures.Proofs.Signature.Emission
import MessageSignatures.Proofs.Signer
import MessageSignatures.Proofs.Verifier.Decision

/-!
# When the body is compared with its digest

A verifier that accepts a request has compared its body with the digest on it, if there is one. What
counts as one is a readable value of the `content-digest` field.

* **Readable digests** are always compared, whether the signature covers them or not.
* **Unreadable digests** (`RequestView.isUnreadable`) are no obstacle by themselves. They are
  refused where the signature covers the digest, since the component has no value then; elsewhere
  they are passed over.
* **No readable digest** at all means that the body plays no part: the request is accepted with any
  other one.

`digest_of_verify` states the three cases; `not_holdsDigest_of_verify` is a request whose only
digest is unreadable and not covered, and which is accepted.
-/

namespace MessageSignatures

namespace Verifier

variable {r : Verifier} {v : RequestView} {now : Timestamp} {keyId : String}

/-- One signature at most is selected. -/
theorem Selects.unique {s t : Selection} (hs : r.Selects v s) (ht : r.Selects v t) : s = t := by
  obtain ⟨inputs, hdeclared, hselect⟩ := selects_iff.1 hs
  obtain ⟨inputs', hdeclared', hselect'⟩ := selects_iff.1 ht
  obtain rfl : inputs = inputs' := Except.ok.inj (hdeclared.symm.trans hdeclared')
  exact Option.some.inj (hselect.symm.trans hselect')

/-- The signature of a request is verified without its body. -/
theorem verifySignature_body (body : List UInt8) :
    r.verifySignature now { v with body } = r.verifySignature now v := rfl

/-- **What acceptance says of the body.** It has the digest that can be read, if one can; if the
signature covers the digest, all of it can be read; and if none can be read, any other body is
accepted as well. -/
theorem digest_of_verify (h : r.verify now v = .ok keyId) :
    (v.headerValues .contentDigest ≠ [] → v.HoldsDigest)
      ∧ (∀ s, r.Selects v s → .contentDigest ∈ s.params.covered →
          v.isUnreadable .contentDigest = false ∧ v.HoldsDigest)
      ∧ (v.headerValues .contentDigest = [] →
        ∀ body, r.verify now { v with body } = .ok keyId) := by
  obtain ⟨hverified, hmatch⟩ := verify_eq_ok.1 h
  have hdigest : v.headerValues .contentDigest ≠ [] → v.HoldsDigest :=
    digestMatches_eq_true.1 hmatch
  refine ⟨hdigest, ?_, ?_⟩
  · intro s hs hcovered
    -- the signature that was checked is the one selected, and its base has a value for the digest
    obtain ⟨s', hs', hvalid, -⟩ := verifySignature_eq_ok_iff_valid.1 hverified
    obtain rfl : s' = s := hs'.unique hs
    obtain ⟨b, -, hb, -⟩ := hvalid.signed
    obtain ⟨value, hvalue⟩ := SignatureBase.exists_value_of_mem hb hcovered
    have hfield : v.fieldValue .contentDigest = .ok value := hvalue
    obtain ⟨hpresent, -⟩ := RequestView.intercalate_trim_of_fieldValue hfield
    exact ⟨RequestView.isUnreadable_of_fieldValue hfield, hdigest hpresent⟩
  · -- without a digest the body is looked at nowhere
    intro hnone body
    have hmatch' : digestMatches { v with body } = true :=
      digestMatches_eq_true.2 fun hpresent => absurd hnone hpresent
    exact verify_eq_ok.2 ⟨(verifySignature_body body).trans hverified, hmatch'⟩

/-! ### A signature by itself -/

section Written

variable {e : LabelledSignature} {key : VerifyingKey} {b : SignatureBase}

/-- A signature by itself is selected if its key is known. -/
theorem selects_of_written (he : LabelledSignature.Writable [e])
    (hkey : r.keyFor? e.params.keyId e.params.alg = some key)
    (hinput : v.headerValues .signatureInput = [e.inputText]) :
    r.Selects v ⟨e.label, e.params.asReceived, key⟩ := by
  have hdeclared : declared v = .ok [(e.label, e.params.asReceived)] :=
    declared_of_headerValues he (List.cons_ne_nil e []) hinput
  exact selects_iff.2 ⟨_, hdeclared, select?_cons_of_some hkey⟩

/-- **A signature by itself** is verified if it is current and its key accepts it, provided that it
is written as it was signed. -/
theorem verifySignature_of_written (he : LabelledSignature.Writable [e])
    (htext : e.params.baseText = e.params.text)
    (hkey : r.keyFor? e.params.keyId e.params.alg = some key) (halg : e.params.alg = key.alg.tag)
    (hfresh : e.params.checkFreshness now = .ok ())
    (hinput : v.headerValues .signatureInput = [e.inputText])
    (hsignature : v.headerValues .signature = [e.signatureText])
    (hb : SignatureBase.build v e.params = .ok b)
    (haccepts : key.accepts b.octets e.signature = true) :
    r.verifySignature now v = .ok e.params.keyId := by
  -- selection, signature and base in the order of the verifier
  obtain ⟨inputs, hdeclared, hselect⟩ := selects_iff.1 (selects_of_written he hkey hinput)
  have hfound : signatureOf v e.label = .ok e.signature :=
    signatureOf_of_headerValues he (List.mem_singleton_self e) hsignature
  have hcheck : check now v ⟨e.label, e.params.asReceived, key⟩ = .ok () := by
    refine check_eq_ok.2
      ⟨halg, hfresh, _, _, SignatureBase.build_asReceived hb, hfound, ?_⟩
    rw [(SignatureBase.octets_asReceived hb).2 htext]
    exact haccepts
  exact verifySignature_eq_ok.2 ⟨_, _, hdeclared, hselect, hcheck, rfl⟩

end Written

/-! ### A digest that is not compared -/

namespace PathOnly

open SignatureBase.Reordered (echoed view fresh freshBase)

/-- A signature that covers the path. -/
def signature : LabelledSignature :=
  ⟨"sig", fresh, freshBase.octets⟩

/-- The request with the headers of the signature. -/
def signed : RequestView :=
  (view.setHeader .signatureInput signature.inputText).setHeader .signature signature.signatureText

/-- With the digest of the body. -/
def withDigest : RequestView :=
  signed.appendHeader .contentDigest (ContentDigest.compute view.body)

/-- With a digest that has no text. -/
def unreadable : RequestView :=
  signed.appendUnreadable .contentDigest

/-- A verifier that knows the key of the signature. -/
def verifier : Verifier :=
  ⟨⟨⟨[("k", echoed)], by simp⟩, by simp [OrderedMap.keys]⟩, none⟩

theorem keyFor?_k : verifier.keyFor? "k" "hmac-sha256" = some echoed := rfl

theorem writable_signature : LabelledSignature.Writable [signature] :=
  LabelledSignature.writable_singleton (by decide) SignatureBase.Reordered.obtained_fresh.writable
    SignatureBase.Reordered.timely_fresh

/-- Every request with the two headers and the path is verified. -/
theorem verifySignature_eq {w : RequestView}
    (hinput : w.headerValues .signatureInput = [signature.inputText])
    (hsignature : w.headerValues .signature = [signature.signatureText])
    (hpath : w.componentValue (.derived .path) = .ok "/") :
    verifier.verifySignature 1 w = .ok "k" := by
  -- the path is the only component that is covered
  have hbuild : SignatureBase.build w fresh = .ok freshBase :=
    SignatureBase.build_eq_ok.2 ⟨rfl, .cons ⟨rfl, hpath⟩ .nil⟩
  exact verifySignature_of_written writable_signature rfl keyFor?_k rfl rfl hinput hsignature hbuild
    (SignatureBase.Reordered.accepts_echoed _)

theorem headerValues_signed :
    signed.headerValues .signatureInput = [signature.inputText]
      ∧ signed.headerValues .signature = [signature.signatureText]
      ∧ signed.headerValues .contentDigest = [] := by
  have hnone (n : FieldName) : view.headerValues n = [] := rfl
  unfold signed
  refine ⟨?_, ?_, ?_⟩
  · rw [RequestView.headerValues_setHeader, if_neg SignedHeaders.signatureInput_ne_signature.symm,
      RequestView.headerValues_setHeader, if_pos rfl]
  · rw [RequestView.headerValues_setHeader, if_pos rfl]
  · rw [RequestView.headerValues_setHeader, if_neg SignedHeaders.contentDigest_ne_signature.symm,
      RequestView.headerValues_setHeader, if_neg SignedHeaders.contentDigest_ne_signatureInput.symm,
      hnone]

/-- The digest that has no text is passed over. -/
theorem verify_unreadable : verifier.verify 1 unreadable = .ok "k" := by
  obtain ⟨hinput, hsignature, hdigest⟩ := headerValues_signed
  have hverified : verifier.verifySignature 1 unreadable = .ok "k" :=
    verifySignature_eq ((RequestView.headerValues_appendUnreadable ..).trans hinput)
      ((RequestView.headerValues_appendUnreadable ..).trans hsignature) rfl
  refine verify_eq_ok.2 ⟨hverified, digestMatches_eq_true.2 fun hpresent => absurd ?_ hpresent⟩
  rw [unreadable, RequestView.headerValues_appendUnreadable, hdigest]

/-- The digest of the body is accepted. -/
theorem verify_withDigest : verifier.verify 1 withDigest = .ok "k" := by
  obtain ⟨hinput, hsignature, hdigest⟩ := headerValues_signed
  have hverified : verifier.verifySignature 1 withDigest = .ok "k" := by
    refine verifySignature_eq ?_ ?_ rfl
    · rw [withDigest, RequestView.headerValues_appendHeader,
        if_neg SignedHeaders.contentDigest_ne_signatureInput, hinput]
    · rw [withDigest, RequestView.headerValues_appendHeader,
        if_neg SignedHeaders.contentDigest_ne_signature, hsignature]
  refine verify_eq_ok.2 ⟨hverified, ?_⟩
  unfold digestMatches
  rw [withDigest, RequestView.headerValues_appendHeader, if_pos rfl, hdigest]
  simp only [List.nil_append, String.intercalate_singleton]
  exact ContentDigest.verify_compute view.body

end PathOnly

open PathOnly in
/-- With a digest that can be read, the body has been compared although the signature does not cover
it. -/
theorem digest_of_verify_withDigest :
    verifier.verify 1 withDigest = .ok "k" ∧ withDigest.HoldsDigest := by
  have hpresent : withDigest.headerValues .contentDigest ≠ [] := by
    rw [withDigest, RequestView.headerValues_appendHeader, if_pos rfl]
    exact List.append_ne_nil_of_right_ne_nil _ (List.cons_ne_nil _ _)
  exact ⟨verify_withDigest, (digest_of_verify verify_withDigest).1 hpresent⟩

open PathOnly in
/-- **A digest may be passed over.** A request that is accepted and carries a digest need not have
the body of any digest that can be read. -/
theorem not_holdsDigest_of_verify :
    ¬ ∀ (r : Verifier) (now : Timestamp) (v : RequestView) (keyId : String),
      v.hasHeader .contentDigest = true → r.verify now v = .ok keyId → v.HoldsDigest := by
  intro h
  have hpresent : unreadable.hasHeader .contentDigest = true := by
    refine (unreadable.hasHeader_eq_true_iff _).2 (.inr ?_)
    rw [unreadable, RequestView.isUnreadable_appendUnreadable, beq_self_eq_true, Bool.true_or]
  obtain ⟨d, ps, hd, hmem⟩ := h verifier 1 unreadable "k" hpresent verify_unreadable
  -- what can be read of the digest is nothing, which is the empty dictionary
  have hnone : unreadable.fieldText .contentDigest = "" := by
    rw [RequestView.fieldText, unreadable, RequestView.headerValues_appendUnreadable,
      headerValues_signed.2.2]
    rfl
  rw [hnone] at hd
  obtain rfl : OrderedMap.empty = d := Option.some.inj hd
  exact absurd hmem List.not_mem_nil

end Verifier

end MessageSignatures
