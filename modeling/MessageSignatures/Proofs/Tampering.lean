import MessageSignatures.Proofs.Exchange

/-!
# Changing a request that was signed

Somebody passes on the two headers with signatures as they are and does to the rest of the request
whatever they like. Can the request still be verified?

Only if every covered component has the value that was signed, and the body has the digest that was
signed. The assumption on keys is the one a signature is there for: a key that the verifier uses for
a signature accepts it over nothing but the octets it was made over.

* **The octets** that the key accepts are those of the base on the request that came, and so they
  are those of the base on the request that was signed (`Signer.exists_base_of_accepted`).
* **The values** are told apart by the octets on requests of one line
  (`SignatureBase.values_eq_of_lineFeed_not_mem`).
* **The body.** The digest is covered by every signature, so the digest field that came has the
  value that was signed, and it was compared with the body that came
  (`Signer.sha512_eq_of_componentValue_eq`).
-/

namespace MessageSignatures

namespace Signer

variable {s : Signer} {r : Verifier} {created now : Timestamp} {entropy : Nat → Entropy}
  {v w : RequestView} {signed : SignedHeaders}

/-- **The body** has the digest that was signed, if the digest field has the value that was
signed. -/
theorem sha512_eq_of_componentValue_eq
    (h : w.componentValue .contentDigest = (working v).componentValue .contentDigest)
    (hdigest : Verifier.digestMatches w = true) : Sha2.sha512 w.body = Sha2.sha512 v.body := by
  have hvalue : w.fieldValue .contentDigest = .ok (ContentDigest.compute v.body) := by
    have hsigned : (working v).fieldValue .contentDigest
        = .ok (Text.trim (ContentDigest.compute v.body)) := RequestView.fieldValue_setHeader_self
    rw [ContentDigest.trim_compute] at hsigned
    exact Eq.trans h hsigned
  -- the digest that was checked is the one that was signed, up to white space
  exact ContentDigest.sha512_eq_of_verify_compute
    (Verifier.verify_fieldValue_of_digestMatches hdigest hvalue)

/-- The request with its digest is a request of one line. -/
theorem oneLine_working (hv : v.OneLine) : (working v).OneLine :=
  hv.setHeader (Text.lineFeed_not_mem_of_isPrintable (ContentDigest.isPrintable_compute v.body))

/-- **The octets** that a key accepted are those of a base that was signed. -/
theorem exists_base_of_accepted {keyId : String} (hsign : s.sign created entropy v = .ok signed)
    (htimely : s.Timely created)
    (hinput : w.headerValues .signatureInput = [signed.inputText])
    (hsignature : w.headerValues .signature = [signed.signatureText])
    (hkeys : ∀ e ∈ signed.signatures, ∀ b, SignatureBase.build (working v) e.params = .ok b →
      ∀ k, r.keyFor? e.params.keyId e.params.alg = some k →
        ∀ message, k.accepts message e.signature = true → message = b.octets)
    (hverified : r.verifySignature now w = .ok keyId) :
    ∃ selected, Verifier.declared w = .ok (inputs signed.signatures)
      ∧ r.select? (inputs signed.signatures) = some selected ∧ selected.params.keyId = keyId
      ∧ ∃ e ∈ signed.signatures, selected.label = e.label ∧ selected.params = e.params.asReceived
        ∧ ∃ b c, SignatureBase.build (working v) e.params = .ok b
          ∧ SignatureBase.build w e.params.asReceived = .ok c ∧ c.octets = b.octets := by
  have hwritable := writable_of_sign hsign htimely
  have hdeclared : Verifier.declared w = .ok (inputs signed.signatures) :=
    Verifier.declared_of_headerValues hwritable (signatures_ne_nil hsign) hinput
  -- what the verifier reads and selects is one of the signatures that were made
  obtain ⟨found, selected, hfound, hselect, hcheck, hkeyId⟩ :=
    Verifier.verifySignature_eq_ok.1 hverified
  obtain rfl : inputs signed.signatures = found := Except.ok.inj (hdeclared.symm.trans hfound)
  obtain ⟨hmem, hkey⟩ := Verifier.mem_of_select? hselect
  obtain ⟨e, he, heq⟩ := List.mem_map.1 hmem
  obtain ⟨hlabel, hparams⟩ := Prod.mk.inj heq
  obtain ⟨entry, -, hmade⟩ := Fallible.exists_left_of_mem (madeBy_of_sign hsign).2 he
  obtain ⟨b, -, hb, -⟩ := hmade.signed
  obtain ⟨-, -, c, signature, hc, hfoundSignature, haccepts⟩ := Verifier.check_eq_ok.1 hcheck
  -- the signature that was found under the label is the one that was made
  have hwritten := Verifier.signatureOf_of_headerValues hwritable he hsignature
  rw [hlabel, hfoundSignature, Except.ok.injEq] at hwritten
  rw [hwritten] at haccepts
  rw [← hparams] at hkey hc
  exact ⟨selected, hdeclared, hselect, hkeyId, e, he, hlabel.symm, hparams.symm, b, c, hb, hc,
    hkeys e he b hb selected.key hkey c.octets haccepts⟩

/-- **A signature binds a request.** Suppose that a request with the headers of a signed one is
accepted, and that every key which the verifier has for one of the signatures accepts it over
nothing but the octets it was made over. Then what was selected is one of the signatures, it covers
the head, every component that it covers has the value that was signed, and the body has the digest
that was signed. -/
theorem values_and_digest_of_accepted {v' : RequestView} {keyId : String}
    (hsign : s.sign created entropy v = .ok signed)
    (hrequest : s.signRequest created entropy v = .ok v') (htimely : s.Timely created)
    (hinput : w.headerValues .signatureInput = v'.headerValues .signatureInput)
    (hsignature : w.headerValues .signature = v'.headerValues .signature)
    (hv : v.OneLine) (hw : w.OneLine)
    (hkeys : ∀ e ∈ signed.signatures, ∀ b, SignatureBase.build (working v) e.params = .ok b →
      ∀ k, r.keyFor? e.params.keyId e.params.alg = some k →
        ∀ message, k.accepts message e.signature = true → message = b.octets)
    (hverify : r.verify now w = .ok keyId) :
    ∃ inputs selected, Verifier.declared w = .ok inputs ∧ r.select? inputs = some selected
      ∧ selected.params.keyId = keyId
      ∧ (∃ e ∈ signed.signatures, selected.label = e.label
        ∧ selected.params = e.params.asReceived)
      ∧ headComponents ⊆ selected.params.covered
      ∧ (∀ id ∈ selected.params.covered, ∃ x, w.componentValue id = .ok x
        ∧ (working v).componentValue id = .ok x)
      ∧ Sha2.sha512 w.body = Sha2.sha512 v.body := by
  obtain ⟨signed', hsign', rfl⟩ := signRequest_eq_ok.1 hrequest
  obtain rfl : signed = signed' := Except.ok.inj (hsign.symm.trans hsign')
  -- both headers of the signature are the ones that were put there
  rw [SignedHeaders.headerValues_signatureInput] at hinput
  rw [SignedHeaders.headerValues_signature] at hsignature
  obtain ⟨hverified, hdigest⟩ := Verifier.verify_eq_ok.1 hverify
  obtain ⟨selected, hdeclared, hselect, hkeyId, e, he, hlabel, hparams, b, c, hb, hc, hoctets⟩ :=
    exists_base_of_accepted hsign htimely hinput hsignature hkeys hverified
  obtain ⟨entry, -, hmade⟩ := Fallible.exists_left_of_mem (madeBy_of_sign hsign).2 he
  -- neither request has a line feed that could move from one value to another
  have hvalues : ∀ id ∈ e.params.covered,
      w.componentValue id = (working v).componentValue id :=
    SignatureBase.values_eq_of_lineFeed_not_mem (p := e.params.asReceived)
      (LabelledSignature.obtained_asReceived (writable_of_sign hsign htimely) he)
      hmade.declares.obtained hc hb hoctets
      (fun _ _ h => hw.lineFeed_not_mem h) (fun _ _ h => (oneLine_working hv).lineFeed_not_mem h)
  -- the head is always covered
  have hhead : headComponents ⊆ e.params.covered := by
    rw [hmade.declares.covered]
    exact fun id hid => mem_withHead.2 (.inl hid)
  refine ⟨_, selected, hdeclared, hselect, hkeyId, ⟨e, he, hlabel, hparams⟩, ?_, ?_, ?_⟩
  · rw [hparams]
    exact hhead
  · intro id hid
    rw [hparams] at hid
    obtain ⟨x, hx⟩ := SignatureBase.exists_value_of_mem hb hid
    exact ⟨x, (hvalues id hid).trans hx, hx⟩
  · exact sha512_eq_of_componentValue_eq (hvalues _ (hhead List.mem_cons_self)) hdigest

/-! ### A change that does not matter -/

namespace TwoKeys

open SignatureBase.Reordered (echo echoed view)

theorem oneLine_view : view.OneLine :=
  ⟨by decide, by decide, by simp [view], by simp [view], by simp [view]⟩

/-- The signed request with its method in lower case. -/
def lowerCase (signed : SignedHeaders) : RequestView :=
  { signed.applyTo view with method := "get" }

theorem componentValue_lowerCase (signed : SignedHeaders) (id : ComponentId) :
    (lowerCase signed).componentValue id = (signed.applyTo view).componentValue id := by
  cases id with
  | derived d =>
    cases d with
    | method =>
      have hupper : "get".toUpper = "GET".toUpper :=
        (Text.toUpper_eq (by decide)).trans (Text.toUpper_eq (by decide) : _ = "GET").symm
      exact congrArg Except.ok hupper
    | _ => rfl
  | contentDigest => rfl
  | field n token other => rfl

theorem oneLine_lowerCase {signed : SignedHeaders} (h : (signed.applyTo view).OneLine) :
    (lowerCase signed).OneLine :=
  ⟨(by decide : '\n' ∉ "get".toList), h.path, h.query, h.authority, h.headers⟩

/-- What is signed is the signature, so it is accepted over nothing else. -/
theorem eq_octets_of_accepts {s : Signer} (hs : config.build = .ok s) {signed : SignedHeaders}
    (hsign : s.sign created entropy view = .ok signed) :
    ∀ e ∈ signed.signatures, ∀ b, SignatureBase.build (working view) e.params = .ok b →
      ∀ k, verifier.keyFor? e.params.keyId e.params.alg = some k →
        ∀ message, k.accepts message e.signature = true → message = b.octets := by
  intro e he b hb k hk message haccepts
  obtain ⟨entry, hentry, hmade⟩ := Fallible.exists_left_of_mem (madeBy_of_sign hsign).2 he
  obtain ⟨b', entropy', hb', hsigned⟩ := hmade.signed
  obtain rfl : b = b' := Except.ok.inj (hb.symm.trans hb')
  rw [eq_echo hs entry hentry] at hsigned
  rw [eq_echoed hk, ← Except.ok.inj hsigned] at haccepts
  exact beq_iff_eq.1 haccepts

theorem verify_lowerCase {s : Signer} (hs : config.build = .ok s) {signed : SignedHeaders}
    (hsign : s.sign 100 entropy view = .ok signed) :
    verifier.verify 120 (lowerCase signed) = .ok "b" := by
  have houtcome : verifier.verify 120 (lowerCase signed) = outcome s verifier 100 120 :=
    verify_eq_outcome hsign (timely hs) (matches_known hs)
      (SignedHeaders.headerValues_signatureInput signed view)
      (SignedHeaders.headerValues_signature signed view)
      (fun id hid => (componentValue_lowerCase signed id).trans
        (componentValue_of_mem_coveredOn hs (fun _ h => absurd h List.not_mem_nil) hsign hid))
      (digestMatches_signed hsign)
  rw [houtcome, outcome_eq hs]

end TwoKeys

open TwoKeys SignatureBase.Reordered in
/-- With its method in lower case, a signed request is accepted: the value that is signed is in
upper case. -/
theorem values_and_digest_of_accepted_lowerCase :
    ∃ s signed, config.build = .ok s ∧ s.sign 100 (fun _ _ => 0) view = .ok signed
      ∧ verifier.verify 120 (lowerCase signed) = .ok "b"
      ∧ ∃ inputs selected, Verifier.declared (lowerCase signed) = .ok inputs
        ∧ verifier.select? inputs = some selected ∧ selected.params.keyId = "b"
        ∧ headComponents ⊆ selected.params.covered
        ∧ (∀ id ∈ selected.params.covered, ∃ x, (lowerCase signed).componentValue id = .ok x
          ∧ (working view).componentValue id = .ok x)
        ∧ Sha2.sha512 (lowerCase signed).body = Sha2.sha512 view.body := by
  obtain ⟨s, hs⟩ := TwoKeys.exists_build
  obtain ⟨signed, hsign⟩ := exists_signed hs 100 fun _ _ => 0
  have hrequest : s.signRequest 100 (fun _ _ => 0) view = .ok (signed.applyTo view) :=
    signRequest_eq_ok.2 ⟨signed, hsign, rfl⟩
  have hline := oneLine_lowerCase (oneLine_applyTo hsign oneLine_view)
  have hverify := verify_lowerCase hs hsign
  obtain ⟨inputs, selected, hdeclared, hselect, hkeyId, -, hhead, hvalues, hdigest⟩ :=
    values_and_digest_of_accepted (w := lowerCase signed) hsign hrequest (timely hs) rfl rfl
      oneLine_view hline
      (eq_octets_of_accepts hs hsign) hverify
  exact ⟨s, signed, hs, hsign, hverify, inputs, selected, hdeclared, hselect, hkeyId,
    hhead, hvalues, hdigest⟩

end Signer

end MessageSignatures
