import MessageSignatures.Proofs.ContentDigest
import MessageSignatures.Proofs.Signature.Labelled
import MessageSignatures.Verifier

/-!
# What a verifier checks

* **Stages.** Verifying succeeds exactly if every stage does (`verify_eq_ok`,
  `verifySignature_eq_ok`, `check_eq_ok`).
* **Selection.** What is selected is declared, and its key is the one that the verifier has for the
  declared id and algorithm (`mem_of_select?`).
* **Digest.** The digest is checked in the lines of its field and signed in the trimmed lines; what
  is accepted there is accepted here (`verify_fieldValue_of_digestMatches`).
* **Written headers.** On a request whose two headers were written from a list of signatures, a
  verifier finds exactly those (`declared_of_headerValues`, `signatureOf_of_headerValues`).
-/

namespace MessageSignatures

namespace Verifier

variable {r : Verifier} {v : RequestView} {now : Timestamp} {s : Selection}

/-! ### Stages -/

theorem select?_cons_of_some {label : String} {params : SignatureParams} {key : VerifyingKey}
    {inputs : List (String × SignatureParams)} (h : r.keyFor? params.keyId params.alg = some key) :
    r.select? ((label, params) :: inputs) = some ⟨label, params, key⟩ := by
  rw [select?, h]

theorem select?_cons_of_none {label : String} {params : SignatureParams}
    {inputs : List (String × SignatureParams)} (h : r.keyFor? params.keyId params.alg = none) :
    r.select? ((label, params) :: inputs) = r.select? inputs := by
  rw [select?, h]

theorem mem_of_select? {inputs : List (String × SignatureParams)} (h : r.select? inputs = some s) :
    (s.label, s.params) ∈ inputs ∧ r.keyFor? s.params.keyId s.params.alg = some s.key := by
  induction inputs with
  | nil => cases h
  | cons input inputs ih =>
    obtain ⟨label, params⟩ := input
    -- the first input with a known key is the one selected
    rw [select?] at h
    split at h
    · next key hkey =>
      cases h
      exact ⟨List.mem_cons_self, hkey⟩
    · obtain ⟨hmem, hkey⟩ := ih h
      exact ⟨List.mem_cons_of_mem _ hmem, hkey⟩

theorem verify_key_eq_ok {key : VerifyingKey} {message signature : List UInt8} :
    key.verify message signature = .ok () ↔ key.accepts message signature = true := by
  unfold VerifyingKey.verify
  split
  · next h => exact ⟨fun _ => h, fun _ => rfl⟩
  · next h => exact ⟨nofun, fun hk => absurd hk h⟩

/-- **A check** goes through if the algorithm agrees, the time is right, every component has a
value, and the key accepts the signature over the base. -/
theorem check_eq_ok :
    check now v s = .ok () ↔ s.params.alg = s.key.alg.tag ∧ s.params.checkFreshness now = .ok ()
      ∧ ∃ b signature, SignatureBase.build v s.params = .ok b
        ∧ signatureOf v s.label = .ok signature ∧ s.key.accepts b.octets signature = true := by
  unfold check
  constructor
  · intro h
    -- the stages in their order, each of which has been passed
    obtain ⟨halg, h⟩ := Fallible.guard_eq_ok.1 h
    obtain ⟨⟨⟩, hfresh, h⟩ := Fallible.bind_eq_ok.1 h
    obtain ⟨b, hb, h⟩ := Fallible.bind_eq_ok.1 h
    obtain ⟨signature, hsignature, h⟩ := Fallible.bind_eq_ok.1 h
    exact ⟨not_not.1 halg, hfresh, b, signature, hb, hsignature, verify_key_eq_ok.1 h⟩
  · rintro ⟨halg, hfresh, b, signature, hb, hsignature, haccepts⟩
    refine Fallible.guard_eq_ok.2 ⟨not_not.2 halg, ?_⟩
    rw [hfresh, Fallible.ok_bind, hb, Fallible.ok_bind, hsignature, Fallible.ok_bind]
    exact verify_key_eq_ok.2 haccepts

theorem verifySignature_eq_ok {keyId : String} :
    r.verifySignature now v = .ok keyId ↔ ∃ inputs s, declared v = .ok inputs
      ∧ r.select? inputs = some s ∧ check now v s = .ok () ∧ s.params.keyId = keyId := by
  unfold verifySignature
  constructor
  · intro h
    obtain ⟨inputs, hinputs, h⟩ := Fallible.bind_eq_ok.1 h
    split at h
    · cases h
    · next s hs =>
      obtain ⟨⟨⟩, hcheck, h⟩ := Fallible.bind_eq_ok.1 h
      exact ⟨inputs, s, hinputs, hs, hcheck, Except.ok.inj h⟩
  · rintro ⟨inputs, s, hinputs, hs, hcheck, rfl⟩
    rw [hinputs, Fallible.ok_bind, hs]
    simp only
    rw [hcheck]
    rfl

theorem verify_eq_ok {keyId : String} :
    r.verify now v = .ok keyId
      ↔ r.verifySignature now v = .ok keyId ∧ digestMatches v = true := by
  unfold verify
  constructor
  · intro h
    obtain ⟨keyId', hkeyId, h⟩ := Fallible.bind_eq_ok.1 h
    split at h
    · next hdigest =>
      cases h
      exact ⟨hkeyId, hdigest⟩
    · cases h
  · rintro ⟨hkeyId, hdigest⟩
    rw [hkeyId, Fallible.ok_bind, if_pos hdigest]
    rfl

/-- **The value of the digest** that is signed is the digest of the body, if the request has been
found to carry it. -/
theorem verify_fieldValue_of_digestMatches {value : String} (h : digestMatches v = true)
    (hvalue : v.fieldValue .contentDigest = .ok value) :
    ContentDigest.verify v.body value = true := by
  obtain ⟨hpresent, rfl⟩ := RequestView.intercalate_trim_of_fieldValue hvalue
  unfold digestMatches at h
  split at h
  · next hnil => exact absurd hnil hpresent
  · exact ContentDigest.verify_trim h

/-! ### Written headers -/

variable {es : List LabelledSignature}

/-- **Declared signatures** are read as they were written. -/
theorem declared_of_headerValues (hes : LabelledSignature.Writable es) (hne : es ≠ [])
    (h : v.headerValues .signatureInput
      = [", ".intercalate (es.map LabelledSignature.inputText)]) :
    declared v = .ok (es.map fun e => (e.label, e.params.asReceived)) := by
  obtain ⟨m, hm, hentries⟩ := LabelledSignature.parseSignatureInput_inputText hes
  have hempty : m.isEmpty = false := by
    -- at least one signature was written
    rw [OrderedMap.isEmpty, hentries]
    cases es with
    | nil => exact absurd rfl hne
    | cons e es => rfl
  unfold declared
  rw [h]
  simp only [String.intercalate_singleton, hm]
  rw [hempty, if_neg Bool.false_ne_true, hentries]

/-- **The octets of a signature** are read as they were written. -/
theorem signatureOf_of_headerValues (hes : LabelledSignature.Writable es) {e : LabelledSignature}
    (he : e ∈ es)
    (h : v.headerValues .signature = [", ".intercalate (es.map LabelledSignature.signatureText)]) :
    signatureOf v e.label = .ok e.signature := by
  unfold signatureOf
  rw [h]
  simp only [String.intercalate_singleton]
  exact LabelledSignature.parseSignature_signatureText hes.printable he

end Verifier

end MessageSignatures
