import MessageSignatures.Proofs.Exchange

/-!
# The base on the signed request

A signer makes a signature over the base of the request as it works on it, with the digest of its
body in place. Then it puts three headers on the request: the digest, and the two that hold
signatures. Is the base of the signed request still the one that was signed?

* **It exists.** All three headers have a value on the signed request, and no other component has
  changed (`exists_base_of_sign`).
* **It is the same** unless the signature covers one of the two headers that hold signatures. Such a
  component is signed with the value that the request came with and is then replaced
  (`ComponentId.Replaced`). The octets are the same only if the new value happens to be the old one:
  what is written is a single line, so that no line feed of an old value can make up for a change
  (`SignatureBase.octets_eq_iff_of_lineFeeds_le`).
-/

namespace MessageSignatures

/-- **Replaced component.** It is taken from a header that holds signatures. -/
def ComponentId.Replaced (id : ComponentId) : Prop :=
  id.fieldName? = some .signatureInput ∨ id.fieldName? = some .signature

namespace Signer

variable {s : Signer} {now : Timestamp} {entropy : Nat → Entropy} {v : RequestView}
  {signed : SignedHeaders} {id : ComponentId}

theorem componentValue_of_not_replaced (hsign : s.sign now entropy v = .ok signed)
    (hid : ¬ id.Replaced) :
    (signed.applyTo v).componentValue id = (working v).componentValue id :=
  componentValue_applyTo_of_sign hsign (fun h => hid (.inl h)) (fun h => hid (.inr h))

theorem lineFeeds_trim_of_isPrintable {t : String} (h : Text.isPrintable t = true) :
    Text.lineFeeds (Text.trim t) = 0 := by
  rw [Text.lineFeeds_eq_zero]
  exact Text.lineFeed_not_mem_trim (Text.lineFeed_not_mem_of_isPrintable h)

/-- A replaced component has a value of one line, the header that was written. -/
theorem exists_value_of_replaced (hsign : s.sign now entropy v = .ok signed) (hid : id.Replaced) :
    ∃ x, (signed.applyTo v).componentValue id = .ok x ∧ Text.lineFeeds x = 0 := by
  obtain ⟨hinput, hsignature⟩ := LabelledSignature.isPrintable_texts (printable_of_sign hsign)
  rcases hid with hfield | hfield
  · rw [RequestView.componentValue_eq_fieldValue hfield, SignedHeaders.fieldValue_signatureInput]
    exact ⟨_, rfl, lineFeeds_trim_of_isPrintable hinput⟩
  · rw [RequestView.componentValue_eq_fieldValue hfield, SignedHeaders.fieldValue_signature]
    exact ⟨_, rfl, lineFeeds_trim_of_isPrintable hsignature⟩

/-- **The base on the signed request** exists if there was one to sign, and it is the one that was
signed exactly if the replaced components have kept their values. -/
theorem exists_base_of_sign (hsign : s.sign now entropy v = .ok signed) {p : SignatureParams}
    {b : SignatureBase} (hb : SignatureBase.build (working v) p = .ok b) :
    ∃ b', SignatureBase.build (signed.applyTo v) p = .ok b'
      ∧ (b'.octets = b.octets ↔ ∀ id ∈ p.covered, id.Replaced →
        (signed.applyTo v).componentValue id = (working v).componentValue id) := by
  -- each component resolves on the sent request, the replaced ones by what was set
  have hvalue : ∀ id ∈ p.covered, ∃ x, (signed.applyTo v).componentValue id = .ok x := by
    intro id hid
    by_cases hreplaced : id.Replaced
    · obtain ⟨x, hx, -⟩ := exists_value_of_replaced hsign hreplaced
      exact ⟨x, hx⟩
    · rw [componentValue_of_not_replaced hsign hreplaced]
      exact SignatureBase.exists_value_of_mem hb hid
  obtain ⟨b', hb'⟩ : ∃ b', SignatureBase.build (signed.applyTo v) p = .ok b' := exists_build hvalue
  -- a value that has changed is a single line now, so it holds no more line feeds than before
  have hle : ∀ id ∈ p.covered, ∀ x y, (signed.applyTo v).componentValue id = .ok x →
      (working v).componentValue id = .ok y → Text.lineFeeds x ≤ Text.lineFeeds y := by
    intro id _ x y hx hy
    by_cases hreplaced : id.Replaced
    · obtain ⟨x', hx', hline⟩ := exists_value_of_replaced hsign hreplaced
      obtain rfl : x = x' := Except.ok.inj (hx.symm.trans hx')
      rw [hline]
      exact Nat.zero_le _
    · rw [componentValue_of_not_replaced hsign hreplaced, hy] at hx
      obtain rfl := Except.ok.inj hx
      exact Nat.le_refl _
  refine ⟨b', hb', (SignatureBase.octets_eq_iff_of_lineFeeds_le hb' hb hle).trans ?_⟩
  constructor
  · -- one half asks about the replaced components only
    intro h id hid _
    exact h id hid
  · -- the others are the same on both sides
    intro h id hid
    by_cases hreplaced : id.Replaced
    · exact h id hid hreplaced
    · exact componentValue_of_not_replaced hsign hreplaced

/-- A replaced component is covered only if the signer is configured for it and the request came
with its header. -/
theorem mem_covered_of_replaced (hid : id ∈ s.coveredOn v) (hreplaced : id.Replaced) :
    id ∈ s.covered ∧ isPresent v id = true := by
  rcases mem_withHead.1 hid with hhead | hmem
  · obtain ⟨hinput, hsignature⟩ := SignedHeaders.fieldName?_ne_of_mem_headComponents hhead
    rcases hreplaced with hfield | hfield
    · exact absurd hfield hinput
    · exact absurd hfield hsignature
  · exact List.mem_filter.1 hmem

/-- **Signed and put on the request.** For each key in turn, the signed request has a base with the
parameters of its signature. It is the base that the key signed exactly if the covered headers that
hold signatures have kept their values; and such a header is covered only if the signer is
configured for it and the request came with it. -/
theorem base_of_signRequest {v' : RequestView} (h : s.signRequest now entropy v = .ok v') :
    ∃ signed, s.sign now entropy v = .ok signed ∧ signed.applyTo v = v'
      ∧ List.Forall₂ (fun entry e => ∃ b b', SignatureBase.build (working v) e.params = .ok b
          ∧ entry.1.2.sign (entropy entry.2) b.octets = .ok e.signature
          ∧ SignatureBase.build v' e.params = .ok b'
          ∧ (b'.octets = b.octets ↔ ∀ id ∈ e.params.covered, id.Replaced →
            v'.componentValue id = (working v).componentValue id)
          ∧ ∀ id ∈ e.params.covered, id.Replaced →
            id ∈ s.covered ∧ isPresent (working v) id = true)
        s.keys.entries.zipIdx signed.signatures := by
  obtain ⟨signed, hsign, rfl⟩ := signRequest_eq_ok.1 h
  refine ⟨signed, hsign, rfl, (signedBy_of_sign hsign).imp ?_⟩
  intro entry e he
  obtain ⟨b, hb, hsignature⟩ := he.signed
  obtain ⟨b', hb', hiff⟩ := exists_base_of_sign hsign hb
  refine ⟨b, b', hb, hsignature, hb', hiff, fun id hid => ?_⟩
  -- a signature covers what the signer covers on the request
  rw [he.madeBy.declares.covered] at hid
  exact mem_covered_of_replaced hid

open TwoKeys SignatureBase.Reordered in
/-- A signer that covers the default fields covers no header that holds signatures, so both of its
bases stay. -/
theorem base_of_signRequest_two_keys :
    ∃ s v' signed, config.build = .ok s ∧ s.signRequest 100 (fun _ _ => 0) view = .ok v'
      ∧ s.sign 100 (fun _ _ => 0) view = .ok signed
      ∧ ∀ e ∈ signed.signatures, ∃ b b', SignatureBase.build (working view) e.params = .ok b
        ∧ SignatureBase.build v' e.params = .ok b' ∧ b'.octets = b.octets := by
  obtain ⟨s, hs⟩ := TwoKeys.exists_build
  obtain ⟨signed, hsigned⟩ := exists_signed hs 100 fun _ _ => 0
  have hrequest : s.signRequest 100 (fun _ _ => 0) view = .ok (signed.applyTo view) :=
    signRequest_eq_ok.2 ⟨signed, hsigned, rfl⟩
  -- nothing but the default components is covered, and those are never replaced
  have hcovered : ∀ id ∈ s.covered, ¬ id.Replaced := by
    intro id hid hreplaced
    obtain ⟨name, hname, hfield⟩ := exists_name_of_mem_covered hs hid
    obtain ⟨hsignature, hinput⟩ :=
      ofString_ne_of_mem_defaultCovered (hname.resolve_left List.not_mem_nil)
    rcases hreplaced with h | h
    · exact hinput (Option.some.inj (hfield.symm.trans h))
    · exact hsignature (Option.some.inj (hfield.symm.trans h))
  obtain ⟨signed', hsigned', -, hbases⟩ := base_of_signRequest hrequest
  obtain rfl : signed = signed' := Except.ok.inj (hsigned.symm.trans hsigned')
  refine ⟨s, _, signed, hs, hrequest, hsigned, fun e he => ?_⟩
  obtain ⟨-, -, b, b', hb, -, hb', hiff, honly⟩ := Fallible.exists_left_of_mem hbases he
  -- so the two bases are the same
  refine ⟨b, b', hb, hb', hiff.2 fun id hid hreplaced => ?_⟩
  exact absurd hreplaced (hcovered id (honly id hid hreplaced).1)

/-! ### A header of signatures that is covered -/

namespace Resigned

open SignatureBase.Reordered (echo view)

/-- A signer that covers the header with the signatures a request came with. -/
def config : SignerConfig where
  keys := [("a", echo)]
  covered := ["signature"]

/-- A request that came with such a header. -/
def request : RequestView :=
  view.setHeader .signature "old"

theorem ofString_signature : FieldName.ofString (Text.trim "signature") = .signature := rfl

theorem hasKeys : config.HasKeys :=
  ⟨List.cons_ne_nil _ _, by decide, by decide, by decide⟩

theorem isFieldName_config : ∀ name ∈ config.covered, IsFieldName name :=
  List.forall_mem_singleton.2 ⟨by decide, by decide⟩

/-- The signer covers a component that it replaces. -/
theorem exists_build : ∃ s id, config.build = .ok s ∧ s.covered = [id]
    ∧ id.fieldName? = some .signature := by
  obtain ⟨s, hs⟩ := SignerConfig.exists_build_iff.2 ⟨hasKeys, isFieldName_config⟩
  obtain ⟨ids, hids, hfold⟩ := coverFields_eq_ok.1 (SignerConfig.build_eq_ok hs).2.2
  -- one name is read, so there is one component
  obtain ⟨id, rest, hid, hrest, rfl⟩ := List.forall₂_cons_left_iff.1 (Fallible.mapM_eq_ok.1 hids)
  obtain rfl := List.forall₂_nil_left_iff.1 hrest
  exact ⟨s, id, hs, hfold.symm,
    (ComponentId.fieldName?_of_ofField hid).trans (congrArg some ofString_signature)⟩

theorem eq_echo {s : Signer} (hs : config.build = .ok s) :
    ∀ entry ∈ s.keys.entries, entry.2 = echo := by
  rw [(SignerConfig.build_eq_ok hs).1]
  intro entry hentry
  obtain rfl := List.mem_singleton.1 hentry
  rfl

/-- The one that came with the request is signed. -/
theorem fieldValue_working : (working request).fieldValue .signature = .ok "old" := by
  have htrim : Text.trim "old" = "old" := rfl
  rw [working, request, RequestView.fieldValue_setHeader SignedHeaders.contentDigest_ne_signature,
    RequestView.fieldValue_setHeader_self, htrim]

/-- The one that is written holds an equals sign. -/
theorem trim_signatureText_ne {s : Signer} (hs : config.build = .ok s) {signed : SignedHeaders}
    (hsign : s.sign now entropy request = .ok signed) :
    Text.trim signed.signatureText ≠ "old" := by
  have hmade := (madeBy_of_sign hsign).2
  rw [(SignerConfig.build_eq_ok hs).1] at hmade
  obtain ⟨e, es, -, hes, heq⟩ := List.forall₂_cons_left_iff.1 hmade
  rw [List.forall₂_nil_left_iff.1 hes] at heq
  -- the label and the octets of the signature stand on the two sides of an equals sign
  have hequals : '=' ∈ signed.signatureText.toList := by
    have hsign : "=".toList = ['='] := rfl
    rw [SignedHeaders.signatureText, heq, List.map_singleton, String.intercalate_singleton,
      LabelledSignature.signatureText]
    simp [hsign]
  intro h
  -- it is no white space, so trimming leaves it
  obtain ⟨before, after, hchars, hbefore, hafter⟩ := Text.exists_trim_eq signed.signatureText
  have hblank : Text.isBlank '=' = false := by decide
  -- no part of the trimmed text and its margins holds it
  rw [hchars, h, List.mem_append, List.mem_append] at hequals
  rcases hequals with (hmem | hmem) | hmem
  · rw [List.all_eq_true.1 hbefore _ hmem] at hblank
    cases hblank
  · exact absurd hmem (by decide)
  · rw [List.all_eq_true.1 hafter _ hmem] at hblank
    cases hblank

end Resigned

open Resigned SignatureBase.Reordered in
/-- **A signer may sign what it replaces.** The base of the signed request need not be the one that
was signed. -/
theorem not_base_of_signRequest :
    ¬ ∀ (c : SignerConfig) (s : Signer) (now : Timestamp) (entropy : Nat → Entropy)
      (v v' : RequestView) (signed : SignedHeaders), c.build = .ok s →
      s.sign now entropy v = .ok signed → s.signRequest now entropy v = .ok v' →
        ∀ e ∈ signed.signatures, ∀ b, SignatureBase.build (working v) e.params = .ok b →
          ∃ b', SignatureBase.build v' e.params = .ok b' ∧ b'.octets = b.octets := by
  intro h
  obtain ⟨s, id, hs, hcovered, hfield⟩ := Resigned.exists_build
  obtain ⟨signed, hsign⟩ : ∃ signed, s.sign 1 (fun _ _ => 0) request = .ok signed :=
    exists_sign_of_echo hs (eq_echo hs) (fun _ _ _ _ _ => rfl) 1 _
  -- the old value is what is signed, and the new one is what is sent
  have hrequest : s.signRequest 1 (fun _ _ => 0) request = .ok (signed.applyTo request) :=
    signRequest_eq_ok.2 ⟨signed, hsign, rfl⟩
  obtain ⟨e, he⟩ : ∃ e, e ∈ signed.signatures :=
    List.exists_mem_of_ne_nil _ (signatures_ne_nil hsign)
  obtain ⟨entry, -, hmade⟩ := Fallible.exists_left_of_mem (madeBy_of_sign hsign).2 he
  obtain ⟨b, -, hb, -⟩ := hmade.signed
  have hvalue : (working request).componentValue id = .ok "old" :=
    (RequestView.componentValue_eq_fieldValue hfield).trans fieldValue_working
  -- the component is configured and the request came with it, so it is covered
  have hid : id ∈ e.params.covered := by
    have hpresent : isPresent (working request) id = true :=
      isPresent_of_fieldValue hfield fieldValue_working
    rw [hmade.declares.covered]
    refine mem_withHead.2 (.inr (List.mem_filter.2 ⟨?_, hpresent⟩))
    rw [hcovered]
    exact List.mem_singleton_self id
  obtain ⟨b', hb', hoctets⟩ := h config s 1 _ request _ signed hs hsign hrequest e he b hb
  obtain ⟨b'', hb'', hiff⟩ := exists_base_of_sign hsign hb
  obtain rfl : b' = b'' := Except.ok.inj (hb'.symm.trans hb'')
  -- the bases would agree only if the value did
  have hkept := hiff.1 hoctets id hid (.inr hfield)
  rw [hvalue, RequestView.componentValue_eq_fieldValue hfield,
    SignedHeaders.fieldValue_signature] at hkept
  exact trim_signatureText_ne hs hsign (Except.ok.inj hkept)

end Signer

end MessageSignatures
