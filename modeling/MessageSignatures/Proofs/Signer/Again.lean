import MessageSignatures.Proofs.Relevance

/-!
# Signing again

Signing puts three headers on a request, each in place of what was there under its name, so what a
request came with under these names is gone after one signing.

* **Frame.** The other headers stay where they are, and the three follow them in a fixed order
  (`SignedHeaders.applyTo_eq`). Putting the same headers on once more changes nothing
  (`SignedHeaders.applyTo_applyTo`).
* **The same signatures.** A signer looks at nothing that it has put on a request, unless it is
  configured to cover a header with signatures. To such a signer the request and the signed request
  are indistinct (`Signer.indistinct_applyTo`), so deterministic keys make the same signatures
  again.
-/

namespace MessageSignatures

namespace SignedHeaders

/-- **The fields that signing sets.** -/
def fields : List FieldName :=
  [.contentDigest, .signatureInput, .signature]

theorem host_not_mem_fields : FieldName.host ∉ fields := by
  simp only [fields, List.mem_cons, List.not_mem_nil, or_false, not_or]
  exact ⟨contentDigest_ne_host.symm, signatureInput_ne_host.symm, signature_ne_host.symm⟩

variable (signed : SignedHeaders) (v : RequestView)

/-- A field is none of the three if it is not the one, the other or the third. -/
theorem decide_not_mem_fields (n : FieldName) :
    decide (n ∉ fields) = (n != .signature && (n != .signatureInput && n != .contentDigest)) := by
  rw [Bool.eq_iff_iff]
  simp only [fields, List.mem_cons, List.not_mem_nil, or_false, not_or, decide_eq_true_eq,
    Bool.and_eq_true, bne_iff_ne]
  tauto

/-- **The signed request** as a whole: the three headers follow the others, and nothing else has
changed. -/
theorem applyTo_eq :
    signed.applyTo v = { v with
      headers := v.headers.filter (fun h => h.1 ∉ fields)
        ++ [(.contentDigest, signed.contentDigest),
        (.signatureInput, signed.inputText), (.signature, signed.signatureText)]
      unreadable := v.unreadable.filter (· ∉ fields) } := by
  -- both sides leave out the old values of the three fields
  simp only [applyTo, RequestView.setHeader, RequestView.removeHeader, RequestView.appendHeader,
    List.filter_append, List.filter_filter, decide_not_mem_fields]
  simp [contentDigest_ne_signatureInput, contentDigest_ne_signature, signatureInput_ne_signature]

/-- **Once is enough.** The three headers make room for themselves. -/
theorem applyTo_applyTo : signed.applyTo (signed.applyTo v) = signed.applyTo v := by
  rw [applyTo_eq, applyTo_eq]
  simp [List.filter_append, List.filter_filter, fields]

/-- **Frame.** The signed request differs in the three fields at most. -/
theorem agreeOff_applyTo : v.AgreeOff fields (signed.applyTo v) := by
  have hmem : FieldName.contentDigest ∈ fields ∧ FieldName.signatureInput ∈ fields
      ∧ FieldName.signature ∈ fields := by
    simp [fields]
  exact (((RequestView.AgreeOff.refl fields v).setHeader hmem.1 _).setHeader hmem.2.1 _).setHeader
    hmem.2.2 _

/-- **The other headers** stay in their order, and so does the record of values without text. -/
theorem filter_applyTo :
    (signed.applyTo v).headers.filter (fun h => h.1 ∉ fields)
        = v.headers.filter (fun h => h.1 ∉ fields)
      ∧ (signed.applyTo v).unreadable.filter (· ∉ fields) = v.unreadable.filter (· ∉ fields) := by
  rw [applyTo_eq]
  simp [List.filter_append, List.filter_filter, fields]

/-- **One value** each, with text, is what the three fields have. -/
theorem exists_value_applyTo {n : FieldName} (h : n ∈ fields) :
    (∃ x, (signed.applyTo v).headerValues n = [x]) ∧ (signed.applyTo v).isUnreadable n = false := by
  constructor
  · -- the three fields, one by one
    simp only [fields, List.mem_cons, List.not_mem_nil, or_false] at h
    rcases h with rfl | rfl | rfl
    · exact ⟨_, headerValues_contentDigest signed v⟩
    · exact ⟨_, headerValues_signatureInput signed v⟩
    · exact ⟨_, headerValues_signature signed v⟩
  · rw [applyTo_eq]
    simp [RequestView.isUnreadable, h]

end SignedHeaders

namespace Signer

variable {c : SignerConfig} {s : Signer} {now : Timestamp} {entropy : Nat → Entropy}
  {v : RequestView}

/-- **What signing adds** makes no difference to a signer that is not configured for the headers
with signatures. -/
theorem indistinct_applyTo (h : c.build = .ok s)
    (hnames : ∀ name ∈ c.covered, FieldName.ofString (Text.trim name) ≠ .signature
      ∧ FieldName.ofString (Text.trim name) ≠ .signatureInput)
    (signed : SignedHeaders) (v : RequestView) : s.Indistinct v (signed.applyTo v) := by
  -- the request with new headers differs in those headers, none of which is looked at
  refine indistinct_of_agreeOff (SignedHeaders.agreeOff_applyTo signed v)
    SignedHeaders.host_not_mem_fields fun id hid hdigest => ?_
  obtain ⟨hinput, hsignature⟩ := fieldName?_ne_of_mem_covered h hnames hid
  obtain ⟨n, hn⟩ := exists_fieldName?_of_mem_covered h hid
  rw [ComponentId.ofString_name hn]
  simp only [SignedHeaders.fields, List.mem_cons, List.not_mem_nil, or_false, not_or]
  refine ⟨?_, fun heq => hinput (heq ▸ hn), fun heq => hsignature (heq ▸ hn)⟩
  rintro rfl
  exact hdigest (ComponentId.eq_contentDigest_of_fieldName? hn)

/-- **Signing again** at the same time gives the same request, if the keys are deterministic and no
header with signatures is covered. One signing replaces three headers and leaves everything else as
it is: the parts of the request, the order of the other headers, and which of them have values
without text. -/
theorem signRequest_again (h : c.build = .ok s)
    (hnames : ∀ name ∈ c.covered, FieldName.ofString (Text.trim name) ≠ .signature
      ∧ FieldName.ofString (Text.trim name) ≠ .signatureInput)
    (hkeys : ∀ entry ∈ s.keys.entries, entry.2.Deterministic) {v' : RequestView}
    (hsign : s.signRequest now entropy v = .ok v') :
    (∀ entropy', s.signRequest now entropy' v' = .ok v')
      ∧ (v'.method = v.method ∧ v'.path = v.path ∧ v'.query = v.query
        ∧ v'.explicitAuthority = v.explicitAuthority ∧ v'.authority = v.authority
          ∧ v'.body = v.body)
      ∧ (v'.headers.filter (fun h => h.1 ∉ SignedHeaders.fields)
          = v.headers.filter (fun h => h.1 ∉ SignedHeaders.fields)
        ∧ v'.unreadable.filter (· ∉ SignedHeaders.fields)
          = v.unreadable.filter (· ∉ SignedHeaders.fields))
      ∧ (∀ n ∉ SignedHeaders.fields,
        v'.headerValues n = v.headerValues n ∧ v'.isUnreadable n = v.isUnreadable n)
      ∧ ∀ n ∈ SignedHeaders.fields,
        (∃ x, v'.headerValues n = [x]) ∧ v'.isUnreadable n = false := by
  obtain ⟨signed, hsigned, rfl⟩ := signRequest_eq_ok.1 hsign
  -- off the three headers nothing has changed
  have hagree := SignedHeaders.agreeOff_applyTo signed v
  refine ⟨fun entropy' => ?_, ⟨hagree.method, hagree.path, hagree.query, hagree.explicitAuthority,
    hagree.authority SignedHeaders.host_not_mem_fields, hagree.body⟩,
    SignedHeaders.filter_applyTo signed v,
    fun n hn => ⟨hagree.headerValues n hn, hagree.isUnreadable n hn⟩,
    fun n hn => SignedHeaders.exists_value_applyTo signed v hn⟩
  -- the second signing makes the same headers, and they are on the request already
  have hagain : s.sign now entropy' (signed.applyTo v) = .ok signed :=
    (sign_eq_of_indistinct hkeys (indistinct_applyTo h hnames signed v)).trans hsigned
  exact signRequest_eq_ok.2 ⟨signed, hagain, SignedHeaders.applyTo_applyTo signed v⟩

namespace TwoKeys

open SignatureBase.Reordered (view)

/-- A request that came with two signatures and with parameters of which there is no text. -/
def revisited : RequestView :=
  ((view.appendHeader .signature "old").appendHeader .signature "older").appendUnreadable
    .signatureInput

theorem covered_ne (hs : config.build = .ok s) {id : ComponentId} (hid : id ∈ s.covered) :
    id.fieldName? ≠ some .signatureInput ∧ id.fieldName? ≠ some .signature :=
  fieldName?_ne_of_mem_covered hs (fun _ hname => absurd hname List.not_mem_nil) hid

theorem exists_signed_revisited (hs : config.build = .ok s) (now : Timestamp)
    (entropy : Nat → Entropy) : ∃ signed, s.sign now entropy revisited = .ok signed := by
  refine exists_sign_of_echo hs (eq_echo hs) (fun id hid n hn _ => ?_) now entropy
  have hne : FieldName.signatureInput ≠ n := by
    rintro rfl
    exact (covered_ne hs hid).1 hn
  rw [revisited, RequestView.isUnreadable_appendUnreadable, beq_false_of_ne hne]
  rfl

end TwoKeys

open TwoKeys in
/-- What a request came with makes room at the first signing, and the second changes nothing. -/
theorem signRequest_again_two_keys :
    ∃ s v', config.build = .ok s ∧ s.signRequest 100 (fun _ _ => 0) revisited = .ok v'
      ∧ (∃ x, v'.headerValues .signature = [x]) ∧ v'.isUnreadable .signatureInput = false
      ∧ s.signRequest 100 (fun _ _ => 1) v' = .ok v' := by
  obtain ⟨s, hs⟩ := TwoKeys.exists_build
  obtain ⟨signed, hsigned⟩ := exists_signed_revisited hs 100 fun _ _ => 0
  have hrequest : s.signRequest 100 (fun _ _ => 0) revisited = .ok (signed.applyTo revisited) :=
    signRequest_eq_ok.2 ⟨signed, hsigned, rfl⟩
  obtain ⟨hagain, -, -, -, hfields⟩ :=
    signRequest_again hs (fun _ hname => absurd hname List.not_mem_nil)
    (deterministic hs) hrequest
  have hsignature : FieldName.signature ∈ SignedHeaders.fields := by simp [SignedHeaders.fields]
  have hinput : FieldName.signatureInput ∈ SignedHeaders.fields := by simp [SignedHeaders.fields]
  exact ⟨s, _, hs, hrequest, (hfields _ hsignature).1, (hfields _ hinput).2, hagain _⟩

end Signer

end MessageSignatures
