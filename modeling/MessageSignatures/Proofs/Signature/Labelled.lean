import MessageSignatures.Proofs.Signature.Declaration

/-!
# Labelled signatures, written and read

The two headers of a request with signatures are dictionaries whose members are the members of the
signatures, in their order and under their labels.

* `parseSignatureInput_inputText` — the `signature-input` header is read as the parameters that were
  written, each with its canonical text as the received one (`SignatureParams.asReceived`).
* `parseSignatures_octetsEntry` — the `signature` header is read as the octets that were written,
  whatever they are; so it is for signatures (`parseSignatures_signatureText`) and under every label
  of theirs (`parseSignature_signatureText`).
* `isPrintable_texts` — both headers are printable, so that they can be put on any request.

All of this needs that the labels are keys of a dictionary, that none stands twice, and that the
strings of the parameters are printable (`LabelledSignature.Printable`). The `signature-input`
header is read only if the points in time can be written as well (`LabelledSignature.Writable`);
otherwise nothing of it is (`parseSignatureInput_of_not_timely`).
-/

namespace MessageSignatures

open StructuredField (BareItem Item Member)

/-- The parameters as they are read back. -/
def SignatureParams.asReceived (p : SignatureParams) : SignatureParams :=
  { p with received := some p.text }

/-- What was read back is signed as it was written. -/
theorem SignatureParams.baseText_asReceived (p : SignatureParams) :
    p.asReceived.baseText = p.text := rfl

theorem signatureOctets_eq_ok {label : String} {m : Member} {signature : List UInt8} :
    signatureOctets label m = .ok signature ↔ ∃ ps, m = .item ⟨.octets signature, ps⟩ := by
  unfold signatureOctets
  split
  · next octets ps =>
    constructor
    · intro h
      obtain rfl := Except.ok.inj h
      exact ⟨ps, rfl⟩
    · rintro ⟨ps', h⟩
      cases h
      rfl
  · next hother => exact ⟨nofun, fun ⟨ps, h⟩ => absurd h (hother _ ps)⟩

theorem signatureOctets_eq_error {label : String} {m : Member} {e : Error} :
    signatureOctets label m = .error e
      ↔ (∀ octets ps, m ≠ .item ⟨.octets octets, ps⟩)
        ∧ e = .malformedHeader (.notOctets label) := by
  unfold signatureOctets
  split
  · exact ⟨nofun, fun ⟨h, _⟩ => absurd rfl (h _ _)⟩
  · next hother => exact ⟨fun h => ⟨hother, (Except.error.inj h).symm⟩, fun ⟨_, h⟩ => by rw [h]⟩

/-- **Under a label that occurs**, its member decides. -/
theorem parseSignature_of_mem {t label : String} {d : StructuredField.Dictionary} {member : Member}
    (hd : StructuredField.parseDictionary t = some d) (h : (label, member) ∈ d.entries) :
    parseSignature t label = signatureOctets label member := by
  unfold parseSignature
  simp only [hd, OrderedMap.get?_of_mem h]

/-! ### Octets under labels -/

section Octets

variable {es : List (String × List UInt8)}

/-- The entry of the `signature` header for octets under a label. -/
def octetsEntry (e : String × List UInt8) : String × Member :=
  (e.1, .item ⟨.octets e.2, OrderedMap.empty⟩)

theorem map_fst_octetsEntry (es : List (String × List UInt8)) :
    (es.map octetsEntry).map Prod.fst = es.map Prod.fst := by
  rw [List.map_map]
  rfl

theorem dictionaryText_octetsEntry (es : List (String × List UInt8)) :
    StructuredField.dictionaryText (es.map octetsEntry)
      = ", ".intercalate (es.map fun e => e.1 ++ "=" ++ StructuredField.octetsText e.2) := by
  rw [StructuredField.dictionaryText, List.map_map]
  congr 2
  funext e
  simp only [Function.comp_apply, octetsEntry, Member.text, Item.text_empty, BareItem.text]

theorem canonical_octetsEntry (h : ∀ e ∈ es, StructuredField.isKey e.1 = true) :
    ∀ e ∈ es.map octetsEntry, StructuredField.isKey e.1 = true ∧ e.2.Canonical := by
  intro e' he'
  obtain ⟨e, he, rfl⟩ := List.mem_map.1 he'
  exact ⟨h e he, Item.all_empty ⟨trivial, nofun⟩⟩

/-- Octets under labels are a dictionary with an octet string under each label. -/
theorem parseDictionary_octetsEntry (h : ∀ e ∈ es, StructuredField.isKey e.1 = true)
    (hnodup : (es.map Prod.fst).Nodup) :
    ∃ d, StructuredField.parseDictionary (StructuredField.dictionaryText (es.map octetsEntry))
      = some d
      ∧ d.entries = es.map octetsEntry := by
  have hlabels : ((es.map octetsEntry).map Prod.fst).Nodup := by
    rw [map_fst_octetsEntry]
    exact hnodup
  exact ⟨_, StructuredField.parseDictionary_dictionaryText (canonical_octetsEntry h) hlabels, rfl⟩

/-- **Octets under labels** are read as they were written, the empty ones included. -/
theorem parseSignatures_octetsEntry (h : ∀ e ∈ es, StructuredField.isKey e.1 = true)
    (hnodup : (es.map Prod.fst).Nodup) :
    parseSignatures (StructuredField.dictionaryText (es.map octetsEntry)) = .ok ⟨es, hnodup⟩ := by
  obtain ⟨d, hd, hentries⟩ := parseDictionary_octetsEntry h hnodup
  rw [parseSignatures, hd]
  refine OrderedMap.traverse_eq_ok_iff.2 ?_
  rw [hentries, List.forall₂_map_left_iff]
  exact List.forall₂_same.2 fun e _ => ⟨rfl, rfl⟩

end Octets

namespace LabelledSignature

/-- **Writable signatures.** The labels are keys, no label stands twice, and the parameters can be
written with their points in time. -/
structure Writable (es : List LabelledSignature) : Prop where
  isKey : ∀ e ∈ es, StructuredField.isKey e.label = true
  nodup : (es.map label).Nodup
  writable : ∀ e ∈ es, e.params.Writable
  timely : ∀ e ∈ es, e.params.Timely

theorem writable_singleton {e : LabelledSignature} (hlabel : StructuredField.isKey e.label = true)
    (hp : e.params.Writable) (ht : e.params.Timely) : Writable [e] := by
  refine ⟨?_, by simp, ?_, ?_⟩ <;> intro e' he' <;>
    obtain rfl := List.mem_singleton.1 he'
  · exact hlabel
  · exact hp
  · exact ht

/-- **Printable signatures.** The same, whatever the points in time. -/
structure Printable (es : List LabelledSignature) : Prop where
  isKey : ∀ e ∈ es, StructuredField.isKey e.label = true
  nodup : (es.map label).Nodup
  writable : ∀ e ∈ es, e.params.Writable

theorem Writable.printable {es : List LabelledSignature} (h : Writable es) : Printable es :=
  ⟨h.isKey, h.nodup, h.writable⟩

theorem Printable.isKey_octets {es : List LabelledSignature} (h : Printable es) :
    ∀ e ∈ es.map fun e => (e.label, e.signature), StructuredField.isKey e.1 = true :=
  List.forall_mem_map.2 h.isKey

theorem Printable.nodup_octets {es : List LabelledSignature} (h : Printable es) :
    ((es.map fun e => (e.label, e.signature)).map Prod.fst).Nodup := by
  rw [List.map_map]
  exact h.nodup

/-- The entry of the `signature-input` header. -/
def inputEntry (e : LabelledSignature) : String × Member :=
  (e.label, e.params.member)

/-- The entry of the `signature` header. -/
def signatureEntry (e : LabelledSignature) : String × Member :=
  (e.label, .item ⟨.octets e.signature, OrderedMap.empty⟩)

theorem dictionaryText_inputEntry (es : List LabelledSignature) :
    StructuredField.dictionaryText (es.map inputEntry)
      = ", ".intercalate (es.map inputText) := by
  rw [StructuredField.dictionaryText, List.map_map]
  congr 2
  funext e
  simp only [Function.comp_apply, inputEntry, SignatureParams.text_member, inputText]

/-- The entries of the `signature` header tell the labels and the octets only. -/
theorem map_signatureEntry (es : List LabelledSignature) :
    es.map signatureEntry = (es.map fun e => (e.label, e.signature)).map octetsEntry := by
  rw [List.map_map]
  rfl

theorem dictionaryText_signatureEntry (es : List LabelledSignature) :
    StructuredField.dictionaryText (es.map signatureEntry)
      = ", ".intercalate (es.map signatureText) := by
  rw [map_signatureEntry, dictionaryText_octetsEntry, List.map_map]
  rfl

theorem map_fst_inputEntry (es : List LabelledSignature) :
    (es.map inputEntry).map Prod.fst = es.map label := by
  rw [List.map_map]
  rfl

theorem canonical_inputEntry {es : List LabelledSignature} (h : Writable es) :
    ∀ e ∈ es.map inputEntry, StructuredField.isKey e.1 = true ∧ e.2.Canonical := by
  intro e' he'
  obtain ⟨e, he, rfl⟩ := List.mem_map.1 he'
  exact ⟨h.isKey e he, SignatureParams.canonical_member (h.writable e he) (h.timely e he)⟩

theorem canonical_signatureEntry {es : List LabelledSignature} (h : Printable es) :
    ∀ e ∈ es.map signatureEntry, StructuredField.isKey e.1 = true ∧ e.2.Canonical := by
  rw [map_signatureEntry]
  exact canonical_octetsEntry h.isKey_octets

/-- **Both headers are printable.** -/
theorem isPrintable_texts {es : List LabelledSignature} (h : Printable es) :
    Text.isPrintable (", ".intercalate (es.map inputText)) = true
      ∧ Text.isPrintable (", ".intercalate (es.map signatureText)) = true := by
  rw [← dictionaryText_inputEntry, ← dictionaryText_signatureEntry]
  constructor
  · refine StructuredField.isPrintable_dictionaryText fun e' he' => ?_
    obtain ⟨e, he, rfl⟩ := List.mem_map.1 he'
    exact ⟨h.isKey e he, SignatureParams.printable_member (h.writable e he)⟩
  · exact StructuredField.isPrintable_dictionaryText
      (StructuredField.printable_of_canonical (canonical_signatureEntry h))

/-- **The header with the parameters** is read as it was written. -/
theorem parseSignatureInput_inputText {es : List LabelledSignature} (h : Writable es) :
    ∃ m, parseSignatureInput (", ".intercalate (es.map inputText)) = .ok m
      ∧ m.entries = es.map fun e => (e.label, e.params.asReceived) := by
  have hlabels : ((es.map inputEntry).map Prod.fst).Nodup := by
    rw [map_fst_inputEntry]
    exact h.nodup
  -- the labels are distinct, as they are in the text
  have hnodup : ((es.map fun e => (e.label, e.params.asReceived)).map Prod.fst).Nodup := by
    rw [List.map_map]
    exact h.nodup
  refine ⟨⟨_, hnodup⟩, ?_, rfl⟩
  rw [parseSignatureInput, ← dictionaryText_inputEntry,
    StructuredField.parseDictionary_dictionaryText (canonical_inputEntry h) hlabels]
  -- each member is read as the parameters that it was written from
  refine Fallible.mapError_eq_ok.2 (OrderedMap.traverse_eq_ok_iff.2 ?_)
  rw [List.forall₂_map_left_iff, List.forall₂_map_right_iff]
  exact List.forall₂_same.2 fun e he =>
    ⟨rfl, SignatureParams.ofMember_member (h.writable e he).nodup⟩

theorem obtained_asReceived {es : List LabelledSignature} (h : Writable es) {e : LabelledSignature}
    (he : e ∈ es) : e.params.asReceived.Obtained := by
  obtain ⟨m, hm, hentries⟩ := parseSignatureInput_inputText h
  have hmem : (e.label, e.params.asReceived) ∈ m.entries := by
    rw [hentries]
    exact List.mem_map_of_mem he
  exact .entry hm hmem

/-- **Nothing is read** of the header with the parameters if one of its points in time cannot be
written. -/
theorem parseSignatureInput_of_not_timely {es : List LabelledSignature} (h : Printable es)
    {e : LabelledSignature} (he : e ∈ es) (hnot : ¬ e.params.Timely) :
    parseSignatureInput (", ".intercalate (es.map inputText))
      = .error (.malformedHeader .undecodableSignatureInput) := by
  have hread : StructuredField.parseDictionary (", ".intercalate (es.map inputText)) = none := by
    rw [← dictionaryText_inputEntry]
    refine StructuredField.parseDictionary_eq_none ?_ ⟨inputEntry e, List.mem_map_of_mem he,
      SignatureParams.refused_member hnot⟩ ?_
    · -- every other member is either read or refused for the same reason
      intro e' he'
      obtain ⟨e, he, rfl⟩ := List.mem_map.1 he'
      refine ⟨h.isKey e he, ?_⟩
      by_cases htimely : e.params.Timely
      · exact .inl (SignatureParams.canonical_member (h.writable e he) htimely)
      · exact .inr (SignatureParams.refused_member htimely)
    · rw [dictionaryText_inputEntry]
      exact (isPrintable_texts h).1
  rw [parseSignatureInput, hread]

/-- The header with the octets is a dictionary with an octet string under each label. -/
theorem parseDictionary_signatureText {es : List LabelledSignature} (h : Printable es) :
    ∃ d, StructuredField.parseDictionary (", ".intercalate (es.map signatureText)) = some d
      ∧ d.entries = es.map signatureEntry := by
  rw [← dictionaryText_signatureEntry, map_signatureEntry]
  exact parseDictionary_octetsEntry h.isKey_octets h.nodup_octets

/-- **The header with the octets** is read as it was written. -/
theorem parseSignatures_signatureText {es : List LabelledSignature} (h : Printable es) :
    ∃ m, parseSignatures (", ".intercalate (es.map signatureText)) = .ok m
      ∧ m.entries = es.map fun e => (e.label, e.signature) := by
  rw [← dictionaryText_signatureEntry, map_signatureEntry]
  exact ⟨_, parseSignatures_octetsEntry h.isKey_octets h.nodup_octets, rfl⟩

/-- **The octets under one label** are read as they were written. -/
theorem parseSignature_signatureText {es : List LabelledSignature} (h : Printable es)
    {e : LabelledSignature} (he : e ∈ es) :
    parseSignature (", ".intercalate (es.map signatureText)) e.label = .ok e.signature := by
  obtain ⟨d, hd, hentries⟩ := parseDictionary_signatureText h
  -- the signature is found under its label
  have hmem : e.signatureEntry ∈ d.entries := by
    rw [hentries]
    exact List.mem_map_of_mem he
  rw [parseSignature_of_mem hd hmem]
  rfl

end LabelledSignature

end MessageSignatures
