import MessageSignatures.Proofs.Signature.Labelled

/-!
# All signatures, or the one under a label

There are two readers of the `signature` header. `parseSignatures` reads all of it and refuses it if
one member is not an octet string; `parseSignature` reads what stands under one label and does not
look at the others. They agree wherever the first one succeeds
(`parseSignature_of_parseSignatures`), and the first one fails as the second one does under the
first label under which it fails (`parseSignatures_eq_error_iff`).

The link is `parseSignature_of_mem`: under a label that occurs, the second reader makes one step of
the traversal that the first reader is. `signature_readers_agree` puts this together with what the
signer relies on: octets under labels are read as they were written (`parseSignatures_octetsEntry`).
-/

namespace MessageSignatures

open StructuredField (Dictionary Member)

variable {t label : String} {d : Dictionary} {member : Member}

/-- **The readers agree** if the whole header is read: what is found under a label is read, and
under any other label nothing is. -/
theorem parseSignature_of_parseSignatures {m : OrderedMap (List UInt8)}
    (h : parseSignatures t = .ok m) (label : String) :
    parseSignature t label = match m.get? label with
      | some octets => .ok octets
      | none => .error .missingSignature := by
  unfold parseSignatures at h
  split at h
  · cases h
  · next d hd =>
    unfold parseSignature
    simp only [hd]
    -- the map has the same labels as the dictionary, each with what its own member gives
    rcases OrderedMap.get?_traverse h label with
      ⟨member, octets, hmember, hread, hget⟩ | ⟨hmember, hget⟩
    · rw [hmember, hget]
      exact hread
    · rw [hmember, hget]

/-- **The whole header fails** as the first label does under which it fails. -/
theorem parseSignatures_eq_error_iff (hd : StructuredField.parseDictionary t = some d) {e : Error} :
    parseSignatures t = .error e ↔ ∃ before label member after,
      d.entries = before ++ (label, member) :: after
      ∧ (∀ e' ∈ before, ∃ octets, parseSignature t e'.1 = .ok octets)
      ∧ parseSignature t label = .error e := by
  unfold parseSignatures
  simp only [hd, OrderedMap.traverse_eq_error_iff]
  refine exists_congr fun before => exists_congr fun label => exists_congr fun member =>
    exists_congr fun after => ?_
  refine and_congr_right fun hentries => ?_
  -- the entries in question are entries of the dictionary, each read as its label is
  have hlabel : (label, member) ∈ d.entries := by
    rw [hentries]
    exact List.mem_append_right _ List.mem_cons_self
  have hbefore : ∀ e' ∈ before, (e'.1, e'.2) ∈ d.entries := fun e' he' => by
    rw [hentries]
    exact List.mem_append_left _ he'
  rw [parseSignature_of_mem hd hlabel]
  refine and_congr_left fun _ => forall₂_congr fun e' he' => ?_
  rw [parseSignature_of_mem hd (hbefore e' he')]

/-- Under a label that occurs, only the member can be at fault. -/
theorem exists_notOctets_of_mem (hd : StructuredField.parseDictionary t = some d)
    (h : (label, member) ∈ d.entries) {e : Error} (he : parseSignature t label = .error e) :
    e = .malformedHeader (.notOctets label) := by
  rw [parseSignature_of_mem hd h] at he
  exact (signatureOctets_eq_error.1 he).2

/-- **The whole header fails** if it is no dictionary, or if it has a malformed member under some
label. -/
theorem exists_parseSignatures_eq_error_iff :
    (∃ e, parseSignatures t = .error e) ↔ StructuredField.parseDictionary t = none
      ∨ ∃ d, StructuredField.parseDictionary t = some d
        ∧ ∃ label ∈ d.keys, ∃ fault, parseSignature t label = .error (.malformedHeader fault) := by
  cases hd : StructuredField.parseDictionary t with
  | none =>
    -- both readers begin with the dictionary
    refine iff_of_true ⟨.malformedHeader .undecodableSignature, ?_⟩ (.inl rfl)
    rw [parseSignatures, hd]
  | some d =>
    constructor
    · rintro ⟨e, he⟩
      obtain ⟨before, label, member, after, hentries, -, hlabel⟩ :=
        (parseSignatures_eq_error_iff hd).1 he
      have hmem : (label, member) ∈ d.entries := by
        rw [hentries]
        exact List.mem_append_right _ List.mem_cons_self
      -- under a label that occurs the member can only be of the wrong kind
      obtain rfl := exists_notOctets_of_mem hd hmem hlabel
      exact .inr ⟨d, rfl, label, List.mem_map_of_mem hmem, _, hlabel⟩
    · rintro (h | ⟨d', -, label, -, fault, hlabel⟩)
      · cases h
      · cases hall : parseSignatures t with
        | error e => exact ⟨e, rfl⟩
        | ok m =>
          -- then each label is read, or it does not occur, which is another fault
          rw [parseSignature_of_parseSignatures hall] at hlabel
          split at hlabel <;> cases hlabel

/-- **The two readers** of the `signature` header agree, and both read what was written. -/
theorem signature_readers_agree :
    (∀ t m, parseSignatures t = .ok m → ∀ label, parseSignature t label = match m.get? label with
      | some octets => .ok octets
      | none => .error .missingSignature)
    ∧ (∀ t, (∃ e, parseSignatures t = .error e) ↔ StructuredField.parseDictionary t = none
        ∨ ∃ d, StructuredField.parseDictionary t = some d
          ∧ ∃ label ∈ d.keys, ∃ fault, parseSignature t label = .error (.malformedHeader fault))
    ∧ (∀ t, StructuredField.parseDictionary t = none →
        ∀ label, parseSignature t label = .error (.malformedHeader .undecodableSignature))
    ∧ (∀ t d e, StructuredField.parseDictionary t = some d →
        (parseSignatures t = .error e ↔ ∃ before label member after,
          d.entries = before ++ (label, member) :: after
          ∧ (∀ e' ∈ before, ∃ octets, parseSignature t e'.1 = .ok octets)
          ∧ parseSignature t label = .error e))
    ∧ ∀ es : List (String × List UInt8), (∀ e ∈ es, StructuredField.isKey e.1 = true) →
        (es.map Prod.fst).Nodup →
        ∃ m, parseSignatures
          (", ".intercalate (es.map fun e => e.1 ++ "=:" ++ Base64.encode e.2 ++ ":")) = .ok m
          ∧ m.entries = es := by
  refine ⟨fun t m => parseSignature_of_parseSignatures,
    fun t => exists_parseSignatures_eq_error_iff, ?_,
    fun t d e hd => parseSignatures_eq_error_iff hd, ?_⟩
  · intro t hd label
    rw [parseSignature, hd]
  · intro es hkey hnodup
    refine ⟨⟨es, hnodup⟩, ?_, rfl⟩
    -- the labels and the octets are written as in a dictionary of octets
    have htext (e : String × List UInt8) :
        e.1 ++ "=:" ++ Base64.encode e.2 ++ ":" = e.1 ++ "=" ++ StructuredField.octetsText e.2 := by
      rw [show "=:" = "=" ++ ":" from rfl, StructuredField.octetsText]
      simp only [String.append_assoc]
    simp only [htext, ← dictionaryText_octetsEntry]
    exact parseSignatures_octetsEntry hkey hnodup

/-- Two labels, the first one with an empty signature. -/
theorem signature_readers_agree_two :
    parseSignature "a=::, b=:AQI=:" "a" = .ok [] ∧ parseSignature "a=::, b=:AQI=:" "b" = .ok [1, 2]
      ∧ parseSignature "a=::, b=:AQI=:" "c" = .error .missingSignature := by
  obtain ⟨hagree, -, -, -, hround⟩ := signature_readers_agree
  obtain ⟨m, hm, hentries⟩ := hround [("a", []), ("b", [1, 2])] (by decide) (by decide)
  obtain rfl : m = ⟨[("a", []), ("b", [1, 2])], by decide⟩ := OrderedMap.ext_entries hentries
  exact ⟨hagree _ _ hm "a", hagree _ _ hm "b", hagree _ _ hm "c"⟩

end MessageSignatures
