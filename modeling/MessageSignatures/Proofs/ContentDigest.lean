import MessageSignatures.ContentDigest
import MessageSignatures.Proofs.StructuredField.Spacing

/-!
# The digest of the body, signed and checked

The digest is signed as the canonical value of its field, and it is checked in the text of the field
as it came. The two readings must not come apart: white space around a value does not count when it
is signed, and the values of a field with several are joined.

* **Written digests** are accepted for their body (`verify_compute`), and only for bodies with that
  digest (`sha512_eq_of_verify_compute`).
* **White space.** A value that is accepted in the lines of a field is accepted in the trimmed lines
  too (`verify_trim`), since trimming changes the contents of strings at most, and a digest is no
  string. So what is checked is what is signed.
-/

namespace MessageSignatures

open StructuredField (BareItem Item Member Dictionary)

namespace ContentDigest

variable {body body' : List UInt8}

/-- The digest of a body as a member. -/
def digestMember (body : List UInt8) : Member :=
  .item ⟨.octets (Sha2.sha512 body), OrderedMap.empty⟩

theorem isKey_key : StructuredField.isKey key = true := by decide

theorem canonical_digestMember (body : List UInt8) : (digestMember body).Canonical :=
  Item.all_empty ⟨trivial, nofun⟩

theorem text_digestMember (body : List UInt8) :
    (digestMember body).text = StructuredField.octetsText (Sha2.sha512 body) := by
  rw [digestMember, Member.text, Item.text_empty, BareItem.text]

/-- A written digest is a dictionary with one entry. -/
theorem compute_eq_dictionaryText (body : List UInt8) :
    compute body = StructuredField.dictionaryText [(key, digestMember body)] := by
  rw [StructuredField.dictionaryText, List.map_singleton, String.intercalate_singleton,
    text_digestMember, compute]

theorem parseDictionary_compute (body : List UInt8) :
    StructuredField.parseDictionary (compute body)
      = some ⟨[(key, digestMember body)],
        List.nodup_cons.2 ⟨List.not_mem_nil, List.nodup_nil⟩⟩ := by
  rw [compute_eq_dictionaryText]
  refine StructuredField.parseDictionary_dictionaryText ?_ _
  intro e he
  obtain rfl := List.mem_singleton.1 he
  exact ⟨isKey_key, canonical_digestMember body⟩

/-- **A digest is accepted** exactly if it is a dictionary whose member `sha-512` is the digest of
the body. -/
theorem verify_eq_true_iff {value : String} :
    verify body value = true
      ↔ ∃ d ps, StructuredField.parseDictionary value = some d
        ∧ (key, Member.item ⟨.octets (Sha2.sha512 body), ps⟩) ∈ d.entries := by
  unfold verify
  cases StructuredField.parseDictionary value with
  | none => simp
  | some d =>
    -- the verifier takes what is under the key, if it is octets
    simp only [Option.some.injEq, ← OrderedMap.get?_eq_some_iff]
    split
    · next octets ps hget =>
      rw [beq_iff_eq]
      constructor
      · rintro rfl
        exact ⟨d, ps, rfl, hget⟩
      · rintro ⟨_, ps', rfl, hget'⟩
        cases hget.symm.trans hget'
        rfl
    · next hother =>
      refine ⟨nofun, ?_⟩
      rintro ⟨_, ps, rfl, hget⟩
      exact absurd hget (hother _ ps)

/-- **A written digest** is accepted for its body. -/
theorem verify_compute (body : List UInt8) : verify body (compute body) = true := by
  have hget (h) : OrderedMap.get? ⟨[(key, digestMember body)], h⟩ key = some (digestMember body) :=
    OrderedMap.get?_of_mem (List.mem_singleton_self _)
  simp only [verify, parseDictionary_compute, hget]
  exact beq_self_eq_true _

/-! ### Characters of a written digest -/

theorem isPrintable_compute (body : List UInt8) : Text.isPrintable (compute body) = true := by
  rw [compute_eq_dictionaryText]
  refine StructuredField.isPrintable_dictionaryText (StructuredField.printable_of_canonical ?_)
  intro e he
  obtain rfl := List.mem_singleton.1 he
  exact ⟨isKey_key, canonical_digestMember body⟩

theorem toList_compute (body : List UInt8) :
    (compute body).toList
      = key.toList ++ '=' :: ':' :: (Base64.encodeChars (Sha2.sha512 body) ++ [':']) := by
  have hequals : "=".toList = ['='] := rfl
  have hcolon : ":".toList = [':'] := rfl
  simp [compute, StructuredField.octetsText, Base64.encode, hequals, hcolon]

theorem trim_compute (body : List UInt8) : Text.trim (compute body) = compute body := by
  refine Text.trim_eq_self ?_ ?_
  · -- it begins with the letter of the key
    intro c hc
    have hkey : key.toList = 's' :: "ha-512".toList := rfl
    rw [toList_compute, hkey, List.cons_append, List.head?_cons] at hc
    obtain rfl := Option.some.inj hc
    rfl
  · -- and ends with the colon behind the octets
    intro c hc
    rw [toList_compute, ← List.cons_append, ← List.cons_append, ← List.append_assoc,
      List.getLast?_concat] at hc
    obtain rfl := Option.some.inj hc
    rfl

/-! ### White space -/

/-- Octets are not hollow, so they are seen in a hollow member. -/
theorem eq_octets_of_hollow {m : Member} {bs : List UInt8} {ps : StructuredField.Parameters}
    (h : m.map BareItem.hollow = (Member.item ⟨.octets bs, ps⟩).map BareItem.hollow) :
    ∃ ps', m = .item ⟨.octets bs, ps'⟩ := by
  cases m with
  | innerList items ps' => cases h
  | item i =>
    obtain ⟨b, ps'⟩ := i
    have hbare : b.hollow = .octets bs := congrArg Item.bare (Member.item.inj h)
    -- to hollow out a string leaves a string, so octets were octets before
    cases b with
    | octets bs' => exact ⟨ps', congrArg (fun b => Member.item ⟨b, ps'⟩) hbare⟩
    | _ => cases hbare

/-- **Trimmed lines.** A digest that is accepted in the lines of a field is accepted in the trimmed
lines. -/
theorem verify_trim {lines : List String} (h : verify body (", ".intercalate lines) = true) :
    verify body (", ".intercalate (lines.map Text.trim)) = true := by
  obtain ⟨d, ps, hd, hmem⟩ := verify_eq_true_iff.1 h
  obtain ⟨d', hd', hhollow⟩ := StructuredField.parseDictionary_trim hd
  -- under the key there is a member in either dictionary, the same but for strings
  have hlookup := congrArg (OrderedMap.get? · key) hhollow
  simp only [OrderedMap.get?_map, OrderedMap.get?_of_mem hmem, Option.map_some] at hlookup
  obtain ⟨m, hm, hmap⟩ := Option.map_eq_some_iff.1 hlookup
  obtain ⟨ps', rfl⟩ := eq_octets_of_hollow hmap
  exact verify_eq_true_iff.2 ⟨d', ps', hd', OrderedMap.get?_eq_some_iff.1 hm⟩

/-- **A written digest** is accepted only for bodies with that digest. -/
theorem sha512_eq_of_verify_compute (h : verify body' (compute body) = true) :
    Sha2.sha512 body' = Sha2.sha512 body := by
  obtain ⟨d, ps, hd, hmem⟩ := verify_eq_true_iff.1 h
  rw [parseDictionary_compute] at hd
  obtain rfl := Option.some.inj hd
  have heq := (Prod.mk.inj (List.mem_singleton.1 hmem)).2
  exact BareItem.octets.inj (Item.mk.inj (Member.item.inj heq)).1

end ContentDigest

end MessageSignatures
