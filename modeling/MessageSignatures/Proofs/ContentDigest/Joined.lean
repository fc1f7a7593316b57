import MessageSignatures.Proofs.ContentDigest
import MessageSignatures.Proofs.StructuredField.Joined

/-!
# A digest among others

The field with the digest is a dictionary, and its lines are joined before it is checked. So the
digest of the body may stand among members that are not looked at, and it may stand there more than
once.

What counts is the **last** member under the key, and it counts if it is the whole digest, whatever
parameters it has (`ContentDigest.verify_of_dictionaryText`). Members under other keys make no
difference, wherever they stand (`ContentDigest.verify_joined`).
-/

namespace MessageSignatures

open StructuredField (BareItem Item Member DictionaryText)

namespace ContentDigest

variable {body body' : List UInt8} {value : String} {es : List (String × Member)}

/-- Where the members of a value are known, the last one under the key tells whether the digest is
right. -/
theorem verify_of_dictionaryText (h : DictionaryText value es) :
    verify body value = true
      ↔ ∃ ps, es.reverse.lookup key = some (.item ⟨.octets (Sha2.sha512 body), ps⟩) := by
  -- the dictionary is the insertion of its members in order
  have hread : StructuredField.parseDictionary value = some (OrderedMap.empty.insertAll es) :=
    StructuredField.parseDictionary_eq_some_iff.2 ⟨es, h, rfl⟩
  have hget : (OrderedMap.empty.insertAll es).get? key = es.reverse.lookup key := by
    rw [OrderedMap.get?_insertAll]
    exact Option.or_none
  rw [verify_eq_true_iff, hread]
  simp only [Option.some.injEq, exists_and_left, exists_eq_left',
    ← OrderedMap.get?_eq_some_iff, hget]

/-- **A written digest** is accepted for the bodies with that digest. -/
theorem verify_compute_eq_true_iff :
    verify body' (compute body) = true ↔ Sha2.sha512 body = Sha2.sha512 body' := by
  constructor
  · -- a digest that matches is the digest of what it matches
    intro h
    exact (sha512_eq_of_verify_compute h).symm
  · intro h
    have hcompute : compute body = compute body' := by rw [compute, compute, h]
    rw [hcompute]
    exact verify_compute body'

/-- **Other members** make no difference, and those in front may even have the key. -/
theorem verify_joined {before after : List String}
    (hbefore : ∀ t ∈ before, ∃ d, StructuredField.parseDictionary t = some d ∧ d ≠ OrderedMap.empty)
    (hafter : ∀ t ∈ after, ∃ d, StructuredField.parseDictionary t = some d ∧ d ≠ OrderedMap.empty
      ∧ d.get? key = none) :
    verify body' (", ".intercalate (before ++ compute body :: after))
      = verify body' (compute body) := by
  -- no text behind the digest speaks of its key
  have hother : ∀ t ∈ after, ∃ d, StructuredField.parseDictionary t = some d
      ∧ d ≠ OrderedMap.empty :=
    fun t ht => (hafter t ht).imp fun d hd => ⟨hd.1, hd.2.1⟩
  have hwithout : ∀ t ∈ after, ∀ d, StructuredField.parseDictionary t = some d →
      d.get? key = none := by
    intro t ht d hd
    obtain ⟨d', hd', -, hnone⟩ := hafter t ht
    rw [hd] at hd'
    rw [Option.some.inj hd', hnone]
  obtain ⟨front, hfront, -⟩ := StructuredField.exists_dictionaryTexts key hbefore
  obtain ⟨back, hback, hnone⟩ := StructuredField.exists_dictionaryTexts key hother
  obtain ⟨es, hes, hdigest⟩ := StructuredField.exists_dictionaryText (k := key)
    (parseDictionary_compute body) (fun h => nomatch congrArg OrderedMap.entries h)
  -- behind the digest there is no member under the key, so the digest is the last one
  have hlast : (front ++ es :: back).flatten.reverse.lookup key
      = (es.reverse.lookup key).or (front.flatten.reverse.lookup key) := by
    rw [List.flatten_append, List.flatten_cons, List.reverse_append, List.reverse_append,
      List.lookup_append, List.lookup_append, hnone hwithout, Option.none_or]
  have hsome : es.reverse.lookup key = some (digestMember body) :=
    hdigest.trans (OrderedMap.get?_of_mem (List.mem_singleton_self _))
  have hjoined : DictionaryText (", ".intercalate (before ++ compute body :: after))
      (front ++ es :: back).flatten :=
    DictionaryText.intercalate (List.rel_append hfront (.cons hes hback))
  rw [Bool.eq_iff_iff, verify_of_dictionaryText hjoined, verify_of_dictionaryText hes.1,
    hlast, hsome]
  rfl

/-- **The digest codec.**

* A value is accepted for a body exactly if a dictionary is read from it and the last of its members
  under the key is an item of the octets of the digest, which are 64; the parameters of the item and
  the other members are arbitrary.
* A written digest is accepted exactly for the bodies with that digest.
* This stays so if it is joined with other members: any in front, and behind it those under other
  keys. -/
theorem verify_codec (body body' : List UInt8) :
    (∀ value, verify body value = true
      ↔ ∃ d es ps, StructuredField.parseDictionary value = some d ∧ DictionaryText value es
        ∧ es.reverse.lookup key = some (.item ⟨.octets (Sha2.sha512 body), ps⟩))
    ∧ (Sha2.sha512 body).length = 64
    ∧ (verify body' (compute body) = true ↔ Sha2.sha512 body = Sha2.sha512 body')
    ∧ ∀ before after : List String,
      (∀ t ∈ before, ∃ d, StructuredField.parseDictionary t = some d ∧ d ≠ OrderedMap.empty) →
      (∀ t ∈ after, ∃ d, StructuredField.parseDictionary t = some d ∧ d ≠ OrderedMap.empty
        ∧ d.get? key = none) →
      verify body' (", ".intercalate (before ++ compute body :: after))
        = verify body' (compute body) := by
  refine ⟨fun value => ?_, Sha2.length_sha512 body, verify_compute_eq_true_iff, ?_⟩
  · constructor
    · -- the value was read as a dictionary, whose members it holds
      intro h
      obtain ⟨d, -, hd, -⟩ := verify_eq_true_iff.1 h
      obtain ⟨es, hes, -⟩ := StructuredField.parseDictionary_eq_some_iff.1 hd
      obtain ⟨ps, hlast⟩ := (verify_of_dictionaryText hes).1 h
      exact ⟨d, es, ps, hd, hes, hlast⟩
    · rintro ⟨-, es, ps, -, hes, hlast⟩
      exact (verify_of_dictionaryText hes).2 ⟨ps, hlast⟩
  · intro before after hbefore hafter
    exact verify_joined hbefore hafter

/-- A digest between the digest by another algorithm and a member that is true. -/
theorem verify_codec_between :
    (∃ d, StructuredField.parseDictionary "sha-256=:AAAA:" = some d ∧ d ≠ OrderedMap.empty)
      ∧ (∃ d, StructuredField.parseDictionary "x;a=1" = some d ∧ d ≠ OrderedMap.empty
        ∧ d.get? key = none)
      ∧ verify [] (", ".intercalate ["sha-256=:AAAA:", compute [], "x;a=1"]) = true := by
  have hfront : ∃ d, StructuredField.parseDictionary "sha-256=:AAAA:" = some d
      ∧ d ≠ OrderedMap.empty :=
    ⟨⟨[("sha-256", .item ⟨.octets [0, 0, 0], OrderedMap.empty⟩)], by decide⟩, rfl, by decide⟩
  have hback : ∃ d, StructuredField.parseDictionary "x;a=1" = some d ∧ d ≠ OrderedMap.empty
      ∧ d.get? key = none :=
    ⟨⟨[("x", .item ⟨.boolean true, ⟨[("a", .integer 1)], by decide⟩⟩)], by decide⟩,
      rfl, by decide, rfl⟩
  refine ⟨hfront, hback, ?_⟩
  obtain ⟨-, -, hsame, hjoined⟩ := verify_codec [] []
  have hother := hjoined ["sha-256=:AAAA:"] ["x;a=1"]
    (List.forall_mem_singleton.2 hfront) (List.forall_mem_singleton.2 hback)
  exact hother.trans (hsame.2 rfl)

end ContentDigest

end MessageSignatures
