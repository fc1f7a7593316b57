import MessageSignatures.KeyStore
import MessageSignatures.Proofs.OrderedMap

/-!
# Which keys form a store

A store is made of the keys that it is given, in their order, or it is not made at all
(`KeyStore.ofList_eq_ok`). Two things stand in the way: an id that is empty, and an id that is given
twice. They are looked for one after the other in the whole list, so an empty id is told even behind
a repeated one (`KeyStore.Refused`, `KeyStore.ofList_eq_error`). Of several repeated ids the one is
told that is first to repeat an earlier one (`KeyStore.firstRepeated?_eq_some`), which need not be
the one that comes first.
-/

namespace MessageSignatures

namespace KeyStore

variable {K : Type} {entries : List (String × K)}

/-- **The first repetition** is an id that has come before, behind ids of which none has. -/
theorem firstRepeated?_eq_some {earlier ids : List String} {id : String} :
    firstRepeated? earlier ids = some id ↔ ∃ before after, ids = before ++ id :: after
      ∧ firstRepeated? earlier before = none ∧ (id ∈ before ∨ id ∈ earlier) := by
  induction ids generalizing earlier with
  | nil =>
    refine ⟨nofun, ?_⟩
    rintro ⟨before, after, h, -⟩
    exact absurd h.symm (List.append_ne_nil_of_right_ne_nil _ (List.cons_ne_nil id after))
  | cons next ids ih =>
    by_cases hnext : next ∈ earlier
    · rw [firstRepeated?, if_pos hnext]
      constructor
      · intro h
        obtain rfl := Option.some.inj h
        -- the first id is a repetition already
        exact ⟨[], ids, rfl, rfl, .inr hnext⟩
      · rintro ⟨before, after, heq, hnone, -⟩
        cases before with
        | nil => rw [(List.cons.inj heq).1]
        | cons first before =>
          -- the search would have stopped before
          rw [firstRepeated?, ← (List.cons.inj heq).1, if_pos hnext] at hnone
          cases hnone
    · rw [firstRepeated?, if_neg hnext, ih]
      constructor
      · rintro ⟨before, after, rfl, hnone, hid⟩
        -- the first id is new, so the repetition is one of those behind it
        refine ⟨next :: before, after, rfl, by rw [firstRepeated?, if_neg hnext, hnone], ?_⟩
        rcases hid with hid | hid
        · exact .inl (List.mem_cons_of_mem next hid)
        · exact (List.mem_cons.1 hid).imp_left fun heq => List.mem_cons.2 (.inl heq)
      · rintro ⟨before, after, heq, hnone, hid⟩
        cases before with
        | nil =>
          obtain ⟨rfl, rfl⟩ := List.cons.inj heq
          exact absurd (hid.resolve_left List.not_mem_nil) hnext
        | cons first before =>
          obtain ⟨rfl, rfl⟩ := List.cons.inj heq
          rw [firstRepeated?, if_neg hnext] at hnone
          refine ⟨before, after, rfl, hnone, ?_⟩
          rcases hid with hid | hid
          · exact (List.mem_cons.1 hid).elim (fun heq => .inr (List.mem_cons.2 (.inl heq))) .inl
          · exact .inr (List.mem_cons_of_mem next hid)

/-- **A store of keys** holds just these, in their order. -/
theorem ofList_eq_ok {keys : KeyStore K} : ofList entries = .ok keys ↔ keys.entries = entries := by
  constructor
  · intro h
    unfold ofList at h
    split at h
    · cases h
    · split at h
      · cases h
      · cases h
        rfl
  · -- what a store keeps is what is checked
    rintro rfl
    have hempty : "" ∉ keys.entries.map Prod.fst := fun hmem => keys.id_ne_empty "" hmem rfl
    -- no id of the store is repeated
    have hnone : firstRepeated? [] (keys.entries.map Prod.fst) = none :=
      firstRepeated?_eq_none.2 ⟨keys.map.nodup, fun _ _ => List.not_mem_nil⟩
    unfold ofList
    rw [dif_neg hempty]
    split
    · next hsome =>
      rw [hnone] at hsome
      cases hsome
    · rfl

/-- **Keys form a store** if no id is empty and none is given twice. -/
theorem exists_ofList_iff :
    (∃ keys, ofList entries = .ok keys)
      ↔ "" ∉ entries.map Prod.fst ∧ (entries.map Prod.fst).Nodup := by
  constructor
  · rintro ⟨keys, h⟩
    rw [← ofList_eq_ok.1 h]
    exact ⟨fun hmem => keys.id_ne_empty "" hmem rfl, keys.map.nodup⟩
  · rintro ⟨hempty, hnodup⟩
    exact ⟨⟨⟨entries, hnodup⟩, fun _ hid he => hempty (he ▸ hid)⟩, ofList_eq_ok.2 rfl⟩

/-- **Refused ids.** The error for ids of which no store is made. -/
inductive Refused (ids : List String) : Error → Prop where
  | emptyId (h : "" ∈ ids) : Refused ids (.config .emptyKeyId)
  | repeatedId {before after : List String} {id : String} (hempty : "" ∉ ids)
      (hsplit : ids = before ++ id :: after) (hbefore : before.Nodup) (hid : id ∈ before) :
      Refused ids (.duplicateKeyId id)

/-- **No store is made** of refused ids, and of no others. -/
theorem ofList_eq_error {e : Error} :
    ofList entries = .error e ↔ Refused (entries.map Prod.fst) e := by
  -- what the search finds, in the words of the rules
  have hrepeated {id : String} : firstRepeated? [] (entries.map Prod.fst) = some id
      ↔ ∃ before after, entries.map Prod.fst = before ++ id :: after ∧ before.Nodup
        ∧ id ∈ before := by
    simp only [firstRepeated?_eq_some, firstRepeated?_eq_none, List.not_mem_nil, or_false,
      not_false_eq_true, implies_true, and_true]
  unfold ofList
  by_cases hempty : "" ∈ entries.map Prod.fst
  · rw [dif_pos hempty]
    constructor
    · intro h
      cases h
      exact .emptyId hempty
    · rintro (h | ⟨hnot, -, -, -⟩)
      · rfl
      · exact absurd hempty hnot
  · rw [dif_neg hempty]
    split
    · next id hid =>
      constructor
      · intro h
        cases h
        obtain ⟨before, after, hsplit, hbefore, hmem⟩ := hrepeated.1 hid
        exact .repeatedId hempty hsplit hbefore hmem
      · rintro (h | ⟨-, hsplit, hbefore, hmem⟩)
        · exact absurd h hempty
        · -- the first repetition is one
          rw [hrepeated.2 ⟨_, _, hsplit, hbefore, hmem⟩] at hid
          rw [Option.some.inj hid]
    · next hnone =>
      refine ⟨nofun, ?_⟩
      rintro (h | ⟨-, hsplit, hbefore, hmem⟩)
      · exact absurd h hempty
      · rw [hrepeated.2 ⟨_, _, hsplit, hbefore, hmem⟩] at hnone
        cases hnone

/-- **Look-up** finds a key under the id that it was given with. -/
theorem get?_eq_some_iff {keys : KeyStore K} {id : String} {key : K} :
    keys.get? id = some key ↔ (id, key) ∈ keys.entries :=
  OrderedMap.get?_eq_some_iff

end KeyStore

end MessageSignatures
