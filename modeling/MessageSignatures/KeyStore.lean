import MessageSignatures.Error

/-!
# Key stores

A key store maps key ids to keys and keeps the order in which the keys were added, which is the
order in which a signer signs. Ids are not empty and no id stands twice; `KeyStore.ofList` refuses
any other list and names the first id that repeats an earlier one.
-/

namespace MessageSignatures

/-- **Key store.** -/
structure KeyStore (K : Type) where
  map : OrderedMap K
  id_ne_empty : ∀ id ∈ map.keys, id ≠ ""

namespace KeyStore

variable {K : Type}

/-- The ids and keys, in order. -/
def entries (s : KeyStore K) : List (String × K) :=
  s.map.entries

/-- The ids, in order. -/
def ids (s : KeyStore K) : List String :=
  s.map.keys

/-- The key of an id. -/
def get? (s : KeyStore K) (id : String) : Option K :=
  s.map.get? id

/-- Whether an id has a key. -/
def contains (s : KeyStore K) (id : String) : Bool :=
  s.map.contains id

/-- The number of keys. -/
def size (s : KeyStore K) : Nat :=
  s.map.size

/-- Whether there is no key. -/
def isEmpty (s : KeyStore K) : Bool :=
  s.map.isEmpty

/-- The first text of a list that repeats an earlier one, where `earlier` came before the list. -/
def firstRepeated? (earlier : List String) : List String → Option String
  | [] => none
  | id :: ids => if id ∈ earlier then some id else firstRepeated? (id :: earlier) ids

theorem firstRepeated?_eq_none {earlier ids : List String} :
    firstRepeated? earlier ids = none ↔ ids.Nodup ∧ ∀ id ∈ ids, id ∉ earlier := by
  induction ids generalizing earlier with
  | nil => simp [firstRepeated?]
  | cons id ids ih =>
    by_cases h : id ∈ earlier
    · simp [firstRepeated?, h]
    · simp only [firstRepeated?, h, if_false, ih, List.nodup_cons, List.mem_cons, not_or,
        forall_eq_or_imp, not_false_eq_true, true_and]
      constructor
      · rintro ⟨hn, hm⟩
        exact ⟨⟨fun hid => (hm id hid).1 rfl, hn⟩, fun x hx => (hm x hx).2⟩
      · rintro ⟨⟨hid, hn⟩, hm⟩
        exact ⟨hn, fun x hx => ⟨fun he => hid (he ▸ hx), hm x hx⟩⟩

/-- **Building.** The store of a list of ids and keys. An empty id is the first fault, a repeated
one the second. -/
def ofList (entries : List (String × K)) : Except Error (KeyStore K) :=
  if empty : "" ∈ entries.map Prod.fst then .error (.config .emptyKeyId)
  else
    match h : firstRepeated? [] (entries.map Prod.fst) with
    | some id => .error (.duplicateKeyId id)
    | none => .ok ⟨⟨entries, (firstRepeated?_eq_none.1 h).1⟩, fun _ hid he => empty (he ▸ hid)⟩

end KeyStore

end MessageSignatures
