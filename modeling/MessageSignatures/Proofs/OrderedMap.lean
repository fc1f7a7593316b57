import MessageSignatures.OrderedMap
import MessageSignatures.Proofs.Except
import Mathlib.Data.List.Forall2

/-!
# Entries of ordered maps

`OrderedMap.insert` and `OrderedMap.traverse` told by the entries: a new key goes to the end
(`entries_insert`), nothing but the new entry comes in (`forall_mem_insert`), look-up finds what is
an entry (`get?_eq_some_iff`), and a traversal succeeds exactly if it succeeds at each entry
(`traverse_eq_ok_iff`). It fails as it does at the first entry where it fails
(`traverse_eq_error_iff`). An image (`OrderedMap.map`) has the same keys in the same places. Of
several entries that are inserted under one key, the last one is found (`get?_insertAll`).
-/

namespace MessageSignatures

namespace OrderedMap

variable {α β ε : Type}

/-- A map is its entries. -/
theorem ext_entries {m n : OrderedMap α} (h : m.entries = n.entries) : m = n := by
  cases m
  cases n
  congr

theorem insertEntry_of_not_mem {key : String} {value : α} {es : List (String × α)}
    (h : key ∉ es.map Prod.fst) : insertEntry key value es = es ++ [(key, value)] := by
  induction es with
  | nil => rfl
  | cons e es ih =>
    obtain ⟨k, v⟩ := e
    simp only [List.map_cons, List.mem_cons, not_or] at h
    rw [insertEntry, if_neg (Ne.symm h.1), ih h.2, List.cons_append]

/-- A new key goes to the end. -/
theorem entries_insert {m : OrderedMap α} {key : String} (h : key ∉ m.keys) (value : α) :
    (m.insert key value).entries = m.entries ++ [(key, value)] :=
  insertEntry_of_not_mem h

/-- A key that does not stand before or behind goes to the end, and no key stands twice then
either. -/
theorem nodup_keys_insert {m : OrderedMap α} {key : String} {more : List String}
    (h : (m.keys ++ key :: more).Nodup) (value : α) :
    key ∉ m.keys ∧ ((m.insert key value).keys ++ more).Nodup := by
  have hnew : key ∉ m.keys := fun hmem =>
    (List.nodup_append.1 h).2.2 key hmem key List.mem_cons_self rfl
  refine ⟨hnew, ?_⟩
  rw [keys_insert, if_neg hnew, List.append_assoc]
  exact h

theorem mem_insertEntry {key : String} {value : α} {es : List (String × α)} {e : String × α}
    (h : e ∈ insertEntry key value es) : e ∈ es ∨ e = (key, value) := by
  induction es with
  | nil => exact .inr (List.mem_singleton.1 h)
  | cons e' es ih =>
    -- the entry of the key is replaced where it stands, or put last
    obtain ⟨k, v⟩ := e'
    by_cases hk : k = key
    · subst hk
      simp only [insertEntry, if_true, List.mem_cons] at h
      exact h.elim .inr fun h => .inl (List.mem_cons_of_mem _ h)
    · simp only [insertEntry, hk, if_false, List.mem_cons] at h
      rcases h with rfl | h
      · exact .inl List.mem_cons_self
      · exact (ih h).imp_left (List.mem_cons_of_mem _)

/-- What holds of every entry of a map and of a new one holds of every entry after insertion. -/
theorem forall_mem_insert {P : String × α → Prop} {m : OrderedMap α} {key : String} {value : α}
    (hm : ∀ e ∈ m.entries, P e) (hnew : P (key, value)) :
    ∀ e ∈ (m.insert key value).entries, P e := fun e he =>
  (mem_insertEntry he).elim (hm e) fun h => h ▸ hnew

/-- An entry is found under its key. -/
theorem get?_of_mem {m : OrderedMap α} {key : String} {value : α} (h : (key, value) ∈ m.entries) :
    m.get? key = some value := by
  obtain ⟨es, hnodup⟩ := m
  -- on the list of entries, since a look-up walks over it
  change es.lookup key = some value
  induction es with
  | nil => exact absurd h List.not_mem_nil
  | cons e es ih =>
    obtain ⟨k, v⟩ := e
    rw [List.map_cons, List.nodup_cons] at hnodup
    -- no key stands twice, so an entry further behind has another key than the first
    rcases List.mem_cons.1 h with heq | htail
    · cases heq
      rw [List.lookup_cons, beq_self_eq_true]
    · have hne : key ≠ k := fun hk => hnodup.1 (List.mem_map.2 ⟨_, htail, hk⟩)
      rw [List.lookup_cons, beq_false_of_ne hne]
      exact ih hnodup.2 htail

/-- **Look-up** tells the entries. -/
theorem get?_eq_some_iff {m : OrderedMap α} {key : String} {value : α} :
    m.get? key = some value ↔ (key, value) ∈ m.entries := by
  refine ⟨fun h => ?_, get?_of_mem⟩
  obtain ⟨before, after, heq, -⟩ := List.lookup_eq_some_iff.1 h
  rw [heq]
  exact List.mem_append_right before List.mem_cons_self

theorem get?_eq_none_iff {m : OrderedMap α} {key : String} :
    m.get? key = none ↔ key ∉ m.keys := by
  rw [get?, List.lookup_eq_none_iff, keys, List.mem_map]
  constructor
  · rintro h ⟨e, he, rfl⟩
    exact absurd rfl (bne_iff_ne.1 (h e he))
  · intro h e he
    exact bne_iff_ne.2 fun heq => h ⟨e, he, heq.symm⟩

/-! ### Insertion of several entries -/

/-- Under the new key there is the new value, and under another one what was there before. -/
theorem get?_insert (m : OrderedMap α) (key : String) (value : α) (k : String) :
    (m.insert key value).get? k = if k = key then some value else m.get? k := by
  obtain ⟨es, hnodup⟩ := m
  show (insertEntry key value es).lookup k = if k = key then some value else es.lookup k
  clear hnodup
  -- the insertion walks over the entries of other keys
  induction es with
  | nil =>
    rw [insertEntry, List.lookup_cons, List.lookup_nil]
    by_cases hk : k = key
    · rw [if_pos hk, beq_iff_eq.2 hk]
    · rw [if_neg hk, beq_false_of_ne hk]
  | cons e es ih =>
    obtain ⟨k', v⟩ := e
    rw [insertEntry]
    by_cases hkey : k' = key
    · -- it takes the place of the first entry
      subst hkey
      rw [if_pos rfl, List.lookup_cons, List.lookup_cons]
      by_cases hk : k = k'
      · rw [if_pos hk, beq_iff_eq.2 hk]
      · rw [if_neg hk, beq_false_of_ne hk]
    · -- the first entry has another key, and is passed over by both
      rw [if_neg hkey, List.lookup_cons, List.lookup_cons, ih]
      by_cases hk : k = k'
      · subst hk
        rw [if_neg hkey, if_neg hkey, beq_self_eq_true]
      · rw [beq_false_of_ne hk]

/-- **Several entries** are taken in from the first to the last. -/
def insertAll (m : OrderedMap α) (es : List (String × α)) : OrderedMap α :=
  es.foldl (fun m e => m.insert e.1 e.2) m

/-- Of several values under a key the last one counts. -/
theorem get?_insertAll (m : OrderedMap α) (es : List (String × α)) (key : String) :
    (m.insertAll es).get? key = (es.reverse.lookup key).or (m.get? key) := by
  -- the last entry of a key is the one that counts, hence the reversed list
  induction es generalizing m with
  | nil => rfl
  | cons e es ih =>
    obtain ⟨k, v⟩ := e
    -- one insertion is a look-up in one entry first
    have hstep : (m.insert k v).get? key = (List.lookup key [(k, v)]).or (m.get? key) := by
      rw [get?_insert, List.lookup_cons]
      by_cases hk : key = k
      · rw [if_pos hk, beq_iff_eq.2 hk]
        rfl
      · rw [if_neg hk, beq_false_of_ne hk]
        rfl
    calc ((m.insert k v).insertAll es).get? key
        = (es.reverse.lookup key).or ((m.insert k v).get? key) := ih (m.insert k v)
      _ = ((es.reverse.lookup key).or (List.lookup key [(k, v)])).or (m.get? key) := by
          rw [hstep, Option.or_assoc]
      _ = (((k, v) :: es).reverse.lookup key).or (m.get? key) := by
          rw [List.reverse_cons, List.lookup_append]

/-! ### Images -/

/-- **Image.** Every value is replaced by what a function makes of it, in its place. -/
def map (f : α → β) (m : OrderedMap α) : OrderedMap β where
  entries := m.entries.map fun e => (e.1, f e.2)
  nodup := by
    rw [List.map_map]
    exact m.nodup

theorem map_id (m : OrderedMap α) : m.map id = m :=
  ext_entries (List.map_id m.entries)

theorem get?_map (f : α → β) (m : OrderedMap α) (key : String) :
    (m.map f).get? key = (m.get? key).map f := by
  change (m.entries.map fun e => (e.1, f e.2)).lookup key = (m.entries.lookup key).map f
  induction m.entries with
  | nil => rfl
  | cons e es ih =>
    rw [List.map_cons, List.lookup_cons, List.lookup_cons, ih]
    cases key == e.1 <;> rfl

theorem map_insertEntry (f : α → β) (key : String) (value : α) (es : List (String × α)) :
    (insertEntry key value es).map (fun e => (e.1, f e.2))
      = insertEntry key (f value) (es.map fun e => (e.1, f e.2)) := by
  induction es with
  | nil => rfl
  | cons e es ih =>
    rw [List.map_cons, insertEntry, insertEntry]
    split
    · rfl
    · rw [List.map_cons, ih]

/-- An image takes in the image of what is inserted. -/
theorem map_insert (f : α → β) (m : OrderedMap α) (key : String) (value : α) :
    (m.insert key value).map f = (m.map f).insert key (f value) :=
  ext_entries (map_insertEntry f key value m.entries)

/-! ### Traversal -/

theorem traverseEntries_eq_ok_iff {f : String → α → Except ε β} {es : List (String × α)}
    {ws : List (String × β)} :
    traverseEntries f es = .ok ws
      ↔ List.Forall₂ (fun e w => w.1 = e.1 ∧ f e.1 e.2 = .ok w.2) es ws := by
  induction es generalizing ws with
  | nil =>
    rw [List.forall₂_nil_left_iff, traverseEntries, Except.ok.injEq]
    exact eq_comm
  | cons e es ih =>
    obtain ⟨k, v⟩ := e
    rw [List.forall₂_cons_left_iff]
    simp only [traverseEntries]
    constructor
    · -- read forwards: each step has to succeed
      intro h
      split at h
      · cases h
      · next w hw =>
        split at h
        · cases h
        · next ws' hws =>
          cases h
          exact ⟨(k, w), ws', ⟨rfl, hw⟩, ih.1 hws, rfl⟩
    · -- and backwards, from the values
      rintro ⟨⟨k', w⟩, ws', ⟨rfl, hw⟩, hws, rfl⟩
      rw [hw, ih.2 hws]

/-- A traversal of a map is one of its entries. -/
theorem traverse_eq_ok {f : String → α → Except ε β} {m : OrderedMap α} {w : OrderedMap β} :
    m.traverse f = .ok w ↔ traverseEntries f m.entries = .ok w.entries := by
  -- the map of the result takes its entries over, with the same keys
  unfold traverse
  constructor
  · intro h
    split at h
    · cases h
    · next hws =>
      cases h
      exact hws
  · intro h
    split
    · next herr => rw [h] at herr; cases herr
    · next hws =>
      rw [h, Except.ok.injEq] at hws
      subst hws
      rfl

theorem traverse_eq_error {f : String → α → Except ε β} {m : OrderedMap α} {e : ε} :
    m.traverse f = .error e ↔ traverseEntries f m.entries = .error e := by
  unfold traverse
  constructor
  · intro h
    split at h
    · next herr => exact herr.trans (congrArg _ (Except.error.inj h))
    · cases h
  · intro h
    split
    · next herr => exact congrArg _ (Except.error.inj (herr.symm.trans h))
    · next hws =>
      rw [h] at hws
      cases hws

/-- **Traversal** succeeds exactly if it succeeds at each entry. -/
theorem traverse_eq_ok_iff {f : String → α → Except ε β} {m : OrderedMap α} {w : OrderedMap β} :
    m.traverse f = .ok w
      ↔ List.Forall₂ (fun e w => w.1 = e.1 ∧ f e.1 e.2 = .ok w.2) m.entries w.entries := by
  rw [traverse_eq_ok, traverseEntries_eq_ok_iff]

/-- A traversal goes through the entries in their order: first those in front, then those behind. -/
theorem traverseEntries_append {f : String → α → Except ε β} {es more : List (String × α)}
    {ws : List (String × β)} (h : traverseEntries f es = .ok ws) :
    traverseEntries f (es ++ more) = (traverseEntries f more).map (ws ++ ·) := by
  induction es generalizing ws with
  | nil =>
    obtain rfl : [] = ws := Except.ok.inj h
    rw [List.nil_append]
    cases traverseEntries f more <;> rfl
  | cons e es ih =>
    obtain ⟨⟨k, w⟩, ws', ⟨rfl, hw⟩, hws, rfl⟩ :=
      List.forall₂_cons_left_iff.1 (traverseEntries_eq_ok_iff.1 h)
    simp only [List.cons_append, traverseEntries, hw, ih (traverseEntries_eq_ok_iff.2 hws)]
    cases traverseEntries f more <;> rfl

theorem traverseEntries_eq_mapM (f : String → α → Except ε β) (es : List (String × α)) :
    traverseEntries f es = es.mapM fun e => (f e.1 e.2).map fun w => (e.1, w) := by
  induction es with
  | nil => rfl
  | cons e es ih =>
    obtain ⟨k, v⟩ := e
    rw [List.mapM_cons, ← ih, traverseEntries]
    cases f k v with
    | error e => rfl
    | ok w => cases traverseEntries f es <;> rfl

/-- **A traversal fails** as it does at the first entry where it fails. -/
theorem traverse_eq_error_iff {f : String → α → Except ε β} {m : OrderedMap α} {e : ε} :
    m.traverse f = .error e ↔ ∃ before key value after, m.entries = before ++ (key, value) :: after
      ∧ (∀ e' ∈ before, ∃ w, f e'.1 e'.2 = .ok w) ∧ f key value = .error e := by
  rw [traverse_eq_error, traverseEntries_eq_mapM, Fallible.mapM_eq_error]
  simp only [Fallible.map_eq_error, Fallible.map_eq_ok]
  -- both sides cut the entries at the first failure
  constructor
  · rintro ⟨before, ⟨key, value⟩, after, hentries, hbefore, he⟩
    refine ⟨before, key, value, after, hentries, fun e' he' => ?_, he⟩
    obtain ⟨-, w, hw, -⟩ := hbefore e' he'
    exact ⟨w, hw⟩
  · rintro ⟨before, key, value, after, hentries, hbefore, he⟩
    refine ⟨before, (key, value), after, hentries, fun e' he' => ?_, he⟩
    obtain ⟨w, hw⟩ := hbefore e' he'
    exact ⟨_, w, hw, rfl⟩

/-- **Look-up after a traversal** finds what the traversal gives at that key. -/
theorem get?_traverse {f : String → α → Except ε β} {m : OrderedMap α} {w : OrderedMap β}
    (h : m.traverse f = .ok w) (key : String) :
    (∃ x y, m.get? key = some x ∧ f key x = .ok y ∧ w.get? key = some y)
      ∨ m.get? key = none ∧ w.get? key = none := by
  cases hget : m.get? key with
  | none =>
    -- the keys are the same, so a missing one is missing in both
    refine .inr ⟨rfl, get?_eq_none_iff.2 ?_⟩
    rw [keys_traverse h]
    exact get?_eq_none_iff.1 hget
  | some x =>
    -- the entry has its partner under its own key
    obtain ⟨⟨key', y⟩, hmem, rfl, hy⟩ :=
      Fallible.exists_right_of_mem (traverse_eq_ok_iff.1 h) (get?_eq_some_iff.1 hget)
    exact .inl ⟨x, y, rfl, hy, get?_of_mem hmem⟩

/-- Entries behind those of a map are traversed behind them. -/
theorem traverse_append {f : String → α → Except ε β} {m n : OrderedMap α} {w : OrderedMap β}
    {more : List (String × α)} (h : m.traverse f = .ok w) (hn : n.entries = m.entries ++ more) :
    (∀ ws, traverseEntries f more = .ok ws →
        ∃ w', n.traverse f = .ok w' ∧ w'.entries = w.entries ++ ws)
      ∧ ∀ e, traverseEntries f more = .error e → n.traverse f = .error e := by
  have happend : traverseEntries f n.entries = (traverseEntries f more).map (w.entries ++ ·) := by
    rw [hn]
    exact traverseEntries_append (traverse_eq_ok.1 h)
  constructor
  · -- what was read before stays in front
    intro ws hws
    have hread : traverseEntries f n.entries = .ok (w.entries ++ ws) := by
      rw [happend, hws]
      rfl
    exact ⟨⟨w.entries ++ ws, map_fst_traverseEntries hread ▸ n.nodup⟩, traverse_eq_ok.2 hread, rfl⟩
  · -- the first failure is behind what was read before
    intro e he
    rw [traverse_eq_error, happend, he]
    rfl

end OrderedMap

end MessageSignatures
