/-!
# Maps that keep their order

A map from text to values that remembers the order in which its keys came first. Parameters,
dictionaries, labelled signatures and key stores are such maps: their order is visible in what is
signed.

* `insert` on a new key appends it; on a key that is there it replaces the value and keeps the
  place (`keys_insert`).
* `traverse` applies a fallible function to every value and keeps the keys (`keys_traverse`).

No key stands twice (`OrderedMap.nodup`), so `get?` is unambiguous.
-/

namespace MessageSignatures

/-- **Ordered map.** Entries in order, with no key twice. -/
structure OrderedMap (α : Type) where
  entries : List (String × α)
  nodup : (entries.map Prod.fst).Nodup
deriving DecidableEq

namespace OrderedMap

variable {α β ε : Type}

/-- The map with no entry. -/
def empty : OrderedMap α :=
  ⟨[], List.nodup_nil⟩

instance : Inhabited (OrderedMap α) := ⟨empty⟩

/-- The keys, in order. -/
def keys (m : OrderedMap α) : List String :=
  m.entries.map Prod.fst

/-- The number of entries. -/
def size (m : OrderedMap α) : Nat :=
  m.entries.length

/-- Whether there is no entry. -/
def isEmpty (m : OrderedMap α) : Bool :=
  m.entries.isEmpty

/-- The value under a key. -/
def get? (m : OrderedMap α) (key : String) : Option α :=
  m.entries.lookup key

/-- Whether there is an entry under a key. -/
def contains (m : OrderedMap α) (key : String) : Bool :=
  (m.get? key).isSome

/-- Replace the value of a key in a list of entries, or append the entry. -/
def insertEntry (key : String) (value : α) : List (String × α) → List (String × α)
  | [] => [(key, value)]
  | (k, v) :: rest => if k = key then (k, value) :: rest else (k, v) :: insertEntry key value rest

theorem map_fst_insertEntry (key : String) (value : α) (es : List (String × α)) :
    (insertEntry key value es).map Prod.fst
      = if key ∈ es.map Prod.fst then es.map Prod.fst else es.map Prod.fst ++ [key] := by
  induction es with
  | nil => simp [insertEntry]
  | cons e rest ih =>
    obtain ⟨k, v⟩ := e
    by_cases h : k = key
    · simp [insertEntry, h]
    · have h' : ¬ key = k := fun hk => h hk.symm
      by_cases hm : key ∈ rest.map Prod.fst
      · simp only [insertEntry, h, if_false, List.map_cons, ih, hm, if_true, List.mem_cons, h',
          or_true]
      · simp only [insertEntry, h, if_false, List.map_cons, ih, hm, List.mem_cons, h', or_self,
          List.cons_append]

/-- **Insertion.** A key that is there keeps its place and takes the new value; a new key goes to
the end. -/
def insert (m : OrderedMap α) (key : String) (value : α) : OrderedMap α where
  entries := insertEntry key value m.entries
  nodup := by
    rw [map_fst_insertEntry]
    split
    · exact m.nodup
    · next h =>
      refine List.nodup_append.2 ⟨m.nodup, by simp, ?_⟩
      intro a ha b hb hab
      simp only [List.mem_singleton] at hb
      exact h (hb ▸ hab ▸ ha)

theorem keys_insert (m : OrderedMap α) (key : String) (value : α) :
    (m.insert key value).keys = if key ∈ m.keys then m.keys else m.keys ++ [key] :=
  map_fst_insertEntry key value m.entries

/-- Apply a fallible function to every value of a list of entries, first failure first. -/
def traverseEntries (f : String → α → Except ε β) :
    List (String × α) → Except ε (List (String × β))
  | [] => .ok []
  | (k, v) :: rest =>
    match f k v with
    | .error e => .error e
    | .ok w =>
      match traverseEntries f rest with
      | .error e => .error e
      | .ok ws => .ok ((k, w) :: ws)

theorem map_fst_traverseEntries {f : String → α → Except ε β} {es : List (String × α)}
    {ws : List (String × β)} (h : traverseEntries f es = .ok ws) :
    ws.map Prod.fst = es.map Prod.fst := by
  induction es generalizing ws with
  | nil => simp only [traverseEntries, Except.ok.injEq] at h; simp [← h]
  | cons e rest ih =>
    obtain ⟨k, v⟩ := e
    simp only [traverseEntries] at h
    split at h
    · cases h
    · split at h
      · cases h
      · next hrest => cases h; simp [ih hrest]

/-- **Traversal.** Every value is replaced by its image, in order; the first failure is the
failure of the whole. -/
def traverse (f : String → α → Except ε β) (m : OrderedMap α) : Except ε (OrderedMap β) :=
  match h : traverseEntries f m.entries with
  | .error e => .error e
  | .ok ws => .ok ⟨ws, by rw [map_fst_traverseEntries h]; exact m.nodup⟩

theorem keys_traverse {f : String → α → Except ε β} {m : OrderedMap α} {w : OrderedMap β}
    (h : m.traverse f = .ok w) : w.keys = m.keys := by
  unfold traverse at h
  split at h
  · cases h
  · next hrest => cases h; exact map_fst_traverseEntries hrest

end OrderedMap

end MessageSignatures
