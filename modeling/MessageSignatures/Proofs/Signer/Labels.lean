import Mathlib.Data.List.Nodup
import Mathlib.Data.List.Perm.Subperm
import Mathlib.Order.Bounds.Basic
import MessageSignatures.Proofs.StructuredField.RoundTrip
import MessageSignatures.Signer

/-!
# Labels

A signature is labelled with its key id if that can be a label and is free. Otherwise it gets a
number, and the numbers are tried in turn until a label with one of them is free (`LabelSearch`).

* **The search ends.** The numbers that it passes over belong to different labels that are taken, so
  there are no more of them than labels that are taken (`numberedLabel_mem_of_freeLabel_mem`,
  `freeLabel_not_mem`). `freeLabel` stops after that many tries, and by then the search has ended
  (`exists_labelSearch`).
* **It ends at the least free number** (`LabelSearch.isLeast`).
* **Labels in a row.** Key ids are labelled one after the other, and the labels given so far are
  taken (`labels`). Every label is free when it is given, so none stands twice, and each of them is
  a key of a dictionary. A key id may look like a numbered label: it has it if no earlier key has
  got it, and the search of another key passes over it (`labels_least_free`).
-/

namespace MessageSignatures

/-! ### Numbered labels -/

theorem numberedLabel_injective {m n : Nat} (h : numberedLabel m = numberedLabel n) : m = n := by
  have hdigits : Nat.toDigits 10 m = Nat.toDigits 10 n := by
    rw [← Nat.toList_repr, ← Nat.toList_repr, (String.append_right_inj _).1 h]
  rw [← StructuredField.Parser.digitsValue_toDigits m, hdigits,
    StructuredField.Parser.digitsValue_toDigits]

theorem isKey_numberedLabel (n : Nat) : StructuredField.isKey (numberedLabel n) = true := by
  have hsig : "sig".toList = ['s', 'i', 'g'] := rfl
  -- a number is written in digits, which a key may hold behind its first letter
  have hdigits : n.repr.toList.all StructuredField.isKeyChar = true := by
    refine List.all_eq_true.2 fun c hc => ?_
    have hdigit : c.isDigit = true := by
      rw [Nat.toList_repr] at hc
      exact List.all_eq_true.1 (StructuredField.Parser.all_isDigit_toDigits n) c hc
    rw [StructuredField.isKeyChar, hdigit]
    simp
  rw [StructuredField.isKey, numberedLabel, String.toList_append, hsig]
  simp only [List.cons_append, List.nil_append, List.all_cons, hdigits]
  rfl

/-! ### The search for a number -/

/-- **Search.** Begun at the first number, the search for a free label ends at the second: a number
whose label is taken is passed over, and the first one whose label is free is kept. There is no
limit to how many are tried. -/
inductive LabelSearch (taken : List String) : Nat → Nat → Prop where
  | keep {n : Nat} (free : numberedLabel n ∉ taken) : LabelSearch taken n n
  | pass {n m : Nat} (used : numberedLabel n ∈ taken) (rest : LabelSearch taken (n + 1) m) :
      LabelSearch taken n m

variable {taken : List String}

/-- **The least free number** is where the search ends. -/
theorem LabelSearch.isLeast {n m : Nat} (h : LabelSearch taken n m) :
    IsLeast {k | n ≤ k ∧ numberedLabel k ∉ taken} m := by
  induction h with
  | keep free => exact ⟨⟨Nat.le_refl _, free⟩, fun k hk => hk.1⟩
  | pass used rest ih =>
    obtain ⟨⟨hle, hfree⟩, hleast⟩ := ih
    -- the number that was found is one of those from `n` on, and no smaller one is free
    refine ⟨⟨Nat.le_of_succ_le hle, hfree⟩, fun k hk => hleast ⟨?_, hk.2⟩⟩
    -- the number that was passed over is not free
    refine Nat.lt_of_le_of_ne hk.1 ?_
    rintro rfl
    exact hk.2 used

/-- What is taken counts, and not in which order it was. -/
theorem LabelSearch.congr {other : List String} (hmem : ∀ label, label ∈ taken ↔ label ∈ other)
    {n m : Nat} (h : LabelSearch taken n m) : LabelSearch other n m := by
  induction h with
  | keep free => exact .keep (mt (hmem _).2 free)
  | pass used rest ih => exact .pass ((hmem _).1 used) ih

/-- **A limited search** gives the label where the search ends, or the limit came first and its
label is taken. -/
theorem exists_freeLabel_eq (taken : List String) (tries n : Nat) :
    ∃ m ≤ n + tries, freeLabel taken tries n = numberedLabel m
      ∧ (numberedLabel m ∉ taken → LabelSearch taken n m) := by
  induction tries generalizing n with
  | zero => exact ⟨n, Nat.le_refl n, rfl, .keep⟩
  | succ tries ih =>
    rw [freeLabel]
    split
    · -- the label is taken, so the next number is tried
      next used =>
      obtain ⟨m, hm, heq, hsearch⟩ := ih (n + 1)
      exact ⟨m, by omega, heq, fun hfree => .pass used (hsearch hfree)⟩
    · next free => exact ⟨n, Nat.le_add_right n _, rfl, .keep⟩

/-- If the last label that is tried is taken, all of them are. -/
theorem numberedLabel_mem_of_freeLabel_mem {tries n : Nat} (h : freeLabel taken tries n ∈ taken) :
    ∀ k ≤ tries, numberedLabel (n + k) ∈ taken := by
  induction tries generalizing n with
  | zero =>
    intro k hk
    obtain rfl := Nat.le_zero.1 hk
    exact h
  | succ tries ih =>
    rw [freeLabel] at h
    -- a label is given up only if it is taken
    split at h
    · next hn =>
      intro k hk
      cases k with
      | zero => exact hn
      | succ k =>
        -- the search went on with the next number
        rw [Nat.add_succ, ← Nat.succ_add]
        exact ih h k (Nat.le_of_succ_le_succ hk)
    · next hn => exact absurd h hn

/-- **A free label** is found: more labels are tried than are taken. -/
theorem freeLabel_not_mem (taken : List String) (n : Nat) :
    freeLabel taken taken.length n ∉ taken := by
  intro h
  have hmem := numberedLabel_mem_of_freeLabel_mem h
  -- if it were taken, the labels that are tried would be different ones among those that are taken
  have hnodup : ((List.range (taken.length + 1)).map fun k => numberedLabel (n + k)).Nodup := by
    refine List.Nodup.map ?_ List.nodup_range
    intro k l hkl
    have := numberedLabel_injective hkl
    omega
  have hsubset : (List.range (taken.length + 1)).map (fun k => numberedLabel (n + k)) ⊆ taken := by
    intro label hlabel
    obtain ⟨k, hk, rfl⟩ := List.mem_map.1 hlabel
    exact hmem k (Nat.le_of_lt_succ (List.mem_range.1 hk))
  -- there is no room for so many
  have hlength := (List.subperm_of_subset hnodup hsubset).length_le
  rw [List.length_map, List.length_range] at hlength
  omega

/-- **The search ends**, and the numbers that it tries are no more than one for each label that is
taken and one for the label that is found. -/
theorem exists_labelSearch (taken : List String) (n : Nat) :
    ∃ m ≤ n + taken.length, freeLabel taken taken.length n = numberedLabel m
      ∧ LabelSearch taken n m := by
  obtain ⟨m, hm, heq, hsearch⟩ := exists_freeLabel_eq taken taken.length n
  exact ⟨m, hm, heq, hsearch (heq ▸ freeLabel_not_mem taken n)⟩

/-! ### One label -/

theorem isKey_chooseLabel (keyId : String) (position : Nat) :
    StructuredField.isKey (chooseLabel keyId position taken) = true := by
  unfold chooseLabel
  split
  · next h => exact (Bool.and_eq_true_iff.1 h).1
  · obtain ⟨m, -, hm, -⟩ := exists_labelSearch taken (position + 1)
    rw [hm]
    exact isKey_numberedLabel m

theorem chooseLabel_not_mem (keyId : String) (position : Nat) :
    chooseLabel keyId position taken ∉ taken := by
  unfold chooseLabel
  split
  · next h => simpa using (Bool.and_eq_true_iff.1 h).2
  · exact freeLabel_not_mem taken (position + 1)

/-- **A key id is its own label** exactly if it can be a label and is free. -/
theorem chooseLabel_eq_self_iff {keyId : String} {position : Nat} :
    chooseLabel keyId position taken = keyId
      ↔ StructuredField.isKey keyId = true ∧ keyId ∉ taken := by
  constructor
  · intro h
    rw [← h]
    exact ⟨isKey_chooseLabel keyId position, chooseLabel_not_mem keyId position⟩
  · rintro ⟨hkey, hfree⟩
    -- no other label is looked for
    unfold chooseLabel
    rw [if_pos (by simpa using ⟨hkey, hfree⟩)]

/-- **Another label** has the number at which the search ends. -/
theorem exists_labelSearch_of_chooseLabel_ne {keyId : String} {position : Nat}
    (h : chooseLabel keyId position taken ≠ keyId) :
    ∃ m ≤ position + 1 + taken.length, chooseLabel keyId position taken = numberedLabel m
      ∧ LabelSearch taken (position + 1) m := by
  unfold chooseLabel at h ⊢
  -- it is not the key id, so the search was run
  split at h
  · exact absurd rfl h
  · next hnot =>
    rw [if_neg hnot]
    exact exists_labelSearch taken (position + 1)

/-! ### Labels in a row -/

/-- The labels of key ids from a position on, given the labels that are taken. -/
def labelsFrom : List String → Nat → List String → List String
  | [], _, _ => []
  | keyId :: keyIds, position, taken =>
    let label := chooseLabel keyId position taken
    label :: labelsFrom keyIds (position + 1) (label :: taken)

/-- **Labels** of key ids in a row, of which none is taken at first. A signer labels its signatures
so (`Signer.labels_of_sign`). -/
def labels (keyIds : List String) : List String :=
  labelsFrom keyIds 0 []

/-- **Step.** The label at a position is chosen when the labels before it are taken. -/
theorem getElem?_labelsFrom (keyIds : List String) (position : Nat) (taken : List String)
    (i : Nat) :
    (labelsFrom keyIds position taken)[i]? = keyIds[i]?.map fun keyId =>
      chooseLabel keyId (position + i)
        (((labelsFrom keyIds position taken).take i).reverse ++ taken) := by
  induction keyIds generalizing position taken i with
  | nil => rfl
  | cons keyId keyIds ih =>
    cases i with
    | zero => rfl
    | succ i =>
      -- the labels of the keys in front are put on the list one by one, the last first
      rw [labelsFrom, List.getElem?_cons_succ, List.getElem?_cons_succ, ih, List.take_succ_cons,
        List.reverse_cons, List.append_assoc, List.singleton_append, Nat.add_right_comm,
        Nat.add_assoc]

/-- **Run.** All labels are keys of a dictionary, and none is taken. -/
theorem isKey_and_not_mem_of_mem_labelsFrom {keyIds : List String} {position : Nat} {label : String}
    (h : label ∈ labelsFrom keyIds position taken) :
    StructuredField.isKey label = true ∧ label ∉ taken := by
  induction keyIds generalizing position taken with
  | nil => exact absurd h List.not_mem_nil
  | cons keyId keyIds ih =>
    rw [labelsFrom] at h
    rcases List.mem_cons.1 h with rfl | h
    · exact ⟨isKey_chooseLabel keyId position, chooseLabel_not_mem keyId position⟩
    · -- the labels behind the first avoid it as well
      obtain ⟨hkey, hfree⟩ := ih h
      exact ⟨hkey, fun hmem => hfree (List.mem_cons_of_mem _ hmem)⟩

/-- No label stands twice: those behind it were chosen when it was taken. -/
theorem nodup_labelsFrom (keyIds : List String) (position : Nat) (taken : List String) :
    (labelsFrom keyIds position taken).Nodup := by
  induction keyIds generalizing position taken with
  | nil => exact List.nodup_nil
  | cons keyId keyIds ih =>
    rw [labelsFrom, List.nodup_cons]
    exact ⟨fun hmem => (isKey_and_not_mem_of_mem_labelsFrom hmem).2 List.mem_cons_self, ih _ _⟩

theorem length_labelsFrom (keyIds : List String) (position : Nat) (taken : List String) :
    (labelsFrom keyIds position taken).length = keyIds.length := by
  induction keyIds generalizing position taken with
  | nil => rfl
  | cons keyId keyIds ih => rw [labelsFrom, List.length_cons, ih, List.length_cons]

/-- **Every label is the key id or the least free one with a number.**

Of key ids in a row, each gets a label. No label stands twice, and all of them are keys of a
dictionary. A key id is its own label exactly if it is such a key and no key before it has got it.
Otherwise the search from the number behind its position ends, no later than at the double of its
position and one, and the label has the least number from there on whose label no key before it has
got. -/
theorem labels_least_free (keyIds : List String) :
    (labels keyIds).length = keyIds.length
      ∧ (labels keyIds).Nodup
      ∧ (∀ label ∈ labels keyIds, StructuredField.isKey label = true)
      ∧ ∀ i : Fin keyIds.length, ∃ label, (labels keyIds)[i.val]? = some label
        ∧ (label = keyIds[i] ↔
          StructuredField.isKey keyIds[i] = true ∧ keyIds[i] ∉ (labels keyIds).take i)
        ∧ (label = keyIds[i] ∨ ∃ n ≤ 2 * i.val + 1, label = numberedLabel n
          ∧ LabelSearch ((labels keyIds).take i) (i + 1) n
          ∧ IsLeast {k | i.val + 1 ≤ k ∧ numberedLabel k ∉ (labels keyIds).take i} n) := by
  refine ⟨length_labelsFrom keyIds 0 [], nodup_labelsFrom keyIds 0 [],
    fun label hlabel => (isKey_and_not_mem_of_mem_labelsFrom hlabel).1, fun i => ?_⟩
  -- what is taken at position `i` are the `i` labels chosen before
  have hlength : ((labels keyIds).take i).reverse.length = i := by
    rw [List.length_reverse, List.length_take, labels, length_labelsFrom]
    omega
  have hmem (label : String) :
      label ∈ ((labels keyIds).take i).reverse ↔ label ∈ (labels keyIds).take i := List.mem_reverse
  have hlabel : (labels keyIds)[i.val]?
      = some (chooseLabel keyIds[i] i ((labels keyIds).take i).reverse) := by
    rw [labels, getElem?_labelsFrom, List.getElem?_eq_getElem i.isLt, List.append_nil, Nat.zero_add]
    rfl
  refine ⟨_, hlabel, ?_, or_iff_not_imp_left.2 fun hne => ?_⟩
  · rw [chooseLabel_eq_self_iff, hmem]
  · -- so many labels can be passed over as are taken
    obtain ⟨n, hn, heq, hsearch⟩ := exists_labelSearch_of_chooseLabel_ne hne
    have hsearch' := hsearch.congr hmem
    exact ⟨n, by omega, heq, hsearch', hsearch'.isLeast⟩

/-- The third key begins with `sig3`, and passes over two labels that are key ids of others. The
fourth one finds its own id taken, and the fifth one does not. -/
example :
    labels ["sig3", "sig4", "Key", "sig5", "sig1"] = ["sig3", "sig4", "sig5", "sig6", "sig1"] := by
  decide

end MessageSignatures
