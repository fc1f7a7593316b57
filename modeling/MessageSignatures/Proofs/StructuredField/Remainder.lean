import MessageSignatures.Proofs.StructuredField.WellFormed

/-!
# What readers leave

A reader takes characters from the front and leaves the rest. Keys, bare items and items take at
least one character, so there is less left (`length_lt_of_key`, `length_lt_of_bareItem`,
`length_lt_of_item`); values and parameters may take none (`length_le_of_parameterValue`,
`length_le_of_parameters`, `length_le_of_dictionaryValue`).

So the bound with which the readers of a run of parts are started, the number of characters, is
never used up before the text is.
-/

namespace MessageSignatures

namespace StructuredField

namespace Parser

variable {cs rest : List Char}

theorem length_skipSpaces_le (cs : List Char) : (skipSpaces cs).length ≤ cs.length :=
  List.length_dropWhile_le _ cs

theorem length_skipBlanks_le (cs : List Char) : (skipBlanks cs).length ≤ cs.length :=
  List.length_dropWhile_le _ cs

/-! ### Bare items -/

theorem length_lt_of_key {k : String} (h : key cs = some (k, rest)) : rest.length < cs.length := by
  cases cs with
  | nil => cases h
  | cons c cs =>
    simp only [key] at h
    split at h
    · cases h
      exact Nat.lt_succ_of_le (List.length_dropWhile_le _ cs)
    · cases h

theorem length_lt_of_stringBody {s : List Char} (h : stringBody cs = some (s, rest)) :
    rest.length < cs.length := by
  fun_induction stringBody cs generalizing s with
  | case1 => cases h
  | case2 rest' =>
    cases h
    exact Nat.lt_succ_self _
  | case3 c cs hc ih =>
    obtain ⟨p, hp, heq⟩ := Option.map_eq_some_iff.1 h
    cases heq
    -- two characters go, and the rest is by induction
    have hlt := ih hp
    simp only [List.length_cons]
    omega
  | case4 => cases h
  | case5 c cs _ _ hc ih =>
    obtain ⟨p, hp, heq⟩ := Option.map_eq_some_iff.1 h
    cases heq
    exact Nat.lt_succ_of_lt (ih hp)
  | case6 => cases h

theorem length_lt_of_token {b : BareItem} (h : token cs = some (b, rest)) :
    rest.length < cs.length := by
  cases cs with
  | nil => cases h
  | cons c cs =>
    simp only [token] at h
    split at h
    · cases h
      exact Nat.lt_succ_of_le (List.length_dropWhile_le _ cs)
    · cases h

theorem length_lt_of_octets {b : BareItem} (h : octets cs = some (b, rest)) :
    rest.length < cs.length := by
  unfold octets at h
  split at h
  · cases h
  · next c rest' hdrop =>
    obtain ⟨bs, -, heq⟩ := Option.map_eq_some_iff.1 h
    cases heq
    -- the closing colon is taken off what is left after the octets
    have hle := List.length_dropWhile_le (· != ':') cs
    rw [hdrop] at hle
    exact hle

theorem length_lt_of_unsigned {negative : Bool} {b : BareItem}
    (h : unsigned negative cs = some (b, rest)) : rest.length < cs.length := by
  -- the digits that are taken and what follows them make up the text
  have hsplit : (cs.takeWhile Char.isDigit).length + (cs.dropWhile Char.isDigit).length
      = cs.length := by
    rw [← List.length_append, List.takeWhile_append_dropWhile]
  simp only [unsigned] at h
  split at h
  · cases h
  · -- a decimal point and the digits behind it
    next rest' hdrop _ =>
    split at h
    · cases h
      have hle := List.length_dropWhile_le Char.isDigit rest'
      rw [hdrop, List.length_cons] at hsplit
      omega
    · cases h
  · -- a number without a point has a digit at least
    next hne _ =>
    split at h
    · cases h
      have hpos : 0 < (cs.takeWhile Char.isDigit).length := List.length_pos_iff.2 hne
      omega
    · cases h

theorem length_lt_of_bareItem {b : BareItem} (h : bareItem cs = some (b, rest)) :
    rest.length < cs.length := by
  unfold bareItem at h
  split at h
  · cases h
  · next cs' =>
    unfold boolean at h
    split at h <;> cases h <;> simp only [List.length_cons] <;> omega
  · obtain ⟨p, hp, heq⟩ := Option.map_eq_some_iff.1 h
    cases heq
    exact Nat.lt_succ_of_lt (length_lt_of_stringBody hp)
  · exact Nat.lt_succ_of_lt (length_lt_of_octets h)
  · split at h
    · unfold number at h
      split at h
      · next heq =>
        cases heq
        exact Nat.lt_succ_of_lt (length_lt_of_unsigned h)
      · exact length_lt_of_unsigned h
    · exact length_lt_of_token h

/-! ### Parameters and members -/

theorem length_le_of_parameterValue {b : BareItem} (h : parameterValue cs = some (b, rest)) :
    rest.length ≤ cs.length := by
  unfold parameterValue at h
  split at h
  · exact Nat.le_succ_of_le (Nat.le_of_lt (length_lt_of_bareItem h))
  · cases h
    exact le_refl _

theorem length_le_of_parametersFrom {before ps : Parameters} {bound : Nat}
    (h : parametersFrom before bound cs = some (ps, rest)) : rest.length ≤ cs.length := by
  fun_induction parametersFrom before bound cs with
  | case1 before bound cs ih =>
    simp only [Option.bind_eq_bind, Option.bind_eq_some_iff] at h
    obtain ⟨⟨k, cs'⟩, hk, ⟨b, cs''⟩, hb, h⟩ := h
    have hrest : rest.length ≤ cs''.length := ih _ _ _ h
    have hvalue : cs''.length ≤ cs'.length := length_le_of_parameterValue hb
    -- the key, its value and the rest in turn
    have hkey := length_lt_of_key hk
    have hspaces := length_skipSpaces_le cs
    simp only [List.length_cons]
    omega
  | case2 =>
    cases h
    exact le_refl _

theorem length_le_of_parameters {ps : Parameters} (h : parameters cs = some (ps, rest)) :
    rest.length ≤ cs.length :=
  length_le_of_parametersFrom h

theorem length_lt_of_item {i : Item} (h : item cs = some (i, rest)) : rest.length < cs.length := by
  simp only [item, Option.bind_eq_bind, Option.bind_eq_some_iff] at h
  obtain ⟨⟨b, cs'⟩, hb, ⟨ps, cs''⟩, hps, heq⟩ := h
  cases heq
  exact lt_of_le_of_lt (length_le_of_parameters hps) (length_lt_of_bareItem hb)

theorem length_le_of_innerItems {bound : Nat} {items : List Item}
    (h : innerItems bound cs = some (items, rest)) : rest.length ≤ cs.length := by
  induction bound generalizing cs items with
  | zero => cases h
  | succ bound ih =>
    have hspaces := length_skipSpaces_le cs
    unfold innerItems at h
    split at h
    · -- the bracket that closes the list
      next hclose =>
      cases h
      rw [hclose, List.length_cons] at hspaces
      omega
    · -- an item and those behind it
      simp only [Option.bind_eq_bind, Option.bind_eq_some_iff] at h
      obtain ⟨⟨i, cs'⟩, hi, h⟩ := h
      split at h
      · obtain ⟨⟨more, cs''⟩, hmore, heq⟩ := Option.bind_eq_some_iff.1 h
        cases heq
        have hrest : cs''.length ≤ cs'.length := ih hmore
        have hitem := length_lt_of_item hi
        dsimp only
        omega
      · cases h

theorem length_le_of_member {m : Member} (h : member cs = some (m, rest)) :
    rest.length ≤ cs.length := by
  unfold member at h
  split at h
  · simp only [Option.bind_eq_bind, Option.bind_eq_some_iff] at h
    obtain ⟨⟨items, cs'⟩, hitems, ⟨ps, cs''⟩, hps, heq⟩ := h
    cases heq
    exact Nat.le_succ_of_le ((length_le_of_parameters hps).trans (length_le_of_innerItems hitems))
  · obtain ⟨⟨i, cs'⟩, hi, heq⟩ := Option.map_eq_some_iff.1 h
    cases heq
    exact Nat.le_of_lt (length_lt_of_item hi)

theorem length_le_of_dictionaryValue {m : Member} (h : dictionaryValue cs = some (m, rest)) :
    rest.length ≤ cs.length := by
  unfold dictionaryValue at h
  split at h
  · exact Nat.le_succ_of_le (length_le_of_member h)
  · obtain ⟨⟨ps, cs'⟩, hps, heq⟩ := Option.map_eq_some_iff.1 h
    cases heq
    exact length_le_of_parameters hps

end Parser

end StructuredField

end MessageSignatures
