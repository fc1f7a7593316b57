import MessageSignatures.Proofs.StructuredField.RoundTrip

/-!
# Numbers that are out of range

A printer writes every integer, and a reader takes those of fifteen digits at most. What was written
with a larger one is therefore not read, and neither is anything around it: a reader gives all of a
text or nothing.

The proofs go through the layers of the grammar as those for reading what was written do. What
stands before the integer is canonical, so it is read, and reading comes to the integer and stops
there.

* `Parser.unsigned_eq_none`, `Parser.parameters_eq_none`, `Parser.refused_innerList` — one statement
  for each layer of a member;
* `parseDictionary_eq_none` — a dictionary with such a member is not read.
-/

namespace MessageSignatures

namespace StructuredField

namespace Parser

variable {rest : List Char}

/-- An integer of more than fifteen digits is not read. -/
theorem unsigned_eq_none {n : Nat} (hn : 10 ^ 15 ≤ n) (negative : Bool) (h : AfterValue rest) :
    unsigned negative (Nat.toDigits 10 n ++ rest) = none := by
  have hdigits := all_isDigit_toDigits n
  have hstop : Stops Char.isDigit rest := h.stops (by decide)
  -- one digit more than the reader allows
  have hlength : ¬ (Nat.toDigits 10 n).length ≤ 15 := by
    rw [Nat.length_toDigits_le_iff (by decide) (by decide)]
    exact Nat.not_lt.2 hn
  simp only [unsigned, takeWhile_append hdigits hstop, dropWhile_append hdigits hstop]
  split
  · rfl
  · next hdot =>
    -- what comes after a value is no point
    exact absurd (h '.' rfl) (by decide)
  · rw [if_neg hlength]

/-- **Parameters** are not read if one of them is such an integer and those before it are
canonical. -/
theorem parametersFrom_eq_none {es more : List (String × BareItem)}
    (hes : ∀ e ∈ es, isKey e.1 = true ∧ e.2.Canonical) {k : String} (hk : isKey k = true) {n : Nat}
    (hn : 10 ^ 15 ≤ n) (h : AfterItem rest) (before : Parameters) {bound : Nat}
    (hbound : es.length < bound) :
    parametersFrom before bound (parametersChars (es ++ (k, .integer n) :: more) ++ rest)
      = none := by
  -- on the parameters that stand before the integer, each of which is read
  induction es generalizing before bound with
  | nil =>
    obtain ⟨bound, rfl⟩ := Nat.exists_eq_succ_of_ne_zero (Nat.ne_zero_of_lt hbound)
    have hafter := afterValue_parametersChars more h
    have hvalue : bareItem ((BareItem.integer n).text.toList ++ (parametersChars more ++ rest))
        = none := by
      rw [BareItem.text, integerText_natCast, Nat.toList_repr, bareItem_toDigits,
        unsigned_eq_none hn false hafter]
    rw [List.nil_append, parametersChars, List.flatMap_cons, toList_parameterText,
      ← parametersChars, if_neg (by simp)]
    simp only [List.cons_append, List.append_assoc, parametersFrom, Option.bind_eq_bind]
    rw [skipSpaces_key hk, key_append hk (stops_cons rfl), Option.bind_some]
    simp only [parameterValue]
    rw [hvalue, Option.bind_none]
  | cons e es ih =>
    obtain ⟨k', b⟩ := e
    obtain ⟨hk', hb⟩ := hes (k', b) List.mem_cons_self
    obtain ⟨bound, rfl⟩ := Nat.exists_eq_succ_of_ne_zero (Nat.ne_zero_of_lt hbound)
    rw [List.cons_append, parametersFrom_cons hk' hb (afterValue_parametersChars _ h)]
    exact ih (fun e he => hes e (List.mem_cons_of_mem _ he)) (before.insert k' b)
      (Nat.lt_of_succ_lt_succ hbound)

theorem parameters_eq_none {ps : Parameters} {es more : List (String × BareItem)}
    {k : String} {n : Nat} (hps : ps.entries = es ++ (k, .integer n) :: more)
    (hes : ∀ e ∈ es, isKey e.1 = true ∧ e.2.Canonical) (hk : isKey k = true) (hn : 10 ^ 15 ≤ n)
    (h : AfterItem rest) : parameters ((parametersText ps).toList ++ rest) = none := by
  -- the bound is the length of the text, which has a character for each parameter at least
  have hbound : es.length < (parametersChars ps.entries ++ rest).length := by
    have := length_le_length_parametersChars ps.entries
    rw [hps, List.length_append, List.length_cons] at this
    rw [List.length_append, hps]
    omega
  rw [toList_parametersText, parameters]
  rw [hps] at hbound ⊢
  exact parametersFrom_eq_none hes hk hn h OrderedMap.empty hbound

/-- **Refused member.** A reader does not go past it. -/
def Refused (m : Member) : Prop :=
  ∀ rest, AfterItem rest → member (m.text.toList ++ rest) = none

/-- **Inner lists** are refused if one of their parameters is such an integer. -/
theorem refused_innerList {items : List Item} (hitems : ∀ i ∈ items, i.All BareItem.Canonical)
    {ps : Parameters} {es more : List (String × BareItem)} {k : String} {n : Nat}
    (hps : ps.entries = es ++ (k, .integer n) :: more)
    (hes : ∀ e ∈ es, isKey e.1 = true ∧ e.2.Canonical) (hk : isKey k = true) (hn : 10 ^ 15 ≤ n) :
    Refused (.innerList items ps) := by
  intro rest h
  have hopen : "(".toList = ['('] := rfl
  have hclose : ")".toList = [')'] := rfl
  simp only [Member.text, String.toList_append, hopen, hclose, List.append_assoc, List.cons_append,
    List.nil_append]
  rw [member, innerItems_text hitems (length_lt_innerListChars items _)]
  simp only [Option.bind_eq_bind, Option.bind_some]
  rw [parameters_eq_none hps hes hk hn h, Option.bind_none]

/-- A refused member is where reading stops, whatever was read before. -/
theorem dictionaryFrom_refused {k : String} (hk : isKey k = true) {m : Member} (hm : Refused m)
    (es : List (String × Member)) (before : Dictionary) (bound : Nat) :
    dictionaryFrom before bound ([',', ' '].intercalate (((k, m) :: es).map entryChars))
      = none := by
  cases bound with
  | zero => rfl
  | succ bound =>
    -- what stands behind the member ends it
    obtain ⟨rest, hrest, heq⟩ := exists_intercalate_entryChars_eq (k, m) es
    rw [heq, entryChars, List.append_assoc]
    simp only [dictionaryFrom, List.cons_append, Option.bind_eq_bind]
    rw [key_append hk (stops_cons rfl), Option.bind_some]
    simp only [dictionaryValue]
    rw [hm rest hrest, Option.bind_none]

/-- Reading comes to the first refused member, since those before it are canonical. -/
theorem dictionaryFrom_eq_none {es : List (String × Member)}
    (hes : ∀ e ∈ es, isKey e.1 = true ∧ (e.2.Canonical ∨ Refused e.2)) (h : ∃ e ∈ es, Refused e.2)
    (before : Dictionary) (bound : Nat) :
    dictionaryFrom before bound ([',', ' '].intercalate (es.map entryChars)) = none := by
  induction es generalizing before bound with
  | nil =>
    obtain ⟨e, he, -⟩ := h
    exact absurd he List.not_mem_nil
  | cons e es ih =>
    obtain ⟨⟨hk, hm⟩, htail⟩ := List.forall_mem_cons.1 hes
    -- the search for the bad member goes on where this one is read
    by_cases hrefused : Refused e.2
    · exact dictionaryFrom_refused hk hrefused es before bound
    have hcanonical : e.2.Canonical := hm.resolve_right hrefused
    -- the bad member is behind the first
    have hlater : ∃ e ∈ es, Refused e.2 := by
      obtain ⟨e', he', hrefused'⟩ := h
      rcases List.mem_cons.1 he' with rfl | he'
      · exact absurd hrefused' hrefused
      · exact ⟨e', he', hrefused'⟩
    cases es with
    | nil =>
      obtain ⟨e', he', -⟩ := hlater
      exact absurd he' List.not_mem_nil
    | cons e' es =>
      cases bound with
      | zero => rfl
      | succ bound =>
        rw [dictionaryFrom_cons hk hcanonical (htail e' List.mem_cons_self).1]
        exact ih htail hlater (before.insert e.1 e.2) bound

end Parser

open StructuredField.Parser

/-- **A dictionary** is not read if one of its members is refused and the others are canonical. -/
theorem parseDictionary_eq_none {es : List (String × Member)}
    (hes : ∀ e ∈ es, isKey e.1 = true ∧ (e.2.Canonical ∨ Refused e.2)) (h : ∃ e ∈ es, Refused e.2)
    (hprintable : Text.isPrintable (dictionaryText es) = true) :
    parseDictionary (dictionaryText es) = none := by
  -- the member is refused at its place, wherever that is
  have hread : dictionaryFrom OrderedMap.empty (dictionaryText es).toList.length
      (dictionaryText es).toList = none := by
    rw [toList_dictionaryText]
    exact dictionaryFrom_eq_none hes h OrderedMap.empty _
  cases es with
  | nil =>
    obtain ⟨e, he, -⟩ := h
    exact absurd he List.not_mem_nil
  | cons e es =>
    obtain ⟨rest, -, hrest⟩ := exists_intercalate_entryChars_eq e es
    have hchars : (dictionaryText (e :: es)).toList
        = e.1.toList ++ ('=' :: e.2.text.toList ++ rest) := by
      rw [toList_dictionaryText, hrest, entryChars, List.append_assoc]
    have hnonempty : (dictionaryText (e :: es)).toList ≠ [] := by
      rw [hchars]
      exact List.append_ne_nil_of_right_ne_nil _ (List.cons_ne_nil _ _)
    simp only [parseDictionary, start_of_isPrintable hprintable (hes e List.mem_cons_self).1 hchars,
      Option.bind_eq_bind, Option.bind_some]
    rw [if_neg hnonempty, hread]

end StructuredField

end MessageSignatures
