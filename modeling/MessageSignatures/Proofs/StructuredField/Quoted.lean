import MessageSignatures.Proofs.StructuredField.RoundTrip

/-!
# Texts between quotes

A string stands between quotes, and only its **plain** characters stand there as they are: before a
quote and before a backslash there is another backslash (`StructuredField.isPlain`,
`StructuredField.escape_eq_self`).

What is written between quotes can be told from what stands there (`StructuredField.quoted_inj`).
And a text that is only put between quotes is no other string than itself: if it is read as a plain
string without parameters, then as the string that it is (`StructuredField.eq_of_parseItem_string`).
So nothing that such a text holds ends its string early.
-/

namespace MessageSignatures

namespace StructuredField

/-- **Plain characters** stand in a string as they are. -/
def isPlain (c : Char) : Bool :=
  !(c == '"' || c == '\\')

theorem escape_eq_self {cs : List Char} (h : cs.all isPlain = true) : escape cs = cs := by
  induction cs with
  | nil => rfl
  | cons c cs ih =>
    rw [List.all_cons, isPlain, Bool.and_eq_true, Bool.not_eq_true'] at h
    rw [escape, h.1, if_neg Bool.false_ne_true, ih h.2]

/-- Printable texts that are written alike between quotes are alike. -/
theorem quoted_inj {s t : String} (hs : Text.isPrintable s = true)
    (ht : Text.isPrintable t = true) :
    quoted s = quoted t ↔ s = t := by
  refine ⟨fun h => ?_, congrArg quoted⟩
  have hquote : "\"".toList = ['"'] := rfl
  have hescape : escape s.toList ++ ['"'] = escape t.toList ++ ['"'] := by
    have hlist := congrArg String.toList h
    simp only [quoted, String.toList_append, String.toList_ofList, hquote,
      List.append_assoc] at hlist
    exact List.append_cancel_left hlist
  -- what stands between the quotes can be read
  have hread := congrArg Parser.stringBody hescape
  rw [Parser.stringBody_escape hs, Parser.stringBody_escape ht, Option.some.injEq,
    Prod.mk.injEq] at hread
  exact String.toList_inj.1 hread.1

namespace Parser

variable {cs rest : List Char}

/-- A plain string is read from its own characters. -/
theorem eq_append_of_stringBody {s : List Char} (h : stringBody cs = some (s, rest))
    (hplain : s.all isPlain = true) : cs = s ++ '"' :: rest := by
  fun_induction stringBody cs generalizing s with
  | case1 => cases h
  | case2 rest' =>
    cases h
    rfl
  | case3 c cs hc ih =>
    obtain ⟨p, -, heq⟩ := Option.map_eq_some_iff.1 h
    cases heq
    -- what stands behind a backslash is not plain
    rw [List.all_cons, isPlain, hc] at hplain
    cases hplain
  | case4 => cases h
  | case5 c cs _ _ hc ih =>
    obtain ⟨p, hp, heq⟩ := Option.map_eq_some_iff.1 h
    cases heq
    rw [List.all_cons, Bool.and_eq_true] at hplain
    rw [List.cons_append, ← ih hp hplain.2]
  | case6 => cases h

/-- The keys of parameters that were read before are kept. -/
theorem keys_subset_of_parametersFrom {before ps : Parameters} {bound : Nat}
    (h : parametersFrom before bound cs = some (ps, rest)) : before.keys ⊆ ps.keys := by
  fun_induction parametersFrom before bound cs with
  | case1 before bound cs ih =>
    simp only [Option.bind_eq_bind, Option.bind_eq_some_iff] at h
    obtain ⟨⟨k, cs'⟩, -, ⟨b, cs''⟩, -, h⟩ := h
    -- a key that was put in stays
    have hsubset : (before.insert k b).keys ⊆ ps.keys := ih k b cs'' h
    intro other hother
    refine hsubset ?_
    rw [OrderedMap.keys_insert]
    split
    · exact hother
    · exact List.mem_append_left _ hother
  | case2 =>
    cases h
    exact List.Subset.refl _

/-- Where no parameters are read, nothing is taken. -/
theorem eq_of_parameters_eq_empty (h : parameters cs = some (OrderedMap.empty, rest)) :
    rest = cs := by
  unfold parameters parametersFrom at h
  split at h
  · simp only [Option.bind_eq_bind, Option.bind_eq_some_iff] at h
    -- a parameter would be among those that were read
    obtain ⟨⟨k, cs'⟩, -, ⟨b, cs''⟩, -, h⟩ := h
    have hmem : k ∈ (OrderedMap.empty.insert k b).keys := List.mem_singleton_self k
    exact absurd (keys_subset_of_parametersFrom h hmem) List.not_mem_nil
  · cases h
    rfl

/-- No spaces follow the last quote of a text that ends in one. -/
theorem nil_of_append_quote {s t : List Char} (h : t ++ ['"'] = s ++ '"' :: rest)
    (hend : skipSpaces rest = []) : rest = [] := by
  -- a rest that is not empty would end in the quote, which is no space
  rcases List.eq_nil_or_concat' rest with hnil | ⟨before, last, rfl⟩
  · exact hnil
  · rw [← List.cons_append, ← List.append_assoc] at h
    obtain ⟨-, hlast⟩ := List.append_inj' h rfl
    obtain rfl : '"' = last := List.singleton_inj.1 hlast
    have hspace := List.dropWhile_eq_nil_iff.1 hend '"' (List.mem_append_right _ List.mem_cons_self)
    exact absurd hspace (by decide)

end Parser

/-- **A text that is put between quotes** is read as a plain string only if it is that string. -/
theorem eq_of_parseItem_string {t u : String}
    (h : parseItem ("\"" ++ t ++ "\"") = some ⟨.string u, OrderedMap.empty⟩)
    (hplain : u.toList.all isPlain = true) : u = t := by
  have hquote : "\"".toList = ['"'] := rfl
  have hchars : ("\"" ++ t ++ "\"").toList = '"' :: (t.toList ++ ['"']) := by
    simp only [String.toList_append, hquote, List.cons_append, List.nil_append]
  have hstart : Parser.skipSpaces ('"' :: (t.toList ++ ['"'])) = '"' :: (t.toList ++ ['"']) := rfl
  simp only [parseItem, Parser.start, hchars, Parser.item, Option.bind_eq_bind,
    Option.bind_eq_some_iff, Option.ite_none_right_eq_some, Option.some.injEq] at h
  obtain ⟨_, ⟨-, rfl⟩, ⟨i, cs⟩, ⟨⟨b, cs₁⟩, hb, ⟨ps, cs₂⟩, hps, heq⟩, hend, rfl⟩ := h
  cases heq
  rw [hstart] at hb
  obtain ⟨⟨s, cs₃⟩, hs, heq⟩ := Option.map_eq_some_iff.1 hb
  cases heq
  obtain rfl := Parser.eq_of_parameters_eq_empty hps
  rw [String.toList_ofList] at hplain
  -- behind the string there are only spaces, and the text ends in a quote
  have hbody : t.toList ++ ['"'] = s ++ '"' :: cs₂ :=
    Parser.eq_append_of_stringBody hs hplain
  obtain rfl := Parser.nil_of_append_quote hbody hend
  have hchars : s = t.toList := (List.append_inj_left' hbody rfl).symm
  rw [hchars, String.ofList_toList]

end StructuredField

end MessageSignatures
