import MessageSignatures.Proofs.StructuredField.Sparing
import MessageSignatures.Proofs.Text.Spacing

/-!
# Structured fields in trimmed lines

A header whose lines make up a structured field may be read in two ways, from the lines as they came
and from the trimmed lines. Whatever is read in the first way is read in the second way too, and the
two differ in the contents of strings at most (`parseDictionary_trim`): a string that spans two
lines has lost white space where they meet.

The statement is about respaced texts (`Text.Respaced`). A reader is **stable** (`Parser.Stable`) if
it reads a respaced text whenever it reads the text, with the same value up to the contents of
strings, and leaves a respaced rest. Respacing is sparing (`Parser.sparing_respaced`), so all
readers are stable. What is special about it are two places where white space goes:

* a string may lose a space, and is a string still (`stable_stringBody`);
* a part that was closed before white space is closed after it has been left out
  (`endsItem_of_respaced`).

The converse does not hold: white space that is left out may be what kept a text from being read.
-/

namespace MessageSignatures

open Text (Respaced isBlank)

namespace StructuredField

/-- **Hollow bare item.** A string is replaced by the empty one. -/
def BareItem.hollow : BareItem → BareItem
  | string _ => .string ""
  | b => b

namespace Parser

variable {α β : Type} {cs ds rest : List Char}

/-- **Stable reader.** On a respaced text it reads the same, as far as `f` tells, and leaves a
respaced rest. -/
def Stable (read : List Char → Option (α × List Char)) (f : α → β) : Prop :=
  ∀ ⦃cs ds : List Char⦄ ⦃a : α⦄ ⦃rest : List Char⦄, read cs = some (a, rest) → Respaced cs ds →
    ∃ a' rest', read ds = some (a', rest') ∧ f a' = f a ∧ Respaced rest rest'

/-- A string is read, but perhaps with other contents. -/
theorem stable_stringBody : Stable stringBody fun _ => () := by
  intro cs ds s rest h hs
  fun_induction stringBody cs generalizing ds s with
  | case1 => cases h
  | case2 rest' =>
    cases h
    obtain ⟨ds', rfl, hs'⟩ := hs.exists_of_cons rfl
    exact ⟨[], ds', rfl, rfl, hs'⟩
  -- the character behind a backslash is a quote or a backslash, so it stays
  | case3 c cs hc ih =>
    obtain ⟨p, hp, heq⟩ := Option.map_eq_some_iff.1 h
    cases heq
    have hblank : isBlank c = false := by
      rw [Bool.or_eq_true, beq_iff_eq, beq_iff_eq] at hc
      rcases hc with rfl | rfl <;> rfl
    obtain ⟨ds', rfl, hs'⟩ := hs.exists_of_cons rfl
    obtain ⟨ds'', rfl, hs''⟩ := hs'.exists_of_cons hblank
    obtain ⟨s', rest', hread, -, hrest⟩ := ih hp hs''
    refine ⟨c :: s', rest', ?_, rfl, hrest⟩
    rw [stringBody, if_pos hc, hread]
    rfl
  | case4 => cases h
  | case5 c cs hquote _ hc ih =>
    obtain ⟨p, hp, heq⟩ := Option.map_eq_some_iff.1 h
    cases heq
    -- a character of the string that is kept in the text
    have hkept {ds' : List Char} (hs' : Respaced cs ds') :
        ∃ s' rest', stringBody (c :: ds') = some (s', rest') ∧ () = () ∧ Respaced p.2 rest' := by
      obtain ⟨s', rest', hread, -, hrest⟩ := ih hp hs'
      refine ⟨c :: s', rest', ?_, rfl, hrest⟩
      rw [stringBody_cons hquote hc, hread]
      rfl
    by_cases hspace : c = ' '
    · -- a space may be left out, which makes the string shorter and nothing else
      subst hspace
      cases hs with
      | keep _ hs' => exact hkept hs'
      | blank _ hs' => exact hkept hs'
      | drop _ _ hs' => exact ih hp hs'
    · -- no other printable character is a blank
      have hprintable := (Bool.and_eq_true_iff.1 hc).1
      obtain ⟨ds', rfl, hs'⟩ :=
        hs.exists_of_cons (Text.isBlank_eq_false_of_isPrintableChar hprintable hspace)
      exact hkept hs'
  | case6 => cases h

/-- No item begins at the end of a text or with a comma. -/
theorem exists_cons_of_innerItems {bound : Nat} {p : List Item × List Char}
    (h : innerItems bound cs = some p) : ∃ c cs', cs = c :: cs' ∧ c ≠ ',' := by
  cases bound with
  | zero => cases h
  | succ bound =>
    cases cs with
    | nil => cases h
    | cons c cs =>
      -- no item begins with a comma
      refine ⟨c, cs, rfl, ?_⟩
      rintro rfl
      cases h

/-- **An item that ends** before white space still does, if there is more of its list. -/
theorem endsItem_of_respaced {bound : Nat} {p : List Item × List Char} (hends : endsItem cs = true)
    (hmore : innerItems bound ds = some p) (hs : Respaced cs ds) : endsItem ds = true := by
  obtain ⟨d, ds', rfl, hcomma⟩ := exists_cons_of_innerItems hmore
  unfold endsItem at hends
  -- an inner list goes on behind a space or ends with its bracket
  split at hends
  · cases hs with
    | keep _ _ => rfl
    | blank _ _ => rfl
    | drop _ hnext _ =>
      -- what was left out stood before a space, since there is no comma
      rcases hnext d rfl with rfl | rfl
      · rfl
      · exact absurd rfl hcomma
  · obtain ⟨ds'', heq, -⟩ := hs.exists_of_cons rfl
    rw [heq]
    rfl
  · cases hends

/-- **Respacing is sparing**, and strings are the same but for their contents. -/
theorem sparing_respaced : Sparing Respaced BareItem.hollow where
  cons h hc := h.exists_of_cons hc
  cons_right h hspace hcomma := h.exists_of_cons_right hspace hcomma
  run h hp hcomma := h.takeWhile_eq hp hcomma
  skip h hspace _ hhead := h.dropWhile hspace hhead
  ends hends hmore h := endsItem_of_respaced hends hmore h
  string cs ds s rest h hs := by
    obtain ⟨s', rest', hread, -, hrest⟩ := stable_stringBody h hs
    exact ⟨s', rest', hread, rfl, hrest⟩

theorem stable_key : Stable key id :=
  sparing_respaced.respects_key

theorem stable_dictionaryValue : Stable dictionaryValue (Member.map BareItem.hollow) :=
  sparing_respaced.respects_dictionaryValue

/-! ### Dictionaries -/

theorem isBlank_head_of_dictionaryFrom {before d : Dictionary} {bound : Nat}
    (h : dictionaryFrom before bound cs = some d) : ∀ c ∈ cs.head?, isBlank c = false := by
  cases bound with
  | zero => cases h
  | succ bound =>
    simp only [dictionaryFrom, Option.bind_eq_bind, Option.bind_eq_some_iff] at h
    obtain ⟨⟨k, cs'⟩, hk, -⟩ := h
    exact isBlank_head_of_key hk

/-- The members of a dictionary are read as before, behind others that are the same but for
strings. -/
theorem dictionaryFrom_of_respaced {before before' d : Dictionary} {bound bound' : Nat}
    (hbefore : before'.map (Member.map BareItem.hollow) = before.map (Member.map BareItem.hollow))
    (hbound' : ds.length ≤ bound') (h : dictionaryFrom before bound cs = some d)
    (hs : Respaced cs ds) :
    ∃ d', dictionaryFrom before' bound' ds = some d'
      ∧ d'.map (Member.map BareItem.hollow) = d.map (Member.map BareItem.hollow) := by
  induction bound generalizing cs ds before before' bound' with
  | zero => cases h
  | succ bound ih =>
    simp only [dictionaryFrom, Option.bind_eq_bind, Option.bind_eq_some_iff] at h
    obtain ⟨⟨k, cs₁⟩, hk, ⟨m, cs₂⟩, hm, h⟩ := h
    -- the key and the member are read from the text with other blanks, and end alike
    obtain ⟨k', ds₁, hk', rfl, hs₁⟩ := stable_key hk hs
    obtain ⟨m', ds₂, hm', hmember, hs₂⟩ := stable_dictionaryValue hm hs₁
    have hkey := length_lt_of_key hk'
    have hvalue := length_le_of_dictionaryValue hm'
    obtain ⟨bound', rfl⟩ :=
      Nat.exists_eq_succ_of_ne_zero (Nat.ne_zero_of_lt (lt_of_lt_of_le hkey hbound'))
    -- both dictionaries take the member in, which differs in strings at most
    have hinsert : (before'.insert k' m').map (Member.map BareItem.hollow)
        = (before.insert k' m).map (Member.map BareItem.hollow) := by
      rw [OrderedMap.map_insert, OrderedMap.map_insert, hbefore, hmember]
    simp only [dictionaryFrom, Option.bind_eq_bind, hk', hm', Option.bind_some]
    split at h
    · -- the text ends here, with or without blanks
      next hend =>
      cases h
      have hblanks : Respaced (skipBlanks cs₂) (skipBlanks ds₂) :=
        hs₂.dropWhile rfl (isBlank_head_of_eq_nil hend)
      rw [hend] at hblanks
      rw [hblanks.eq_nil]
      exact ⟨_, rfl, hinsert⟩
    · -- a comma follows in both
      next cs₃ hcomma =>
      have hblanks : Respaced (skipBlanks cs₂) (skipBlanks ds₂) :=
        hs₂.dropWhile rfl (isBlank_head_of_eq_cons hcomma rfl)
      rw [hcomma] at hblanks
      obtain ⟨ds₃, hds₃, hs₃⟩ := hblanks.exists_of_cons rfl
      have hlength : (skipBlanks ds₃).length ≤ bound' := by
        have hskip := length_skipBlanks_le ds₃
        have hskip' := length_skipBlanks_le ds₂
        rw [hds₃, List.length_cons] at hskip'
        omega
      rw [hds₃]
      exact ih hinsert hlength h (hs₃.dropWhile rfl (isBlank_head_of_dictionaryFrom h))
    · cases h

end Parser

open StructuredField.Parser

/-- **Respaced dictionaries.** A dictionary that is read from a text is read from the respaced text
too, but for the contents of strings. -/
theorem parseDictionary_of_respaced {s t : String} {d : Dictionary}
    (hs : Respaced (' ' :: s.toList) (' ' :: t.toList)) (h : parseDictionary s = some d) :
    ∃ d', parseDictionary t = some d'
      ∧ d'.map (Member.map BareItem.hollow) = d.map (Member.map BareItem.hollow) := by
  simp only [parseDictionary, start, Option.bind_eq_bind, Option.bind_eq_some_iff,
    Option.ite_none_right_eq_some, Option.some.injEq] at h
  obtain ⟨_, ⟨hascii, rfl⟩, h⟩ := h
  -- no blank that was added is outside of ASCII
  have hascii' : t.toList.all Text.isAsciiChar = true := by
    have hall : (' ' :: t.toList).all Text.isAsciiChar = true := by
      refine hs.all rfl ?_
      rw [List.all_cons, hascii]
      rfl
    rw [List.all_cons, Bool.and_eq_true] at hall
    exact hall.2
  -- the space in front is passed over
  have hstart (u : String) : skipSpaces u.toList = skipSpaces (' ' :: u.toList) := rfl
  simp only [parseDictionary, start, if_pos hascii', Option.bind_eq_bind, Option.bind_some]
  rw [hstart] at h ⊢
  split at h
  · next hnil =>
    cases h
    have hspaces : Respaced (skipSpaces (' ' :: s.toList)) (skipSpaces (' ' :: t.toList)) :=
      hs.dropWhile rfl (isBlank_head_of_eq_nil hnil)
    rw [hnil] at hspaces
    rw [if_pos hspaces.eq_nil]
    exact ⟨_, rfl, rfl⟩
  · have hspaces : Respaced (skipSpaces (' ' :: s.toList)) (skipSpaces (' ' :: t.toList)) :=
      hs.dropWhile rfl (isBlank_head_of_dictionaryFrom h)
    obtain ⟨d', hd', hmap⟩ := dictionaryFrom_of_respaced rfl (le_refl _) h hspaces
    have hne : skipSpaces (' ' :: t.toList) ≠ [] := by
      intro hnil
      -- nothing would have been read from nothing
      rw [hnil] at hd'
      cases hd'
    rw [if_neg hne]
    exact ⟨d', hd', hmap⟩

/-- **Trimmed lines.** A dictionary that is read from lines is read from the trimmed lines too, but
for the contents of strings. -/
theorem parseDictionary_trim {lines : List String} {d : Dictionary}
    (h : parseDictionary (", ".intercalate lines) = some d) :
    ∃ d', parseDictionary (", ".intercalate (lines.map Text.trim)) = some d'
      ∧ d'.map (Member.map BareItem.hollow) = d.map (Member.map BareItem.hollow) :=
  parseDictionary_of_respaced (Text.respaced_intercalate_trim lines) h

end StructuredField

end MessageSignatures
