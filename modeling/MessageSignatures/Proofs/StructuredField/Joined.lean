import MessageSignatures.Proofs.StructuredField.Sparing

/-!
# Dictionaries that are joined

The members of a dictionary stand in its text one after another. `DictionaryText s es` says that
they are `es`: keys may be repeated there, and the dictionary that is read takes them in from the
first to the last (`parseDictionary_eq_some_iff`).

Texts of dictionaries can be joined by commas, and what is read then are the members of the first,
and after them the members of the next (`DictionaryText.intercalate`). For this a reader has to be
**local** (`Parser.Local`): it reads a text whatever comes behind a comma after it. No reader looks
past a comma that it does not take in, since the text with the comma is the same up to there
(`Parser.sparing_commaBehind`).
-/

namespace MessageSignatures

open Text (isBlank)

namespace StructuredField

namespace Parser

variable {α : Type} {cs rest : List Char}

/-- **Local reader.** It reads the same if there is a comma behind, and leaves the comma. -/
def Local (read : List Char → Option (α × List Char)) : Prop :=
  ∀ ⦃cs : List Char⦄ ⦃a : α⦄ ⦃rest : List Char⦄ (more : List Char), read cs = some (a, rest) →
    read (cs ++ ',' :: more) = some (a, rest ++ ',' :: more)

/-! ### A comma behind -/

/-- A run of characters without commas ends at the comma if not before. -/
theorem takeWhile_comma {p : Char → Bool} (hp : p ',' = false) (cs more : List Char) :
    (cs ++ ',' :: more).takeWhile p = cs.takeWhile p
      ∧ (cs ++ ',' :: more).dropWhile p = cs.dropWhile p ++ ',' :: more := by
  induction cs with
  | nil =>
    rw [List.nil_append, List.takeWhile_cons_of_neg (Bool.eq_false_iff.1 hp),
      List.dropWhile_cons_of_neg (Bool.eq_false_iff.1 hp)]
    exact ⟨rfl, rfl⟩
  | cons c cs ih =>
    -- the character counts for the run, or ends it before the comma is met
    rw [List.cons_append, List.takeWhile_cons, List.takeWhile_cons, List.dropWhile_cons,
      List.dropWhile_cons, ih.1, ih.2]
    split <;> exact ⟨rfl, rfl⟩

/-- What begins with another character than the comma has begun with it before. -/
theorem exists_of_append_comma {c : Char} {ds more : List Char} (hc : c ≠ ',')
    (h : cs ++ ',' :: more = c :: ds) : ∃ cs', cs = c :: cs' ∧ ds = cs' ++ ',' :: more := by
  cases cs with
  | nil => exact absurd (List.cons.inj h).1 hc.symm
  | cons d cs =>
    obtain ⟨hd, hcs⟩ := List.cons.inj h
    exact ⟨cs, by rw [hd], hcs.symm⟩

theorem local_stringBody : Local stringBody := by
  intro cs s rest more h
  fun_induction stringBody cs generalizing s with
  | case1 => cases h
  | case2 rest' =>
    cases h
    -- an escaped character is taken with the one behind it
    rfl
  | case3 c cs hc ih =>
    obtain ⟨p, hp, heq⟩ := Option.map_eq_some_iff.1 h
    cases heq
    rw [List.cons_append, List.cons_append, stringBody, if_pos hc, ih hp]
    rfl
  | case4 => cases h
  -- and any other is taken alone
  | case5 c cs hquote _ hc ih =>
    obtain ⟨p, hp, heq⟩ := Option.map_eq_some_iff.1 h
    cases heq
    rw [List.cons_append, stringBody_cons hquote hc, ih hp]
    rfl
  | case6 => cases h

theorem endsItem_comma {more : List Char} (h : endsItem cs = true) :
    endsItem (cs ++ ',' :: more) = true := by
  unfold endsItem at h
  split at h
  · rfl
  · rfl
  · cases h

/-- **A comma behind.** The second text goes on with a comma where the first one ends. -/
def CommaBehind (more cs ds : List Char) : Prop :=
  ds = cs ++ ',' :: more

/-- **A comma behind is sparing**, and strings are the same. -/
theorem sparing_commaBehind (more : List Char) : Sparing (CommaBehind more) id where
  cons h _ := ⟨_, h, rfl⟩
  cons_right h _ hcomma := exists_of_append_comma hcomma (Eq.symm h)
  run {p cs ds} h _ hcomma := by
    rw [CommaBehind] at h
    rw [h]
    -- only runs that a comma ends are looked at
    exact takeWhile_comma hcomma cs more
  skip {p cs ds} h _ hcomma _ := by
    rw [CommaBehind] at h
    rw [h]
    exact (takeWhile_comma hcomma cs more).2
  ends {cs ds bound items} hends _ h := by
    rw [CommaBehind] at h
    rw [h]
    exact endsItem_comma hends
  string cs ds s rest h hs := by
    rw [CommaBehind] at hs
    exact ⟨s, rest ++ ',' :: more, hs ▸ local_stringBody more h, rfl, rfl⟩

theorem local_of_respects {read : List Char → Option (α × List Char)}
    (h : ∀ more, Respects (CommaBehind more) read id) : Local read := by
  intro cs a rest more hread
  obtain ⟨a', rest', hread', ha, hrest⟩ := h more hread rfl
  rw [hread', ← hrest]
  exact congrArg (fun a => some (a, rest')) ha

theorem local_key : Local key :=
  local_of_respects fun more => (sparing_commaBehind more).respects_key

theorem local_dictionaryValue : Local dictionaryValue := by
  refine local_of_respects fun more => ?_
  have hvalue := (sparing_commaBehind more).respects_dictionaryValue
  rwa [Member.map_id] at hvalue

/-! ### Members in their order -/

/-- **Members** of a text, from the first to the last, with their keys. -/
inductive Members : List Char → List (String × Member) → Prop
  | last {cs cs₁ cs₂ : List Char} {k : String} {m : Member} (hk : key cs = some (k, cs₁))
      (hm : dictionaryValue cs₁ = some (m, cs₂)) (hend : skipBlanks cs₂ = []) :
      Members cs [(k, m)]
  | comma {cs cs₁ cs₂ cs₃ : List Char} {k : String} {m : Member} {es : List (String × Member)}
      (hk : key cs = some (k, cs₁)) (hm : dictionaryValue cs₁ = some (m, cs₂))
      (hcomma : skipBlanks cs₂ = ',' :: cs₃) (hmore : Members (skipBlanks cs₃) es) :
      Members cs ((k, m) :: es)

/-- **Reading a dictionary** is taking in its members, if the bound is large enough. -/
theorem dictionaryFrom_eq_some_iff {before d : Dictionary} {bound : Nat}
    (hbound : cs.length ≤ bound) :
    dictionaryFrom before bound cs = some d ↔ ∃ es, Members cs es ∧ d = before.insertAll es := by
  constructor
  · -- what was read with any bound are the members, one for each step of the bound
    intro h
    clear hbound
    induction bound generalizing cs before with
    | zero => cases h
    | succ bound ih =>
      simp only [dictionaryFrom, Option.bind_eq_bind, Option.bind_eq_some_iff] at h
      obtain ⟨⟨k, cs₁⟩, hk, ⟨m, cs₂⟩, hm, h⟩ := h
      split at h
      · next hend =>
        cases h
        exact ⟨[(k, m)], .last hk hm hend, rfl⟩
      · next cs₃ hcomma =>
        obtain ⟨es, hes, hd⟩ := ih h
        exact ⟨(k, m) :: es, .comma hk hm hcomma hes, hd⟩
      · cases h
  · -- a member takes its key at least, so the bound lasts for those behind it
    rintro ⟨es, hes, rfl⟩
    induction hes generalizing before bound with
    | @last cs cs₁ cs₂ k m hk hm hend =>
      have hkey := length_lt_of_key hk
      obtain ⟨bound, rfl⟩ :=
        Nat.exists_eq_succ_of_ne_zero (Nat.ne_zero_of_lt (lt_of_lt_of_le hkey hbound))
      simp only [dictionaryFrom, Option.bind_eq_bind, hk, hm, Option.bind_some, hend]
      rfl
    | @comma cs cs₁ cs₂ cs₃ k m es hk hm hcomma _ ih =>
      have hkey := length_lt_of_key hk
      obtain ⟨bound, rfl⟩ :=
        Nat.exists_eq_succ_of_ne_zero (Nat.ne_zero_of_lt (lt_of_lt_of_le hkey hbound))
      -- less is left than there was before the member
      have hlength : (skipBlanks cs₃).length ≤ bound := by
        have hvalue := length_le_of_dictionaryValue hm
        have hblanks := length_skipBlanks_le cs₂
        have hblanks' := length_skipBlanks_le cs₃
        rw [hcomma, List.length_cons] at hblanks
        omega
      simp only [dictionaryFrom, Option.bind_eq_bind, hk, hm, Option.bind_some, hcomma]
      exact ih hlength

/-- Behind spaces that are passed over there is nothing more to pass over, if no white space begins
there. -/
theorem skipBlanks_of_skipSpaces (h : ∀ c ∈ (skipSpaces cs).head?, isBlank c = false) :
    skipBlanks cs = skipSpaces cs := by
  induction cs with
  | nil => rfl
  | cons c cs ih =>
    by_cases hspace : c = ' '
    · -- spaces are passed over by both
      subst hspace
      exact ih h
    · -- the first character is neither a space nor, by assumption, a tab
      have hself : skipSpaces (c :: cs) = c :: cs :=
        List.dropWhile_cons_of_neg (by rwa [beq_iff_eq])
      rw [hself] at h ⊢
      have htab : c ≠ '\t' := by
        rintro rfl
        exact absurd (h '\t' rfl) (by decide)
      exact List.dropWhile_cons_of_neg (by rw [Bool.or_eq_true, beq_iff_eq, beq_iff_eq]; tauto)

theorem isBlank_head_of_members {es : List (String × Member)} (h : Members cs es) :
    ∀ c ∈ cs.head?, isBlank c = false := by
  cases h with
  | last hk _ _ => exact isBlank_head_of_key hk
  | comma hk _ _ _ => exact isBlank_head_of_key hk

theorem ne_nil_of_members {es : List (String × Member)} (h : Members cs es) : cs ≠ [] := by
  rintro rfl
  cases h with
  | last hk _ _ => cases hk
  | comma hk _ _ _ => cases hk

/-- **A comma behind** brings in the members that stand behind it. -/
theorem Members.append {ds : List Char} {es fs : List (String × Member)} (hes : Members cs es)
    (hfs : Members (skipBlanks ds) fs) : Members (cs ++ ',' :: ds) (es ++ fs) := by
  have hskip (cs : List Char) : skipBlanks (cs ++ ',' :: ds) = skipBlanks cs ++ ',' :: ds :=
    (takeWhile_comma rfl cs ds).2
  induction hes with
  | @last cs cs₁ cs₂ k m hk hm hend =>
    -- what was the last member has a comma behind it now
    refine .comma (local_key ds hk) (local_dictionaryValue ds hm) ?_ hfs
    rw [hskip, hend]
    rfl
  -- more members follow, and the comma behind them stays where it was
  | @comma cs cs₁ cs₂ cs₃ k m es hk hm hcomma _ ih =>
    have hcomma' : skipBlanks (cs₂ ++ ',' :: ds) = ',' :: (cs₃ ++ ',' :: ds) := by
      rw [hskip, hcomma]
      rfl
    refine .comma (local_key ds hk) (local_dictionaryValue ds hm) hcomma' ?_
    rw [hskip]
    exact ih

end Parser

open StructuredField.Parser

/-- **The text of a dictionary.** Its members are these, in this order. -/
def DictionaryText (s : String) (es : List (String × Member)) : Prop :=
  ∃ cs, start s = some cs ∧ (cs = [] ∧ es = [] ∨ Members cs es)

/-- **Reading a dictionary.** The members are taken in, in their order. -/
theorem parseDictionary_eq_some_iff {s : String} {d : Dictionary} :
    parseDictionary s = some d
      ↔ ∃ es, DictionaryText s es ∧ d = OrderedMap.empty.insertAll es := by
  unfold parseDictionary DictionaryText
  cases start s with
  | none => simp
  | some cs =>
    simp only [Option.bind_eq_bind, Option.bind_some, Option.some.injEq, exists_eq_left']
    by_cases hnil : cs = []
    · -- the empty text holds no members
      subst hnil
      rw [if_pos rfl, Option.some.injEq]
      constructor
      · rintro rfl
        exact ⟨[], .inl ⟨rfl, rfl⟩, rfl⟩
      · rintro ⟨es, ⟨-, rfl⟩ | hes, rfl⟩
        · rfl
        · exact absurd rfl (ne_nil_of_members hes)
    · -- any other text holds one at least
      rw [if_neg hnil, dictionaryFrom_eq_some_iff (le_refl _)]
      simp only [hnil, false_and, false_or]

namespace DictionaryText

variable {s t : String} {es fs : List (String × Member)}

/-- **Two texts** that are joined have the members of both. -/
theorem append (hs : DictionaryText s es) (hes : es ≠ []) (ht : DictionaryText t fs)
    (hfs : fs ≠ []) :
    DictionaryText (s ++ ", " ++ t) (es ++ fs) := by
  obtain ⟨cs, hcs, ⟨-, hnil⟩ | hcs'⟩ := hs
  · exact absurd hnil hes
  obtain ⟨ds, hds, ⟨-, hnil⟩ | hds'⟩ := ht
  · exact absurd hnil hfs
  simp only [start, Option.ite_none_right_eq_some, Option.some.injEq] at hcs hds
  obtain ⟨hasciis, rfl⟩ := hcs
  obtain ⟨hasciit, rfl⟩ := hds
  -- both texts are of ASCII characters, and so is what joins them
  have hcomma : ", ".toList = [',', ' '] := rfl
  have hchars : (s ++ ", " ++ t).toList = s.toList ++ ',' :: ' ' :: t.toList := by
    simp only [String.toList_append, hcomma, List.append_assoc, List.cons_append, List.nil_append]
  have hascii : (s ++ ", " ++ t).toList.all Text.isAsciiChar = true := by
    have hsigns : Text.isAsciiChar ',' = true ∧ Text.isAsciiChar ' ' = true := by decide
    rw [hchars, List.all_append, List.all_cons, List.all_cons, hasciis, hasciit, hsigns.1, hsigns.2]
    rfl
  have hskip : skipSpaces (s ++ ", " ++ t).toList
      = skipSpaces s.toList ++ ',' :: ' ' :: t.toList := by
    rw [hchars]
    exact (takeWhile_comma rfl s.toList _).2
  -- the spaces before the first key of the second text are passed over as well behind the comma
  have hblanks : skipBlanks (' ' :: t.toList) = skipSpaces t.toList :=
    skipBlanks_of_skipSpaces (isBlank_head_of_members hds')
  refine ⟨skipSpaces s.toList ++ ',' :: ' ' :: t.toList, ?_, .inr (hcs'.append ?_)⟩
  · rw [start, if_pos hascii, hskip]
  · rw [hblanks]
    exact hds'

/-- **Texts that are joined** have the members of all of them, those of the first in front. -/
theorem intercalate {texts : List String} {ess : List (List (String × Member))}
    (h : List.Forall₂ (fun s es => DictionaryText s es ∧ es ≠ []) texts ess) :
    DictionaryText (", ".intercalate texts) ess.flatten := by
  induction h with
  | nil => exact ⟨[], rfl, .inl ⟨rfl, rfl⟩⟩
  | @cons s es texts ess hs hmore ih =>
    cases hmore with
    | nil =>
      rw [String.intercalate_singleton, List.flatten_singleton]
      exact hs.1
    | @cons t fs texts ess ht _ =>
      -- the members behind the separator are those of the remaining texts
      rw [String.intercalate_cons_cons, List.flatten_cons]
      refine hs.1.append hs.2 ih ?_
      rw [List.flatten_cons]
      exact List.append_ne_nil_of_left_ne_nil ht.2 _

end DictionaryText

/-- A text from which a dictionary with members is read has members, of which the last one under a
key is what is found. -/
theorem exists_dictionaryText {t k : String} {d : Dictionary} (hd : parseDictionary t = some d)
    (hne : d ≠ OrderedMap.empty) :
    ∃ es, (DictionaryText t es ∧ es ≠ []) ∧ es.reverse.lookup k = d.get? k := by
  obtain ⟨es, hes, rfl⟩ := parseDictionary_eq_some_iff.1 hd
  refine ⟨es, ⟨hes, ?_⟩, ?_⟩
  · rintro rfl
    exact hne rfl
  · rw [OrderedMap.get?_insertAll]
    exact Option.or_none.symm

/-- Texts of dictionaries without a key have no member under it. -/
theorem exists_dictionaryTexts {texts : List String} (k : String)
    (h : ∀ t ∈ texts, ∃ d, parseDictionary t = some d ∧ d ≠ OrderedMap.empty) :
    ∃ ess, List.Forall₂ (fun t es => DictionaryText t es ∧ es ≠ []) texts ess
      ∧ ((∀ t ∈ texts, ∀ d, parseDictionary t = some d → d.get? k = none) →
        ess.flatten.reverse.lookup k = none) := by
  induction texts with
  | nil => exact ⟨[], .nil, fun _ => rfl⟩
  | cons t texts ih =>
    -- one text at a time, with the members that it holds
    obtain ⟨⟨d, hd, hne⟩, htexts⟩ := List.forall_mem_cons.1 h
    obtain ⟨es, hes, hlookup⟩ := exists_dictionaryText (k := k) hd hne
    obtain ⟨ess, hess, hnone⟩ := ih htexts
    refine ⟨es :: ess, .cons hes hess, fun hwithout => ?_⟩
    -- the last member of a key is that of the last text with the key
    obtain ⟨ht, hmore⟩ := List.forall_mem_cons.1 hwithout
    rw [List.flatten_cons, List.reverse_append, List.lookup_append, hnone hmore, hlookup, ht d hd]
    rfl

end StructuredField

end MessageSignatures
