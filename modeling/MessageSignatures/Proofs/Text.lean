import MessageSignatures.Text
import Mathlib.Data.List.TakeDrop
import Mathlib.Data.List.TakeWhile
import Mathlib.Data.String.Basic

/-!
# Printable text, lines and trimming

Facts about texts that the theory of signatures rests on.

* **Printable text.** Printability is a property of the characters, so it passes to and from the
  pieces of a text (`isPrintable_append`, `isPrintable_intercalate`), and printable text is a single
  line (`lineFeed_not_mem_of_isPrintable`).
* **Lines.** `lineFeeds` counts the line feeds of a text. A text that ends in a line feed can be cut
  off from what follows in two ways only if the two have different counts (`append_lineFeed_inj`),
  and the last line of a text is determined by it (`append_lastLine_inj`).
* **Trimming** takes white space from both ends and nothing else (`exists_trim_eq`). What is trimmed
  is trimmed already (`trim_trim`).
* **Octets.** A printable text has one octet for each character, its code (`utf8_of_isPrintable`).
-/

namespace MessageSignatures

namespace Text

/-- Characters that a test tells apart are different. -/
theorem ne_of_test {p : Char → Bool} {c d : Char} (hc : p c = true) (hd : p d = false) : c ≠ d := by
  rintro rfl
  exact Bool.false_ne_true (hd.symm.trans hc)

/-! ### Printable text -/

@[simp] theorem isPrintable_append (s t : String) :
    isPrintable (s ++ t) = (isPrintable s && isPrintable t) := by
  simp [isPrintable]

@[simp] theorem isPrintable_ofList (cs : List Char) :
    isPrintable (String.ofList cs) = cs.all isPrintableChar := by
  simp [isPrintable]

theorem isPrintable_join {l : List String} (h : ∀ s ∈ l, isPrintable s = true) :
    isPrintable (String.join l) = true := by
  induction l with
  | nil => rfl
  | cons s l ih =>
    rw [String.join_cons, isPrintable_append, h s List.mem_cons_self,
      ih fun t ht => h t (List.mem_cons_of_mem s ht)]
    rfl

theorem isPrintable_intercalate {sep : String} {l : List String} (hsep : isPrintable sep = true)
    (h : ∀ s ∈ l, isPrintable s = true) : isPrintable (sep.intercalate l) = true := by
  induction l with
  | nil => rfl
  | cons s l ih =>
    have hl := ih fun t ht => h t (List.mem_cons_of_mem s ht)
    cases l with
    | nil => simpa using h s List.mem_cons_self
    | cons t l =>
      rw [String.intercalate_cons_cons, isPrintable_append, isPrintable_append, hsep, hl,
        h s List.mem_cons_self]
      rfl

theorem isPrintableChar_iff {c : Char} :
    isPrintableChar c = true ↔ 0x20 ≤ c.toNat ∧ c.toNat ≤ 0x7e := by
  rw [isPrintableChar, Bool.and_eq_true, decide_eq_true_eq, decide_eq_true_eq]

theorem isDigit_iff {c : Char} : c.isDigit = true ↔ 48 ≤ c.toNat ∧ c.toNat ≤ 57 :=
  Char.isDigit_iff_toNat

/-- A digit is printable. -/
theorem isPrintableChar_of_isDigit {c : Char} (h : c.isDigit = true) :
    isPrintableChar c = true := by
  have hcode := isDigit_iff.1 h
  rw [isPrintableChar_iff]
  omega

theorem isPrintable_repr (n : Nat) : isPrintable n.repr = true := by
  simp only [isPrintable, Nat.toList_repr, List.all_eq_true]
  exact fun c hc =>
    isPrintableChar_of_isDigit (Nat.isDigit_of_mem_toDigits (by decide) (by decide) hc)

/-- Printable characters are ASCII. -/
theorem isAsciiChar_of_isPrintableChar {c : Char} (h : isPrintableChar c = true) :
    isAsciiChar c = true := by
  have hcode := isPrintableChar_iff.1 h
  rw [isAsciiChar, decide_eq_true_eq]
  omega

/-- Printable text is a single line. -/
theorem lineFeed_not_mem_of_isPrintable {s : String} (h : isPrintable s = true) :
    '\n' ∉ s.toList := by
  intro hmem
  have := List.all_eq_true.1 h _ hmem
  exact absurd this (by decide)

theorem mem_of_mem_intercalate {c : Char} {sep : String} {l : List String}
    (h : c ∈ (sep.intercalate l).toList) : c ∈ sep.toList ∨ ∃ s ∈ l, c ∈ s.toList := by
  induction l with
  -- a character comes from a separator or from a part
  | nil => cases h
  | cons s l ih =>
    cases l with
    | nil => exact .inr ⟨s, List.mem_cons_self, by simpa using h⟩
    | cons t l =>
      rw [String.intercalate_cons_cons, String.toList_append, String.toList_append,
        List.mem_append, List.mem_append] at h
      rcases h with (h | h) | h
      · exact .inr ⟨s, List.mem_cons_self, h⟩
      · exact .inl h
      · rcases ih h with h | ⟨u, hu, h⟩
        · exact .inl h
        · exact .inr ⟨u, List.mem_cons_of_mem _ hu, h⟩

/-- The space is the only white space that is printable. -/
theorem isBlank_eq_false_of_isPrintableChar {c : Char} (h : isPrintableChar c = true)
    (hspace : c ≠ ' ') : isBlank c = false := by
  have hne : c.toNat ≠ 0x20 := fun hc => hspace (Char.toNat_inj.1 hc)
  have hcode := isPrintableChar_iff.1 h
  simp only [isBlank, Bool.or_eq_false_iff, Bool.and_eq_false_iff, decide_eq_false_iff_not,
    beq_eq_false_iff_ne]
  omega

/-! ### Octets -/

/-- A text is encoded character by character. -/
theorem utf8_eq_flatMap (s : String) : utf8 s = s.toList.flatMap String.utf8EncodeChar := by
  rw [utf8, ← String.utf8Encode_toList, List.utf8Encode, List.data_toByteArray]

theorem utf8_of_isPrintable {s : String} (h : isPrintable s = true) :
    utf8 s = s.toList.map fun c => UInt8.ofNat c.toNat := by
  have hchar : ∀ c ∈ s.toList, String.utf8EncodeChar c = [UInt8.ofNat c.toNat] := by
    intro c hc
    have hcode := isPrintableChar_iff.1 (List.all_eq_true.1 h c hc)
    exact if_pos (show c.toNat ≤ 127 by omega)
  rw [utf8_eq_flatMap, List.flatMap_congr hchar, List.map_eq_flatMap]

/-! ### Case -/

theorem toList_toLower (s : String) : s.toLower.toList = s.toList.map Char.toLower :=
  String.toList_map

theorem toLower_eq {s t : String} (h : s.toList.map Char.toLower = t.toList) : s.toLower = t :=
  String.toList_inj.1 (String.toList_map.trans h)

theorem toUpper_eq {s t : String} (h : s.toList.map Char.toUpper = t.toList) : s.toUpper = t :=
  String.toList_inj.1 (String.toList_map.trans h)

/-! ### Lines -/

/-- **Line feeds** in a text. -/
def lineFeeds (s : String) : Nat :=
  s.toList.count '\n'

theorem lineFeeds_eq_zero {s : String} : lineFeeds s = 0 ↔ '\n' ∉ s.toList :=
  List.count_eq_zero

/-- A text without line feeds has none either when its characters are replaced by others that are
none. -/
theorem lineFeed_not_mem_map {f : Char → Char} (hf : ∀ c, f c = '\n' → c = '\n') {s : String}
    (h : '\n' ∉ s.toList) : '\n' ∉ (s.map f).toList := by
  rw [String.toList_map]
  intro hmem
  obtain ⟨c, hc, heq⟩ := List.mem_map.1 hmem
  exact h (hf c heq ▸ hc)

theorem lineFeed_not_mem_toUpper {s : String} (h : '\n' ∉ s.toList) : '\n' ∉ s.toUpper.toList := by
  refine lineFeed_not_mem_map (fun c hc => ?_) h
  unfold Char.toUpper at hc
  split at hc
  · next hletter =>
    -- a letter becomes a letter
    have hval := congrArg (fun d => d.val.toNat) hc
    simp only [UInt32.le_iff_toNat_le, UInt32.toNat_add, UInt32.toNat_sub] at hletter hval
    simp at hletter hval
    omega
  · exact hc

theorem lineFeed_not_mem_toLower {s : String} (h : '\n' ∉ s.toList) : '\n' ∉ s.toLower.toList := by
  refine lineFeed_not_mem_map (fun c hc => ?_) h
  unfold Char.toLower at hc
  split at hc
  · -- a capital becomes a small letter
    next hletter =>
    have hval := congrArg (fun d => d.val.toNat) hc
    simp only [UInt32.le_iff_toNat_le, UInt32.toNat_add, UInt32.toNat_sub] at hletter hval
    simp at hletter hval
    omega
  · exact hc

/-- A line feed that ends a text is found again if the number of line feeds before it is known. -/
theorem append_lineFeed_inj {xs ys rest rest' : List Char}
    (hcount : xs.count '\n' = ys.count '\n')
    (h : xs ++ '\n' :: rest = ys ++ '\n' :: rest') : xs = ys ∧ rest = rest' := by
  induction xs generalizing ys with
  | nil =>
    cases ys with
    | nil => exact ⟨rfl, (List.cons.inj h).2⟩
    | cons y ys =>
      -- the second text would begin with the line feed that ends the first
      obtain ⟨rfl, -⟩ := List.cons.inj h
      simp at hcount
  | cons x xs ih =>
    cases ys with
    | nil =>
      -- and here the first text
      obtain ⟨rfl, -⟩ := List.cons.inj h
      simp at hcount
    | cons y ys =>
      obtain ⟨rfl, htail⟩ := List.cons.inj h
      -- neither head is the line feed that ends, so the counts stay equal without them
      have hcount' : xs.count '\n' = ys.count '\n' := by
        simpa [List.count_cons] using hcount
      obtain ⟨rfl, hrest⟩ := ih hcount' htail
      exact ⟨rfl, hrest⟩

/-- The text after the last line feed is determined by the whole. -/
theorem append_lastLine_inj {xs ys last last' : List Char} (hlast : '\n' ∉ last)
    (hlast' : '\n' ∉ last') (h : xs ++ '\n' :: last = ys ++ '\n' :: last') :
    xs = ys ∧ last = last' := by
  -- neither end holds a line feed, so what stands before them holds as many
  refine append_lineFeed_inj ?_ h
  have hcount := congrArg (List.count '\n') h
  simpa [List.count_append, List.count_eq_zero.2 hlast, List.count_eq_zero.2 hlast'] using hcount

/-! ### Trimming -/

theorem trimChars_subset (cs : List Char) : trimChars cs ⊆ cs := by
  intro c hc
  unfold trimChars at hc
  rw [List.mem_reverse] at hc
  have h1 := (List.dropWhile_sublist _).subset hc
  rw [List.mem_reverse] at h1
  exact (List.dropWhile_sublist _).subset h1

/-- What is trimmed off is white space. -/
theorem exists_trimChars_eq (cs : List Char) :
    ∃ before after, cs = before ++ trimChars cs ++ after
      ∧ before.all isBlank = true ∧ after.all isBlank = true := by
  set mid := cs.dropWhile isBlank with hmid
  refine ⟨cs.takeWhile isBlank, (mid.reverse.takeWhile isBlank).reverse, ?_, ?_, ?_⟩
  -- trimming works on the reversed text, so the blanks at the end are a run at its head
  · have hsplit : trimChars cs ++ (mid.reverse.takeWhile isBlank).reverse = mid := by
      rw [trimChars, ← hmid, ← List.reverse_append, List.takeWhile_append_dropWhile,
        List.reverse_reverse]
    rw [List.append_assoc, hsplit, hmid, List.takeWhile_append_dropWhile]
  · exact List.all_takeWhile
  · rw [List.all_reverse]
    exact List.all_takeWhile

theorem lineFeed_not_mem_trim {s : String} (h : '\n' ∉ s.toList) : '\n' ∉ (trim s).toList := by
  rw [trim, String.toList_ofList]
  exact fun hmem => h (trimChars_subset _ hmem)

theorem exists_trim_eq (s : String) :
    ∃ before after, s.toList = before ++ (trim s).toList ++ after
      ∧ before.all isBlank = true ∧ after.all isBlank = true := by
  simpa [trim] using exists_trimChars_eq s.toList

/-- A text without white space at either end is trimmed already. -/
theorem trim_eq_self {s : String} (hhead : ∀ c ∈ s.toList.head?, isBlank c = false)
    (hlast : ∀ c ∈ s.toList.getLast?, isBlank c = false) : trim s = s := by
  -- nothing is dropped before a character that is no blank
  have hdrop {cs : List Char} (h : ∀ c ∈ cs.head?, isBlank c = false) :
      cs.dropWhile isBlank = cs := by
    cases cs with
    | nil => rfl
    | cons c cs => exact List.dropWhile_cons_of_neg (by simpa using h c rfl)
  rw [← String.toList_inj, trim, String.toList_ofList, trimChars, hdrop hhead,
    hdrop (by simpa using hlast), List.reverse_reverse]

theorem head?_trimChars {c : Char} {cs : List Char} (h : c ∈ (trimChars cs).head?) :
    isBlank c = false := by
  have hstart := List.head?_dropWhile_not isBlank cs
  obtain ⟨after, hsuffix⟩ := List.dropWhile_suffix isBlank (l := (cs.dropWhile isBlank).reverse)
  -- what goes at the end stands behind the first character that stays
  have hprefix : trimChars cs ++ after.reverse = cs.dropWhile isBlank := by
    rw [trimChars, ← List.reverse_append, hsuffix, List.reverse_reverse]
  -- the head that is left is the head that was there
  cases htrim : trimChars cs with
  | nil =>
    rw [htrim] at h
    cases h
  | cons d ds =>
    rw [htrim] at h hprefix
    obtain rfl := Option.some.inj h
    rw [← hprefix] at hstart
    simpa using hstart

theorem getLast?_trimChars {c : Char} {cs : List Char} (h : c ∈ (trimChars cs).getLast?) :
    isBlank c = false := by
  have hend := List.head?_dropWhile_not isBlank (cs.dropWhile isBlank).reverse
  rw [trimChars, List.getLast?_reverse] at h
  rw [h] at hend
  simpa using hend

/-- **Trimming twice** is trimming once. -/
theorem trim_trim (s : String) : trim (trim s) = trim s := by
  have hchars : (trim s).toList = trimChars s.toList := String.toList_ofList
  refine trim_eq_self (fun c hc => ?_) (fun c hc => ?_)
  · rw [hchars] at hc
    exact head?_trimChars hc
  · rw [hchars] at hc
    exact getLast?_trimChars hc

/-- A character that is no white space is not trimmed off. -/
theorem mem_trim {c : Char} {s : String} (hc : isBlank c = false) (h : c ∈ s.toList) :
    c ∈ (trim s).toList := by
  obtain ⟨before, after, heq, hbefore, hafter⟩ := exists_trim_eq s
  rw [heq, List.append_assoc, List.mem_append, List.mem_append] at h
  rcases h with h | h | h
  · exact absurd (List.all_eq_true.1 hbefore c h) (Bool.eq_false_iff.1 hc)
  · exact h
  · exact absurd (List.all_eq_true.1 hafter c h) (Bool.eq_false_iff.1 hc)

end Text

end MessageSignatures
