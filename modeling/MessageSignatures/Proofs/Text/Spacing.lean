import MessageSignatures.Proofs.Text

/-!
# Texts that differ in white space

The lines of a header are joined in two ways: as they came, and trimmed. The second text comes from
the first by leaving out white space at the ends of the lines. This is told by a relation between
characters, from left to right (`Respaced`): white space may become a space, and it may be left out
before a space, before a comma and at the end of the text.

* **Same characters.** All else stays where it is, and so does every run of characters that has
  neither white space nor a comma in it (`Respaced.takeWhile_eq`).
* **White space that is passed over.** Passing over spaces leads to related rests, provided that all
  the white space there is has been passed over (`Respaced.dropWhile`).
* **Trimmed lines.** The two joins are related if a space is put in front of both
  (`respaced_intercalate_trim`).
-/

namespace MessageSignatures

namespace Text

/-- **Respaced characters.** The second text is the first with some white space replaced by spaces,
and some left out before a space, before a comma or at the end. -/
inductive Respaced : List Char → List Char → Prop
  | nil : Respaced [] []
  | keep (c : Char) {cs ds : List Char} (h : Respaced cs ds) : Respaced (c :: cs) (c :: ds)
  | blank {c : Char} {cs ds : List Char} (hc : isBlank c = true) (h : Respaced cs ds) :
      Respaced (c :: cs) (' ' :: ds)
  | drop {c : Char} {cs ds : List Char} (hc : isBlank c = true)
      (hnext : ∀ d ∈ ds.head?, d = ' ' ∨ d = ',') (h : Respaced cs ds) : Respaced (c :: cs) ds

namespace Respaced

variable {p : Char → Bool} {c : Char} {cs ds xs : List Char}

theorem refl (cs : List Char) : Respaced cs cs := by
  induction cs with
  | nil => exact .nil
  | cons c cs ih => exact .keep c ih

/-- Nothing comes of nothing. -/
theorem eq_nil (h : Respaced [] ds) : ds = [] := by
  cases h
  rfl

/-- A character that is no white space stays. -/
theorem exists_of_cons (h : Respaced (c :: cs) ds) (hc : isBlank c = false) :
    ∃ ds', ds = c :: ds' ∧ Respaced cs ds' := by
  cases h with
  | keep _ h => exact ⟨_, rfl, h⟩
  | blank hblank _ => exact absurd hblank (by simp [hc])
  | drop hblank _ _ => exact absurd hblank (by simp [hc])

/-- A character that is neither a space nor a comma was there before. -/
theorem exists_of_cons_right (h : Respaced cs (c :: ds)) (hspace : c ≠ ' ') (hcomma : c ≠ ',') :
    ∃ cs', cs = c :: cs' ∧ Respaced cs' ds := by
  cases h with
  | keep _ h => exact ⟨_, rfl, h⟩
  | blank _ _ => exact absurd rfl hspace
  | drop _ hnext _ => exact absurd (hnext c rfl) (by simp [hspace, hcomma])

/-- What holds of every character, and of the space, still does. -/
theorem all (h : Respaced cs ds) (hspace : p ' ' = true) (hcs : cs.all p = true) :
    ds.all p = true := by
  induction h with
  | nil => rfl
  | keep c _ ih =>
    rw [List.all_cons, Bool.and_eq_true] at hcs ⊢
    exact ⟨hcs.1, ih hcs.2⟩
  | blank _ _ ih =>
    rw [List.all_cons, Bool.and_eq_true] at hcs ⊢
    exact ⟨hspace, ih hcs.2⟩
  | drop _ _ _ ih =>
    rw [List.all_cons, Bool.and_eq_true] at hcs
    exact ih hcs.2

/-- **A run** of characters that are neither white space nor commas is the same on both sides, and
what follows it is related. -/
theorem takeWhile_eq (h : Respaced cs ds) (hp : ∀ c, p c = true → isBlank c = false)
    (hcomma : p ',' = false) :
    ds.takeWhile p = cs.takeWhile p ∧ Respaced (cs.dropWhile p) (ds.dropWhile p) := by
  -- no character of the run is a blank
  have hblank : ∀ c, isBlank c = true → ¬ p c = true := by
    intro c hc hpc
    exact Bool.false_ne_true ((hp c hpc).symm.trans hc)
  induction h with
  | nil => exact ⟨rfl, .nil⟩
  | @keep c cs ds h ih =>
    by_cases hc : p c = true
    · rw [List.takeWhile_cons_of_pos hc, List.takeWhile_cons_of_pos hc,
        List.dropWhile_cons_of_pos hc, List.dropWhile_cons_of_pos hc, ih.1]
      exact ⟨rfl, ih.2⟩
    · rw [List.takeWhile_cons_of_neg hc, List.takeWhile_cons_of_neg hc,
        List.dropWhile_cons_of_neg hc, List.dropWhile_cons_of_neg hc]
      exact ⟨rfl, .keep c h⟩
  | @blank c cs ds hc h _ =>
    -- the run is at its end on both sides
    rw [List.takeWhile_cons_of_neg (hblank c hc), List.takeWhile_cons_of_neg (hblank ' ' rfl),
      List.dropWhile_cons_of_neg (hblank c hc), List.dropWhile_cons_of_neg (hblank ' ' rfl)]
    exact ⟨rfl, .blank hc h⟩
  | @drop c cs ds hc hnext h _ =>
    -- a blank is left out before a space or a comma, and the run stops at both
    obtain ⟨htake, hdrop⟩ : ds.takeWhile p = [] ∧ ds.dropWhile p = ds := by
      cases ds with
      | nil => exact ⟨rfl, rfl⟩
      | cons d ds =>
        have hstop : ¬ p d = true := by
          rcases hnext d rfl with rfl | rfl
          · exact hblank ' ' rfl
          · simp [hcomma]
        exact ⟨List.takeWhile_cons_of_neg hstop, List.dropWhile_cons_of_neg hstop⟩
    rw [List.takeWhile_cons_of_neg (hblank c hc), List.dropWhile_cons_of_neg (hblank c hc), htake,
      hdrop]
    exact ⟨rfl, .drop hc hnext h⟩

/-- **White space that is passed over.** If what it leads to is no white space, it leads there on
both sides. -/
theorem dropWhile (h : Respaced cs ds) (hspace : p ' ' = true)
    (hhead : ∀ c ∈ (cs.dropWhile p).head?, isBlank c = false) :
    Respaced (cs.dropWhile p) (ds.dropWhile p) := by
  induction h with
  | nil => exact .nil
  | @keep c cs ds h ih =>
    by_cases hc : p c = true
    · rw [List.dropWhile_cons_of_pos hc] at hhead ⊢
      rw [List.dropWhile_cons_of_pos hc]
      exact ih hhead
    · rw [List.dropWhile_cons_of_neg hc, List.dropWhile_cons_of_neg hc]
      exact .keep c h
  | @blank c cs ds hblank h ih =>
    by_cases hc : p c = true
    · -- a space that was put in for a blank is passed over with it
      rw [List.dropWhile_cons_of_pos hc] at hhead ⊢
      rw [List.dropWhile_cons_of_pos hspace]
      exact ih hhead
    · rw [List.dropWhile_cons_of_neg hc] at hhead
      exact absurd hblank (by simp [hhead c rfl])
  | @drop c cs ds hblank hnext h ih =>
    by_cases hc : p c = true
    · rw [List.dropWhile_cons_of_pos hc] at hhead ⊢
      -- the blank was to be passed over, so nothing is left of it on either side
      exact ih hhead
    · rw [List.dropWhile_cons_of_neg hc] at hhead
      exact absurd hblank (by simp [hhead c rfl])

/-! ### Trimmed lines -/

/-- White space before a space, before a comma or at the end is left out. -/
theorem append_blanks (hxs : xs.all isBlank = true) (hnext : ∀ d ∈ ds.head?, d = ' ' ∨ d = ',')
    (h : Respaced cs ds) : Respaced (xs ++ cs) ds := by
  induction xs with
  | nil => exact h
  | cons c xs ih =>
    rw [List.all_cons, Bool.and_eq_true] at hxs
    exact .drop hxs.1 hnext (ih hxs.2)

/-- White space behind a space is left out. -/
theorem space_append_blanks (hxs : xs.all isBlank = true) (h : Respaced cs ds) :
    Respaced (' ' :: (xs ++ cs)) (' ' :: ds) := by
  -- the last of all the white space is the space that stays
  have hlast : ∀ c, isBlank c = true → Respaced (c :: (xs ++ cs)) (' ' :: ds) := by
    induction xs with
    | nil => exact fun c hc => .blank hc h
    | cons b xs ih =>
      rw [List.all_cons, Bool.and_eq_true] at hxs
      have hnext : ∀ d ∈ (' ' :: ds).head?, d = ' ' ∨ d = ',' := by
        intro d hd
        exact .inl (Option.some.inj hd).symm
      exact fun c hc => .drop hc hnext (ih hxs.2 b hxs.1)
  exact hlast ' ' rfl

theorem append_left (xs : List Char) (h : Respaced cs ds) : Respaced (xs ++ cs) (xs ++ ds) := by
  induction xs with
  | nil => exact h
  | cons c xs ih => exact .keep c ih

end Respaced

/-- A line is trimmed by leaving out white space, given that what follows it is related and begins
with a comma, if it is not the end. -/
theorem respaced_trim_append (line : String) {cs ds : List Char} (h : Respaced cs ds)
    (hnext : ∀ d ∈ ds.head?, d = ',') :
    Respaced (' ' :: (line.toList ++ cs)) (' ' :: ((trim line).toList ++ ds)) := by
  obtain ⟨before, after, hline, hbefore, hafter⟩ := exists_trim_eq line
  rw [hline, List.append_assoc, List.append_assoc]
  refine .space_append_blanks hbefore (.append_left _ (.append_blanks hafter ?_ h))
  exact fun d hd => .inr (hnext d hd)

/-- **Trimmed lines.** Joining lines after they were trimmed is leaving out white space. -/
theorem respaced_intercalate_trim (lines : List String) :
    Respaced (' ' :: (", ".intercalate lines).toList)
      (' ' :: (", ".intercalate (lines.map trim)).toList) := by
  have hcomma : ", ".toList = [',', ' '] := rfl
  induction lines with
  | nil => exact .refl _
  | cons line lines ih =>
    cases lines with
    | nil =>
      rw [List.map_singleton, String.intercalate_singleton, String.intercalate_singleton]
      -- nothing follows the last line
      have hlast := respaced_trim_append line .nil nofun
      rwa [List.append_nil, List.append_nil] at hlast
    | cons line' lines =>
      rw [List.map_cons, List.map_cons, String.intercalate_cons_cons, String.intercalate_cons_cons,
        ← List.map_cons]
      simp only [String.toList_append, hcomma, List.append_assoc, List.cons_append,
        List.nil_append]
      -- the space behind the comma is the one in front of the lines that follow
      refine respaced_trim_append line (.keep ',' ih) fun d hd => ?_
      exact (Option.some.inj hd).symm

end Text

end MessageSignatures
