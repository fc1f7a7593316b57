import MessageSignatures.Der
import Mathlib.Data.List.Basic

/-!
# Elements that are written

An element whose content has less than 128 octets is written as its tag, one octet for the length,
and the content (`Der.Element.octets`). The reader and this spelling belong together in both
directions:

* **Forward.** What is written is read, whatever comes behind it (`Der.element?_octets`), and so is
  a run of elements (`Der.elements?_octets`).
* **Exactness.** There is no other spelling: an element with so short a content has been read from
  these octets (`Der.eq_octets_of_element?`). Octets by themselves are thus one given element
  exactly if they are its spelling (`Der.whole?_eq_some_iff`).
-/

namespace MessageSignatures

namespace Der

variable {bs rest : List UInt8} {e : Element} {es : List Element}

namespace Element

/-- **Spelling** of an element with a short content. -/
def octets (e : Element) : List UInt8 :=
  e.tag :: UInt8.ofNat e.content.length :: e.content

/-- **Short element.** Its tag is one, and its length fits in an octet that does not announce
others. -/
structure IsShort (e : Element) : Prop where
  isTag : Tag.isTag e.tag = true
  length_lt : e.content.length < 0x80

end Element

/-! ### Forward -/

theorem length?_ofNat {n : Nat} (h : n < 0x80) (rest : List UInt8) :
    length? (UInt8.ofNat n :: rest) = some (n, rest) := by
  have hvalue : (UInt8.ofNat n).toNat = n := UInt8.toNat_ofNat_of_lt' (Nat.lt_trans h (by decide))
  have hlt : UInt8.ofNat n < 0x80 := by
    rw [UInt8.lt_iff_toNat_lt, hvalue]
    exact h
  rw [length?, if_pos hlt, hvalue]

/-- **A short element** is read as it was written, whatever comes behind it. -/
theorem element?_octets (h : e.IsShort) (rest : List UInt8) :
    element? (e.octets ++ rest) = some (e, rest) := by
  show element? (e.tag :: UInt8.ofNat e.content.length :: (e.content ++ rest)) = some (e, rest)
  have hroom : e.content.length ≤ (e.content ++ rest).length := by
    rw [List.length_append]
    exact Nat.le_add_right _ _
  simp only [element?, if_pos h.isTag, length?_ofNat h.length_lt, if_pos hroom, List.take_left,
    List.drop_left]

theorem elements?_nil : elements? [] = some [] := by
  rw [elements?, if_pos rfl]

theorem elements?_cons (h : element? bs = some (e, rest)) :
    elements? bs = (elements? rest).map (e :: ·) := by
  have hne : bs ≠ [] := by
    rintro rfl
    cases h
  rw [elements?, if_neg hne]
  split
  · -- the octets begin with an element, as assumed
    next hnone =>
    rw [h] at hnone
    cases hnone
  · next e' rest' hread =>
    rw [h] at hread
    cases hread
    rfl

/-- **Short elements** one after another are read as they were written. -/
theorem elements?_octets (h : ∀ e ∈ es, e.IsShort) :
    elements? (es.flatMap Element.octets) = some es := by
  induction es with
  | nil => exact elements?_nil
  | cons e es ih =>
    obtain ⟨he, hes⟩ := List.forall_mem_cons.1 h
    rw [List.flatMap_cons, elements?_cons (element?_octets he _), ih hes]
    rfl

/-! ### Exactness -/

/-- A length that fits in one octet is written in one. The longer spellings are for larger numbers
only. -/
theorem eq_ofNat_of_length? {n : Nat} (h : length? bs = some (n, rest)) (hn : n < 0x80) :
    bs = UInt8.ofNat n :: rest := by
  cases bs with
  | nil => cases h
  | cons b bs =>
    simp only [length?] at h
    split at h
    · -- a length in one octet
      cases h
      rw [UInt8.ofNat_toNat]
    · split at h
      · next hcond =>
        obtain ⟨rfl, -⟩ := Prod.mk.inj (Option.some.inj h)
        -- the spelling with several octets asks for a number that does not fit in one
        simp only [Bool.and_eq_true, decide_eq_true_eq] at hcond
        omega
      · cases h

/-- **A short content** has been read from the spelling of its element. -/
theorem eq_octets_of_element? (h : element? bs = some (e, rest))
    (hshort : e.content.length < 0x80) :
    bs = e.octets ++ rest ∧ e.IsShort := by
  cases bs with
  | nil => cases h
  | cons tag bs =>
    simp only [element?] at h
    split at h
    · next htag =>
      split at h
      · next n tail hlength =>
        split at h
        · next hroom =>
          cases h
          -- as many octets are taken as the length says
          have htake : (tail.take n).length = n := List.length_take_of_le hroom
          rw [htake] at hshort
          refine ⟨?_, htag, htake.symm ▸ hshort⟩
          rw [eq_ofNat_of_length? hlength hshort, Element.octets, htake]
          simp only [List.cons_append, List.take_append_drop]
        · cases h
      · cases h
    · cases h

/-- **Octets by themselves** are a short element exactly if they are its spelling. -/
theorem whole?_eq_some_iff (hshort : e.content.length < 0x80) :
    whole? bs = some e ↔ Tag.isTag e.tag = true ∧ bs = e.octets := by
  unfold whole?
  constructor
  · intro h
    -- the element takes all of the octets
    split at h
    · next hread =>
      cases h
      obtain ⟨heq, he⟩ := eq_octets_of_element? hread hshort
      rw [List.append_nil] at heq
      exact ⟨he.isTag, heq⟩
    · cases h
  · rintro ⟨htag, rfl⟩
    have hread := element?_octets ⟨htag, hshort⟩ []
    rw [List.append_nil] at hread
    rw [hread]

/-- An element that is written holds the elements that its content was written from. -/
theorem elementsOf?_octets {tag : UInt8} (h : ∀ e ∈ es, e.IsShort) :
    (⟨tag, es.flatMap Element.octets⟩ : Element).elementsOf? tag = some es := by
  rw [Element.elementsOf?, Element.contentOf?, if_pos rfl, Option.bind_some, elements?_octets h]

end Der

end MessageSignatures
