import MessageSignatures.Base64
import Mathlib.Data.List.Basic

/-!
# Reading base64 that was written

`Base64.encode` writes symbols of six-bit values and padding signs, nothing else
(`forall_mem_encodeChars`), and the loose reader gives back the octets that were written
(`decodeLoose_encodeChars`).

That reader drops the padding before it looks at the symbols, so the proof goes through the six-bit
values (`values`), of which the written text is the padded spelling. It accepts symbols and padding
only (`forall_mem_of_decodeLoose`).
-/

namespace MessageSignatures

namespace Base64

theorem value?_symbol {n : Nat} (h : n < 64) : value? (symbol n) = some n := by
  decide +revert

theorem symbol_ne_pad {n : Nat} (h : n < 64) : symbol n ≠ '=' := by
  decide +revert

/-- The six-bit values of an octet string, with zeros for the bits that no octet uses. -/
def values : List UInt8 → List Nat
  | [] => []
  | [a] => [a.toNat / 4, a.toNat % 4 * 16]
  | [a, b] => [a.toNat / 4, a.toNat % 4 * 16 + b.toNat / 16, b.toNat % 16 * 4]
  | a :: b :: c :: rest =>
    a.toNat / 4 :: (a.toNat % 4 * 16 + b.toNat / 16) :: (b.toNat % 16 * 4 + c.toNat / 64)
      :: c.toNat % 64 :: values rest

theorem forall_mem_values_lt (bs : List UInt8) : ∀ n ∈ values bs, n < 64 := by
  fun_induction values bs with
  | case1 => simp
  | case2 a =>
    -- three octets make four values of six bits
    have := a.toNat_lt
    simp only [List.forall_mem_cons]
    refine ⟨by omega, by omega, by simp⟩
  | case3 a b =>
    have := a.toNat_lt
    have := b.toNat_lt
    simp only [List.forall_mem_cons]
    refine ⟨by omega, by omega, by omega, by simp⟩
  | case4 a b c rest ih =>
    have := a.toNat_lt
    have := b.toNat_lt
    have := c.toNat_lt
    simp only [List.forall_mem_cons]
    exact ⟨by omega, by omega, by omega, by omega, ih⟩

/-- The written text is the symbols of the values, followed by padding. -/
theorem exists_encodeChars_eq (bs : List UInt8) :
    ∃ pads, encodeChars bs = (values bs).map symbol ++ List.replicate pads '=' := by
  fun_induction values bs with
  | case1 => exact ⟨0, rfl⟩
  | case2 a => exact ⟨2, rfl⟩
  | case3 a b => exact ⟨1, rfl⟩
  | case4 a b c rest ih =>
    obtain ⟨pads, hpads⟩ := ih
    exact ⟨pads, by simp [encodeChars, hpads]⟩

/-- What holds of every symbol and of the padding sign holds of every character that is written. -/
theorem forall_mem_encodeChars {P : Char → Prop} (hsymbol : ∀ n < 64, P (symbol n))
    (hpad : P '=') (bs : List UInt8) : ∀ c ∈ encodeChars bs, P c := by
  obtain ⟨pads, hpads⟩ := exists_encodeChars_eq bs
  intro c hc
  rw [hpads, List.mem_append] at hc
  rcases hc with hc | hc
  · obtain ⟨n, hn, rfl⟩ := List.mem_map.1 hc
    exact hsymbol n (forall_mem_values_lt bs n hn)
  · rw [List.eq_of_mem_replicate hc]
    exact hpad

/-- The values of an octet string denote it. -/
theorem octetsOfValues_values (bs : List UInt8) : octetsOfValues (values bs) = some bs := by
  -- an octet is put together from its bits as a number
  have octet_eq {n : Nat} {b : UInt8} (h : n = b.toNat) : UInt8.ofNat n = b := by
    rw [h, UInt8.ofNat_toNat]
  fun_induction values bs with
  | case1 => rfl
  | case2 a =>
    have := a.toNat_lt
    simp only [octetsOfValues]
    rw [octet_eq (b := a) (by omega)]
  | case3 a b =>
    have := a.toNat_lt
    have := b.toNat_lt
    simp only [octetsOfValues]
    rw [octet_eq (b := a) (by omega), octet_eq (b := b) (by omega)]
  | case4 a b c rest ih =>
    have := a.toNat_lt
    have := b.toNat_lt
    have := c.toNat_lt
    simp only [octetsOfValues, ih, Option.map_some]
    rw [octet_eq (b := a) (by omega), octet_eq (b := b) (by omega),
      octet_eq (b := c) (by omega)]

theorem mapM_value?_map_symbol {ns : List Nat} (h : ∀ n ∈ ns, n < 64) :
    (ns.map symbol).mapM value? = some ns := by
  induction ns with
  | nil => rfl
  | cons n ns ih =>
    rw [List.map_cons, List.mapM_cons, value?_symbol (h n List.mem_cons_self),
      ih fun m hm => h m (List.mem_cons_of_mem n hm)]
    rfl

/-- **Loose reading** gives back what was written. -/
theorem decodeLoose_encodeChars (bs : List UInt8) : decodeLoose (encodeChars bs) = some bs := by
  obtain ⟨pads, hpads⟩ := exists_encodeChars_eq bs
  have hlt := forall_mem_values_lt bs
  -- dropping the padding leaves the symbols, none of which is the padding sign
  have hsymbols : (encodeChars bs).filter (· != '=') = (values bs).map symbol := by
    rw [hpads, List.filter_append, List.filter_eq_self.2, List.filter_eq_nil_iff.2,
      List.append_nil]
    · intro c hc
      simp [List.eq_of_mem_replicate hc]
    · intro c hc
      obtain ⟨n, hn, rfl⟩ := List.mem_map.1 hc
      simpa using symbol_ne_pad (hlt n hn)
  rw [decodeLoose, hsymbols, mapM_value?_map_symbol hlt, Option.bind_some,
    octetsOfValues_values]

/-- **What is read** loosely holds symbols and padding, nothing else. -/
theorem forall_mem_of_decodeLoose {cs : List Char} {bs : List UInt8}
    (h : decodeLoose cs = some bs) :
    ∀ c ∈ cs, c = '=' ∨ ∃ n, value? c = some n := by
  -- the characters that are not padding are read one by one
  have hmapM {cs : List Char} {ns : List Nat} (h : cs.mapM value? = some ns) :
      ∀ c ∈ cs, ∃ n, value? c = some n := by
    induction cs generalizing ns with
    | nil => simp
    | cons c cs ih =>
      rw [List.mapM_cons] at h
      obtain ⟨n, hn, h⟩ := Option.bind_eq_some_iff.1 h
      obtain ⟨ns', hns', -⟩ := Option.bind_eq_some_iff.1 h
      exact List.forall_mem_cons.2 ⟨⟨n, hn⟩, ih hns'⟩
  unfold decodeLoose at h
  obtain ⟨ns, hns, -⟩ := Option.bind_eq_some_iff.1 h
  intro c hc
  by_cases hpad : c = '='
  · exact .inl hpad
  · exact .inr (hmapM hns c (List.mem_filter.2 ⟨hc, bne_iff_ne.2 hpad⟩))

end Base64

end MessageSignatures
