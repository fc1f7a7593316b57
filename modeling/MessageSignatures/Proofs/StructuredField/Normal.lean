import MessageSignatures.Proofs.StructuredField.RoundTrip

/-!
# Reading again what was read

A value that was read is well-formed and need not be canonical, so writing it and reading it again
may give another value. The only difference is in decimals: `1.00` is written `1.0`. The value that
is read the second time is the **normal form** of the first (`Member.normal`).

* **Same text.** A value and its normal form are written the same (`Member.text_normal`).
* **Canonical.** The normal form of a well-formed value is canonical (`Member.canonical_normal`), so
  it is what is read from the text of either (`parseList_text`).
-/

namespace MessageSignatures

namespace StructuredField

/-! ### Normal forms -/

/-- **Normal decimal.** A fraction of zeros has one digit. -/
def Decimal.normal (d : Decimal) : Decimal :=
  if d.coefficient % 10 ^ d.scale = 0 then
    { d with coefficient := d.coefficient / 10 ^ d.scale * 10, scale := 1 }
  else d

/-- **Normal bare item.** -/
def BareItem.normal : BareItem → BareItem
  | decimal d => .decimal d.normal
  | b => b

/-- **Normal member.** Every bare item in it is normal. -/
abbrev Member.normal (m : Member) : Member :=
  m.map BareItem.normal

/-! ### The text of a normal form -/

theorem Decimal.text_normal (d : Decimal) : d.normal.text = d.text := by
  unfold Decimal.normal
  split
  · next hzero =>
    -- neither the sign nor the digits before the point are touched
    have hzero' : d.coefficient % Nat.pow 10 d.scale = 0 := hzero
    have hnormal : d.coefficient / 10 ^ d.scale * 10 % Nat.pow 10 1 = 0 := Nat.mul_mod_left _ _
    rw [Decimal.text, Decimal.text, if_pos hzero', if_pos hnormal, Decimal.wholeText,
      Decimal.wholeText]
    simp
  · rfl

theorem BareItem.text_normal (b : BareItem) : b.normal.text = b.text := by
  cases b with
  | decimal d => exact d.text_normal
  | _ => rfl

theorem BareItem.normal_eq_boolean {b : BareItem} {value : Bool} :
    b.normal = .boolean value ↔ b = .boolean value := by
  cases b <;> simp [BareItem.normal]

theorem parameterText_normal (name : String) (b : BareItem) :
    parameterText name b.normal = parameterText name b := by
  simp only [parameterText, BareItem.normal_eq_boolean, BareItem.text_normal]

theorem parametersText_normal (ps : Parameters) :
    parametersText (ps.map BareItem.normal) = parametersText ps := by
  simp only [parametersText, OrderedMap.map, List.map_map, Function.comp_def, parameterText_normal]

theorem Item.text_normal (i : Item) : (i.map BareItem.normal).text = i.text := by
  rw [Item.text, Item.text, Item.map, BareItem.text_normal, parametersText_normal]

/-- **Same text.** A member and its normal form are written the same. -/
theorem Member.text_normal (m : Member) : m.normal.text = m.text := by
  cases m with
  | item i => exact i.text_normal
  | innerList items ps =>
    simp only [Member.map, Member.text, List.map_map, Function.comp_def, Item.text_normal,
      parametersText_normal]

/-! ### Normal forms are canonical -/

theorem BareItem.WellFormed.canonical_normal {b : BareItem} (hb : b.WellFormed) :
    b.normal.Canonical := by
  cases b with
  | decimal d =>
    obtain ⟨hscale, hle, hwhole⟩ := hb
    simp only [BareItem.normal, Decimal.normal]
    split
    · -- the digits before the point are those of before, and there is one behind it
      refine ⟨⟨le_refl 1, (by decide : 1 ≤ 3), ?_⟩, ?_⟩
      · change d.coefficient / 10 ^ d.scale * 10 / 10 ^ 1 < 10 ^ 12
        rw [pow_one, Nat.mul_div_cancel _ (by decide)]
        exact hwhole
      · rintro e he -
        obtain rfl := BareItem.decimal.inj he
        rfl
    · -- a fraction that is not zero is left as it is
      next hfraction =>
      refine ⟨⟨hscale, hle, hwhole⟩, ?_⟩
      rintro e he hzero
      obtain rfl := BareItem.decimal.inj he
      exact absurd hzero hfraction
  | integer n => exact ⟨hb, nofun⟩
  | string s => exact ⟨hb, nofun⟩
  | token s => exact ⟨hb, nofun⟩
  | octets bs => exact ⟨hb, nofun⟩
  | boolean value => exact ⟨hb, nofun⟩

/-- **Canonical.** The normal form of a well-formed member is read as it is written. -/
theorem Member.canonical_normal {m : Member} (hm : m.WellFormed) : m.normal.Canonical :=
  hm.map fun _ hb => hb.canonical_normal

/-! ### Reading the text of a member -/

/-- A canonical member begins with its first character, which is no space. -/
theorem Parser.exists_memberText_eq_cons {m : Member} (hm : m.Canonical) :
    ∃ c cs, m.text.toList = c :: cs ∧ c ≠ ' ' := by
  cases m with
  | item i =>
    obtain ⟨c, cs, heq, -, -, hspace⟩ := exists_itemText_eq_cons hm
    exact ⟨c, cs, heq, hspace⟩
  | innerList items ps =>
    have hopen : "(".toList = ['('] := rfl
    refine ⟨'(', (" ".intercalate (items.map Item.text) ++ ")" ++ parametersText ps).toList, ?_,
      by decide⟩
    simp only [Member.text, String.toList_append, hopen, List.append_assoc, List.cons_append,
      List.nil_append]

/-- A canonical member by itself is read as a list with one member. -/
theorem parseList_text_of_canonical {m : Member} (hm : m.Canonical) :
    parseList m.text = some [m] := by
  obtain ⟨c, cs, heq, hspace⟩ := Parser.exists_memberText_eq_cons hm
  have hstart : Parser.start m.text = some (c :: cs) := by
    rw [← heq]
    -- the member begins with no space, so nothing is skipped
    refine start_eq_self (isPrintable_memberText (hm.mono fun _ hb => hb.printable)) fun d hd => ?_
    rw [heq] at hd
    obtain rfl := Option.some.inj hd
    exact hspace
  have hread : Parser.member (c :: cs) = some (m, []) := by
    rw [← heq, ← List.append_nil m.text.toList]
    exact Parser.member_text hm Parser.afterItem_nil
  -- nothing follows the member, so it is the last one
  rw [parseList, hstart, Option.bind_eq_bind, Option.bind_some, if_neg (List.cons_ne_nil c cs),
    List.length_cons, Parser.membersFrom, hread]
  rfl

/-- **Reading again.** From the text of a member that was read its normal form is read. -/
theorem parseList_text {m : Member} (hm : m.WellFormed) : parseList m.text = some [m.normal] := by
  rw [← m.text_normal]
  exact parseList_text_of_canonical (Member.canonical_normal hm)

end StructuredField

end MessageSignatures
