import MessageSignatures.Proofs.Component
import MessageSignatures.Signer
import Mathlib.Data.List.Nodup

/-!
# Names of components

A component is named by a text: the name of a field, an item of a list, or a text that somebody
configured. White space around a name does not count, and neither does case; what is left is the
**normal name** (`ComponentId.normalName`), and a component has its normal name as its own
(`ComponentId.name_of_ofItem`).

There are three readers. `ComponentId.ofField` reads a field name. `ComponentId.ofItem` reads an
item. `ComponentId.parse` puts a text between quotes, and reads what it gets as an item: here a
quote, a backslash or a semicolon in the text could end the string early, or bring in parameters. It
cannot be read as a component then, as names of components are plain
(`ComponentId.all_isPlain_of_ofItem`, `StructuredField.eq_of_parseItem_string`). So all of them
agree (`ComponentId.canonical_names`).
-/

namespace MessageSignatures

open StructuredField (BareItem Item quoted)

/-! ### Normal names -/

namespace ComponentId

/-- **Normal name.** The name of a component that a text names. -/
def normalName (s : String) : String :=
  (Text.trim s).toLower

/-- **Listed name.** The item that a name is in a list. -/
def listed (s : String) : Item :=
  ⟨.string s, OrderedMap.empty⟩

theorem normalName_derived (d : DerivedComponent) : normalName d.name = d.name := by
  have htrim : Text.trim d.name = d.name := by cases d <;> rfl
  rw [normalName, htrim]
  exact Text.toLower_eq (by cases d <;> decide)

/-- A field is read from a text as the one with the normal name. -/
theorem name_of_ofField {s : String} {id : ComponentId} (h : ofField s = .ok id) :
    id.name = normalName s := by
  rw [name_eq_text (fieldName?_of_ofField h), FieldName.text_ofString, normalName]

/-- **A name is read** as the component whose name is the normal one. -/
theorem name_of_ofItem {s : String} {id : ComponentId} (h : ofItem (listed s) = .ok id) :
    id.name = normalName s := by
  have hempty : (listed s).parameters.isEmpty = true := rfl
  rw [ofItem, if_pos hempty] at h
  dsimp only [listed] at h
  split at h
  · -- a derived component is named as it is written
    obtain ⟨d, hd, rfl⟩ := Fallible.map_eq_ok.1 h
    -- the names are looked up by equality
    have hname : d.name = s := by
      unfold DerivedComponent.ofName at hd
      split at hd
      · next hfind =>
        cases hd
        have hfound := List.find?_some hfind
        exact beq_iff_eq.1 hfound
      · cases hd
    rw [← hname]
    exact (normalName_derived d).symm
  · exact name_of_ofField h

/-- What components are read from are names. -/
theorem exists_names {items : List Item} {ids : List ComponentId}
    (h : items.mapM ofItem = .ok ids) :
    ∃ names, items = names.map listed
      ∧ List.Forall₂ (fun s id => ofItem (listed s) = .ok id) names ids := by
  -- one item after the other, each with the component that is read from it
  have hall := Fallible.mapM_eq_ok.1 h
  clear h
  induction hall with
  | nil => exact ⟨[], rfl, .nil⟩
  | @cons i id items ids hid _ ih =>
    obtain ⟨names, rfl, hnames⟩ := ih
    obtain ⟨s, rfl⟩ := exists_string_of_ofItem hid
    exact ⟨s :: names, rfl, .cons hid hnames⟩

theorem text_listed (s : String) : (listed s).text = quoted s := by
  rw [listed, Item.text_empty, BareItem.text]

theorem text_eq_quoted (id : ComponentId) : id.text = quoted id.name := by
  rw [← text_item, item, Item.text_empty, BareItem.text]

end ComponentId

/-! ### Names of fields -/

namespace StructuredField

/-- A capital becomes the letter thirty-two places behind it, and nothing else changes. -/
theorem toNat_toLower (c : Char) :
    c.toLower.toNat = if isUpperChar c then c.toNat + 32 else c.toNat := by
  have hcapital : (c.val ≥ 'A'.val ∧ c.val ≤ 'Z'.val) ↔ isUpperChar c = true := by
    rw [isUpperChar_iff]
    exact Iff.rfl
  unfold Char.toLower
  split
  · next h =>
    have hcode := isUpperChar_iff.1 (hcapital.1 h)
    have hdistance : ('a'.val - 'A'.val).toNat = 32 := rfl
    rw [if_pos (hcapital.1 h)]
    show (c.val + ('a'.val - 'A'.val)).toNat = c.val.toNat + 32
    rw [UInt32.toNat_add, hdistance, Nat.mod_eq_of_lt]
    rw [Char.toNat_val]
    omega
  · next h => rw [if_neg fun hupper => h (hcapital.2 hupper)]

/-- Case makes no difference to whether a character may stand in a field name. -/
theorem isTokenChar_toLower (c : Char) : isTokenChar c.toLower = isTokenChar c := by
  have hcode := toNat_toLower c
  by_cases hc : isUpperChar c = true
  · -- a capital and its small letter are both letters
    rw [if_pos hc] at hcode
    have hupper := isUpperChar_iff.1 hc
    have hlower : isLowerChar c.toLower = true := isLowerChar_iff.2 (by omega)
    simp only [isTokenChar, hlower, hc, Bool.or_true, Bool.true_or]
  · rw [if_neg hc] at hcode
    rw [Char.toNat_inj.1 hcode]

end StructuredField

/-- HTTP allows the name of a field if it allows the text that names it. -/
theorem FieldName.isToken_ofString (s : String) :
    (FieldName.ofString s).isToken = (s != "" && s.toList.all StructuredField.isTokenChar) := by
  have hempty : s.toLower = "" ↔ s = "" := by
    rw [← String.toList_inj, ← String.toList_inj, Text.toList_toLower]
    exact List.map_eq_nil_iff
  have hnonempty : (s.toLower != "") = (s != "") := by
    rw [Bool.eq_iff_iff, bne_iff_ne, bne_iff_ne]
    exact not_congr hempty
  have hall : s.toLower.toList.all StructuredField.isTokenChar
      = s.toList.all StructuredField.isTokenChar := by
    rw [Text.toList_toLower, List.all_map]
    congr 1
    funext c
    exact StructuredField.isTokenChar_toLower c
  rw [FieldName.isToken, text_ofString, hnonempty, hall]

namespace ComponentId

/-- **A field is named** by the texts that are, less white space, names that HTTP allows. -/
theorem exists_ofField_iff {s : String} :
    (∃ id, ofField s = .ok id)
      ↔ Text.trim s ≠ "" ∧ (Text.trim s).toList.all StructuredField.isTokenChar = true := by
  rw [← bne_iff_ne, ← Bool.and_eq_true, ← FieldName.isToken_ofString]
  refine ⟨?_, exists_ofField⟩
  -- the digest is named by a token as any other field is
  rintro ⟨id, h⟩
  have hfield := fieldName?_of_ofField h
  cases id with
  | derived d => cases hfield
  | contentDigest =>
    rw [← Option.some.inj hfield, FieldName.isToken, FieldName.text_contentDigest]
    decide
  | field n token other =>
    rw [← Option.some.inj hfield]
    exact token

/-- **The component of a field** is the digest, or the field of the normal name. -/
theorem eq_or_eq_of_ofField {s : String} {id : ComponentId} (h : ofField s = .ok id) :
    (normalName s = "content-digest" ∧ id = .contentDigest)
      ∨ (normalName s ≠ "content-digest"
        ∧ ∃ n token other, id = .field n token other ∧ n.text = normalName s) := by
  have hfield := fieldName?_of_ofField h
  have hname := name_of_ofField h
  cases id with
  | derived d => cases hfield
  | contentDigest => exact .inl ⟨hname.symm, rfl⟩
  | field n token other =>
    refine .inr ⟨fun hdigest => other ?_, n, token, other, rfl, hname⟩
    have htext : n.text = "content-digest" := hname.trans hdigest
    rw [← FieldName.ofString_text n, htext]
    rfl

theorem ofField_trim (s : String) : ofField (Text.trim s) = ofField s := by
  rw [ofField, ofField, Text.trim_trim]

/-! ### Readers of a name -/

/-- Where no derived component is named, the item of a name is read as the name of a field. -/
theorem ofItem_listed {s : String} (h : s.toList.head? ≠ some '@') :
    ofItem (listed s) = ofField s := by
  have hempty : (listed s).parameters.isEmpty = true := rfl
  rw [ofItem, if_pos hempty]
  dsimp only [listed]
  split
  · next heq =>
    rw [heq] at h
    exact absurd rfl h
  · rfl

/-- A name that is read as a component is plain. -/
theorem all_isPlain_of_ofItem {s : String} {id : ComponentId} (h : ofItem (listed s) = .ok id) :
    s.toList.all StructuredField.isPlain = true := by
  have hname := all_isPlain_name id
  rw [name_of_ofItem h, normalName, Text.toList_toLower, List.all_map] at hname
  refine List.all_eq_true.2 fun c hc => ?_
  by_contra hplain
  -- a quote or a backslash is neither trimmed off nor changed with the case
  have hcases : c = '"' ∨ c = '\\' := by
    simpa [StructuredField.isPlain, or_iff_not_imp_left] using hplain
  have hblank : Text.isBlank c = false := by rcases hcases with rfl | rfl <;> decide
  have hlower : StructuredField.isPlain c.toLower = true :=
    List.all_eq_true.1 hname c (Text.mem_trim hblank hc)
  rcases hcases with rfl | rfl <;> exact absurd hlower (by decide)

theorem inQuotes_of_head?_ne {s : String} (h : s.toList.head? ≠ some '"') :
    inQuotes s = "\"" ++ s ++ "\"" := by
  unfold inQuotes
  split
  · next heq =>
    rw [heq] at h
    exact absurd rfl h
  · rfl

/-- A name of plain printable characters is read between quotes as its item. -/
theorem parseItem_listed {s : String} (hprintable : Text.isPrintable s = true)
    (hplain : s.toList.all StructuredField.isPlain = true) :
    StructuredField.parseItem ("\"" ++ s ++ "\"") = some (listed s) := by
  have htext : "\"" ++ s ++ "\"" = (listed s).text := by
    rw [text_listed, quoted, StructuredField.escape_eq_self hplain, String.ofList_toList]
  rw [htext]
  exact StructuredField.parseItem_text (Item.all_empty (BareItem.canonical_string hprintable))

/-- **The readers agree.** Where neither a quote nor a derived component begins, a text is read as a
component exactly if it is read as the name of a field, and as the same one. -/
theorem parse_eq_ok_iff {s : String} {id : ComponentId}
    (hquote : (Text.trim s).toList.head? ≠ some '"')
    (hderived : (Text.trim s).toList.head? ≠ some '@') :
    parse s = .ok id ↔ ofField s = .ok id := by
  -- an item without parameters is the name itself
  have hitem : ofItem (listed (Text.trim s)) = ofField s := by
    rw [ofItem_listed hderived, ofField_trim]
  unfold parse
  rw [inQuotes_of_head?_ne hquote, ← hitem]
  constructor
  · -- what is read between the quotes is the text itself, since names are plain
    intro h
    split at h
    · next i hi =>
      obtain ⟨u, rfl⟩ := exists_string_of_ofItem h
      have hu : u = Text.trim s :=
        StructuredField.eq_of_parseItem_string hi (all_isPlain_of_ofItem h)
      rw [← hu]
      exact h
    · cases h
  · -- the name of a field can stand between quotes
    intro h
    obtain ⟨-, htoken⟩ := exists_ofField_iff.1 ⟨id, hitem.symm.trans h⟩
    have hprintable : Text.isPrintable (Text.trim s) = true :=
      List.all_eq_true.2 fun c hc =>
        StructuredField.isPrintableChar_of_isTokenChar (List.all_eq_true.1 htoken c hc)
    rw [parseItem_listed hprintable (all_isPlain_of_ofItem h)]
    exact h

/-- What comes with the quotes of a component is read as the component. -/
theorem parse_of_inQuotes {s : String} {id : ComponentId} (h : inQuotes (Text.trim s) = id.text) :
    parse s = .ok id := by
  have hread : StructuredField.parseItem id.text = some id.item := by
    rw [← text_item]
    exact StructuredField.parseItem_text id.canonical_item
  unfold parse
  rw [h, hread]
  exact ofItem_item id

theorem trim_name (id : ComponentId) : Text.trim id.name = id.name := by
  cases id with
  | derived d => cases d <;> rfl
  | contentDigest => rfl
  | field n token other => exact trim_eq_self_of_all_isTokenChar (FieldName.all_isTokenChar token)

theorem toList_text (id : ComponentId) : id.text.toList = '"' :: (id.name.toList ++ ['"']) := by
  have hquote : "\"".toList = ['"'] := rfl
  rw [text, String.toList_append, String.toList_append, hquote, List.singleton_append,
    List.cons_append]

/-- A component is read from its written form. -/
theorem parse_text (id : ComponentId) : parse id.text = .ok id := by
  have hblank : Text.isBlank '"' = false := by decide
  refine parse_of_inQuotes ?_
  have htrim : Text.trim id.text = id.text := by
    refine Text.trim_eq_self (fun c hc => ?_) (fun c hc => ?_)
    · rw [toList_text, List.head?_cons, Option.mem_some_iff] at hc
      rw [← hc, hblank]
    · rw [toList_text, ← List.cons_append, List.getLast?_concat, Option.mem_some_iff] at hc
      rw [← hc, hblank]
  rw [htrim, inQuotes, toList_text]
  rfl

/-- A component is read from its name. -/
theorem parse_name (id : ComponentId) : parse id.name = .ok id := by
  refine parse_of_inQuotes ?_
  rw [trim_name]
  refine inQuotes_of_head?_ne fun hhead => ?_
  have hplain : StructuredField.isPlain '"' = true :=
    List.all_eq_true.1 id.all_isPlain_name '"' (List.mem_of_mem_head? hhead)
  exact absurd hplain (by decide)

/-- **A name has one component.** -/
theorem name_injective : Function.Injective name := by
  intro id id' h
  have hread : parse id.name = parse id'.name := congrArg parse h
  rw [parse_name, parse_name] at hread
  exact Except.ok.inj hread

/-- Leaving out the components that have come before is leaving out the names that have. -/
theorem map_name_addComponent (covered : List ComponentId) (id : ComponentId) :
    (addComponent covered id).map name
      = if id.name ∈ covered.map name then covered.map name
        else covered.map name ++ [id.name] := by
  have hmem : id.name ∈ covered.map name ↔ id ∈ covered :=
    List.mem_map_of_injective name_injective
  -- names are injective, so whether a name is there tells whether its component is
  unfold addComponent
  by_cases h : id ∈ covered
  · rw [if_pos h, if_pos (hmem.2 h)]
  · rw [if_neg h, if_neg fun hname => h (hmem.1 hname), List.map_append, List.map_singleton]

theorem map_name_foldl_addComponent (covered ids : List ComponentId) :
    (ids.foldl addComponent covered).map name
      = (ids.map name).foldl (fun names s => if s ∈ names then names else names ++ [s])
        (covered.map name) := by
  induction ids generalizing covered with
  | nil => rfl
  | cons id ids ih =>
    rw [List.foldl_cons, List.map_cons, List.foldl_cons, ih, map_name_addComponent]

/-- **Identifiers are canonical.**

* A text names a field exactly if it is, less white space, a name that HTTP allows; and then it is
  the digest or the field of its normal name.
* The item of a text, and the text by itself, with or without white space, are read as the field
  that the text names, or not at all if it names none: nothing in it makes a difference, be it a
  quote, a backslash or a parameter. Only a text that begins with a quote of its own or as a derived
  component is read in another way.
* Every component is read from its written form and from its name, and no two have the same name. So
  components are left out as repeated exactly where names are. -/
theorem canonical_names :
    (∀ s, (∃ id, ofField s = .ok id)
      ↔ Text.trim s ≠ "" ∧ (Text.trim s).toList.all StructuredField.isTokenChar = true)
    ∧ (∀ s id, ofField s = .ok id →
      (normalName s = "content-digest" ∧ id = .contentDigest)
        ∨ (normalName s ≠ "content-digest"
          ∧ ∃ n token other, id = .field n token other ∧ n.text = normalName s))
    ∧ (∀ s, s.toList.head? ≠ some '@' → ofItem (listed s) = ofField s)
    ∧ (∀ s id, (Text.trim s).toList.head? ≠ some '"' → (Text.trim s).toList.head? ≠ some '@' →
      (parse s = .ok id ↔ ofField s = .ok id))
    ∧ (∀ id : ComponentId, parse id.text = .ok id ∧ parse id.name = .ok id)
    ∧ (∀ id id' : ComponentId, id = id' ↔ id.name = id'.name)
    ∧ (∀ ids : List ComponentId, ids.Nodup ↔ (ids.map name).Nodup)
    ∧ (∀ covered ids : List ComponentId, (ids.foldl addComponent covered).map name
      = (ids.map name).foldl (fun names s => if s ∈ names then names else names ++ [s])
        (covered.map name)) := by
  refine ⟨fun s => exists_ofField_iff, fun s id h => eq_or_eq_of_ofField h,
    fun s h => ofItem_listed h,
    fun s id hquote hderived => parse_eq_ok_iff hquote hderived, fun id => ?_, fun id id' => ?_,
    fun ids => ?_, map_name_foldl_addComponent⟩
  · exact ⟨parse_text id, parse_name id⟩
  · exact name_injective.eq_iff.symm
  · exact (List.nodup_map_iff name_injective).symm

/-- With white space around it and a capital in it, a name is read all the same. -/
theorem canonical_names_spaced :
    (Text.trim " X-Custom\u00a0").toList.head? ≠ some '"'
      ∧ (Text.trim " X-Custom\u00a0").toList.head? ≠ some '@'
      ∧ ∃ id, parse " X-Custom\u00a0" = .ok id ∧ id.name = "x-custom" := by
  -- the no-break space is trimmed off with the other blanks
  have htrim : Text.trim " X-Custom\u00a0" = "X-Custom" := rfl
  have hquote : (Text.trim " X-Custom\u00a0").toList.head? ≠ some '"' := by
    rw [htrim]
    decide
  have hderived : (Text.trim " X-Custom\u00a0").toList.head? ≠ some '@' := by
    rw [htrim]
    decide
  have hnormal : normalName " X-Custom\u00a0" = "x-custom" := Text.toLower_eq (by decide)
  obtain ⟨hfield, hnamed, -, hagree, -⟩ := canonical_names
  have htoken : Text.trim " X-Custom\u00a0" ≠ ""
      ∧ (Text.trim " X-Custom\u00a0").toList.all StructuredField.isTokenChar = true := by
    rw [htrim]
    decide
  obtain ⟨id, hid⟩ := (hfield _).2 htoken
  refine ⟨hquote, hderived, id, (hagree _ id hquote hderived).2 hid, ?_⟩
  rcases hnamed _ id hid with ⟨hdigest, -⟩ | ⟨-, n, token, other, rfl, hn⟩
  · -- the digest has another name
    rw [hnormal] at hdigest
    exact absurd hdigest (by decide)
  · exact hn.trans hnormal

end ComponentId

end MessageSignatures
