import MessageSignatures.Component.Resolution
import MessageSignatures.Proofs.Except
import MessageSignatures.Proofs.StructuredField.Quoted

/-!
# Components, written and resolved

* **Names.** The name of a component is printable and holds no quote and no backslash, so the
  component stands in a list as the string of its name (`ComponentId.item`), which is read as the
  component (`ComponentId.ofItem_item`).
* **Resolution** looks at a component only through the parts of the request that it names
  (`RequestView.componentValue_setHeader`), and makes no new line feed
  (`RequestView.OneLine.lineFeed_not_mem`).
-/

namespace MessageSignatures

open StructuredField (BareItem Item Member)

/-! ### Names -/

/-- The characters of a field name are plain. -/
theorem plain_of_isTokenChar {c : Char} (h : StructuredField.isTokenChar c = true) :
    StructuredField.isPlain c = true ∧ c ≠ '@' ∧ Text.isBlank c = false := by
  -- the characters with a meaning of their own are no token characters
  have hne {d : Char} (hd : StructuredField.isTokenChar d = false) : c ≠ d :=
    Text.ne_of_test h hd
  refine ⟨?_, hne (by decide), ?_⟩
  · rw [StructuredField.isPlain, beq_false_of_ne (hne (by decide)),
      beq_false_of_ne (hne (by decide))]
    rfl
  · exact Text.isBlank_eq_false_of_isPrintableChar
      (StructuredField.isPrintableChar_of_isTokenChar h) (hne (by decide))

/-- A text of field-name characters has no white space to trim. -/
theorem trim_eq_self_of_all_isTokenChar {s : String}
    (h : s.toList.all StructuredField.isTokenChar = true) : Text.trim s = s := by
  have hplain : ∀ c ∈ s.toList, Text.isBlank c = false := fun c hc =>
    (plain_of_isTokenChar (List.all_eq_true.1 h c hc)).2.2
  exact Text.trim_eq_self (fun c hc => hplain c (List.mem_of_mem_head? hc))
    (fun c hc => hplain c (List.mem_of_getLast? hc))

theorem FieldName.all_isTokenChar {n : FieldName} (h : n.isToken = true) :
    n.text.toList.all StructuredField.isTokenChar = true := by
  simp only [FieldName.isToken, Bool.and_eq_true] at h
  exact h.2

theorem FieldName.text_contentDigest : FieldName.contentDigest.text = "content-digest" :=
  Text.toLower_eq (by decide)

theorem FieldName.text_host : FieldName.host.text = "host" :=
  Text.toLower_eq (by decide)

theorem FieldName.text_signature : FieldName.signature.text = "signature" :=
  Text.toLower_eq (by decide)

theorem FieldName.text_signatureInput : FieldName.signatureInput.text = "signature-input" :=
  Text.toLower_eq (by decide)

/-- Fields with different texts are different. -/
theorem FieldName.ne_of_text_ne {m n : FieldName} {s t : String} (hm : m.text = s) (hn : n.text = t)
    (h : s ≠ t) : m ≠ n := by
  rintro rfl
  exact h (hm.symm.trans hn)

namespace ComponentId

/-- The name of a component holds no quote and no backslash. -/
theorem all_isPlain_name (id : ComponentId) :
    id.name.toList.all StructuredField.isPlain = true := by
  cases id with
  | derived d => cases d <;> decide
  | contentDigest => decide
  | field n token other =>
    exact List.all_eq_true.2 fun c hc =>
      (plain_of_isTokenChar (List.all_eq_true.1 (FieldName.all_isTokenChar token) c hc)).1

/-- So it stands in a string as it is. -/
theorem escape_name (id : ComponentId) :
    StructuredField.escape id.name.toList = id.name.toList :=
  StructuredField.escape_eq_self id.all_isPlain_name

theorem isPrintable_name (id : ComponentId) : Text.isPrintable id.name = true := by
  cases id with
  | derived d => cases d <;> decide
  | contentDigest => decide
  | field n token other =>
    exact List.all_eq_true.2 fun c hc => StructuredField.isPrintableChar_of_isTokenChar
      (List.all_eq_true.1 (FieldName.all_isTokenChar token) c hc)

/-- **Listed component.** The item that stands for a component in a list. -/
def item (id : ComponentId) : Item :=
  ⟨.string id.name, OrderedMap.empty⟩

theorem text_item (id : ComponentId) : id.item.text = id.text := by
  rw [item, Item.text_empty, BareItem.text, StructuredField.quoted, escape_name,
    String.ofList_toList, text]

theorem canonical_item (id : ComponentId) : id.item.All BareItem.Canonical :=
  Item.all_empty (BareItem.canonical_string (isPrintable_name id))

theorem isPrintable_text (id : ComponentId) : Text.isPrintable id.text = true := by
  rw [← text_item]
  exact StructuredField.isPrintable_itemText (id.canonical_item.mono fun _ h => h.printable)

/-- The name of a component that is taken from a field names the field. -/
theorem ofString_name {id : ComponentId} {n : FieldName} (h : id.fieldName? = some n) :
    FieldName.ofString id.name = n := by
  cases id with
  | derived d => cases h
  | contentDigest => exact Option.some.inj h
  | field m token other =>
    obtain rfl := Option.some.inj h
    exact FieldName.ofString_text m

theorem name_eq_text {id : ComponentId} {n : FieldName} (h : id.fieldName? = some n) :
    id.name = n.text := by
  cases id with
  | derived d => cases h
  | contentDigest =>
    obtain rfl := Option.some.inj h
    exact FieldName.text_contentDigest.symm
  | field m token other =>
    obtain rfl := Option.some.inj h
    rfl

theorem eq_contentDigest_of_fieldName? {id : ComponentId}
    (h : id.fieldName? = some .contentDigest) : id = .contentDigest := by
  cases id with
  | derived d => cases h
  | contentDigest => rfl
  | field n token other => exact absurd (Option.some.inj h) other

/-- No other component has the name of the digest. -/
theorem ofString_name_ne_contentDigest {id : ComponentId} (h : id ≠ .contentDigest) :
    FieldName.ofString id.name ≠ .contentDigest := by
  cases id with
  | derived d =>
    -- names are lower case as they are written, and none of the derived ones is the digest's
    have htext : (FieldName.ofString d.name).text = d.name :=
      Text.toLower_eq (by cases d <;> decide)
    exact FieldName.ne_of_text_ne htext FieldName.text_contentDigest (by cases d <;> decide)
  | contentDigest => exact absurd rfl h
  | field n token other => rwa [name, FieldName.ofString_text]

/-- A component that is read from the name of a field is taken from that field. -/
theorem fieldName?_of_ofField {name : String} {id : ComponentId}
    (h : ComponentId.ofField name = .ok id) :
    id.fieldName? = some (FieldName.ofString (Text.trim name)) := by
  -- the digest's name is told first, all others are checked for their characters
  simp only [ComponentId.ofField] at h
  split at h
  · next hname =>
    cases h
    exact congrArg some hname.symm
  · split at h
    · cases h
      rfl
    · cases h

/-- A field is read from its own name. -/
theorem ofField_text {n : FieldName} (token : n.isToken = true) (other : n ≠ .contentDigest) :
    ofField n.text = .ok (.field n token other) := by
  have htrim := trim_eq_self_of_all_isTokenChar (FieldName.all_isTokenChar token)
  simp only [ofField, htrim, FieldName.ofString_text, dif_neg other, dif_pos token]

/-- A text is read as a field if HTTP allows it, less white space, as the name of one. -/
theorem exists_ofField {s : String} (h : (FieldName.ofString (Text.trim s)).isToken = true) :
    ∃ id, ofField s = .ok id := by
  unfold ofField
  by_cases hdigest : FieldName.ofString (Text.trim s) = .contentDigest
  · exact ⟨_, dif_pos hdigest⟩
  · exact ⟨_, (dif_neg hdigest).trans (dif_pos h)⟩

/-- A component is read from the item that stands for it. -/
theorem ofItem_item (id : ComponentId) : ofItem id.item = .ok id := by
  cases id with
  | derived d => cases d <;> rfl
  | contentDigest =>
    have htrim : Text.trim "content-digest" = "content-digest" := rfl
    change ofField "content-digest" = _
    rw [ofField, htrim]
    exact dif_pos rfl
  | field n token other =>
    -- the name was checked when the component was built, and is passed once more
    have hempty : (item (.field n token other)).parameters.isEmpty = true := rfl
    rw [ofItem, if_pos hempty]
    dsimp only [item, name]
    split
    · next heq =>
      -- the name of a field does not begin as that of a derived component
      have htoken := FieldName.all_isTokenChar token
      rw [heq, List.all_cons, Bool.and_eq_true] at htoken
      exact absurd rfl (plain_of_isTokenChar htoken.1).2.1
    · exact ofField_text token other

/-- An item that stands for a component is a string without parameters. -/
theorem exists_string_of_ofItem {i : Item} {id : ComponentId} (h : ofItem i = .ok id) :
    ∃ s, i = ⟨.string s, OrderedMap.empty⟩ := by
  obtain ⟨bare, ps⟩ := i
  unfold ofItem at h
  -- an identifier with parameters is refused, and so is one that is no string
  split at h
  · next hempty =>
    have hps : ps = OrderedMap.empty :=
      OrderedMap.ext_entries (List.isEmpty_iff.1 hempty)
    cases bare with
    | string s => exact ⟨s, by rw [hps]⟩
    | _ => cases h
  · cases h

end ComponentId

/-! ### Values -/

namespace RequestView

variable {v : RequestView} {n m : FieldName} {value : String}

theorem fieldValue_setHeader (h : m ≠ n) :
    (v.setHeader m value).fieldValue n = v.fieldValue n := by
  have hunreadable : (v.setHeader m value).isUnreadable n = v.isUnreadable n := by
    rw [isUnreadable_setHeader, bne_iff_ne.2 h, Bool.true_and]
  unfold fieldValue
  rw [hunreadable, headerValues_setHeader, if_neg h]

/-- The value of a field that has just been set. -/
theorem fieldValue_setHeader_self :
    (v.setHeader n value).fieldValue n = .ok (Text.trim value) := by
  have hunreadable : (v.setHeader n value).isUnreadable n = false := by
    rw [isUnreadable_setHeader, bne_self_eq_false, Bool.false_and]
  unfold fieldValue
  rw [hunreadable, headerValues_setHeader, if_pos rfl, if_neg Bool.false_ne_true]
  simp only [List.map_singleton, String.intercalate_singleton]

theorem authority_setHeader (h : m ≠ .host) :
    (v.setHeader m value).authority = v.authority := by
  unfold authority
  rw [headerValues_setHeader, if_neg h]
  rfl

/-- A component that is taken from a field has the value of the field. -/
theorem componentValue_eq_fieldValue {id : ComponentId} (h : id.fieldName? = some n) :
    v.componentValue id = v.fieldValue n := by
  cases id with
  | derived d => cases h
  | contentDigest =>
    obtain rfl := Option.some.inj h
    rfl
  | field k token other =>
    obtain rfl := Option.some.inj h
    rfl

/-- A component without a value has none at all, or one that is no text. -/
theorem componentValue_eq_error {id : ComponentId} {e : Error}
    (h : v.componentValue id = .error e) :
    e = .missingComponent id.name ∨ e = .unreadableComponent id.name := by
  -- a field fails with its own name, either hidden or absent
  have hfield {n : FieldName} (h : v.fieldValue n = .error e) :
      e = .missingComponent n.text ∨ e = .unreadableComponent n.text := by
    unfold fieldValue at h
    split at h
    · exact .inr (Except.error.inj h).symm
    · split at h
      · exact .inl (Except.error.inj h).symm
      · cases h
  cases id with
  | derived d =>
    cases d with
    | authority =>
      simp only [componentValue, derivedValue] at h
      split at h
      · cases h
      · exact .inl (Except.error.inj h).symm
    -- the other three have a value on every request
    | _ => cases h
  | contentDigest =>
    have hdigest := hfield h
    rw [FieldName.text_contentDigest] at hdigest
    exact hdigest
  | field n token other => exact hfield h

/-- **Setting a field** changes the value of no component that is taken from another one. -/
theorem componentValue_setHeader {id : ComponentId} (hhost : m ≠ .host)
    (hid : id.fieldName? ≠ some m) :
    (v.setHeader m value).componentValue id = v.componentValue id := by
  cases id with
  | derived d =>
    cases d with
    | authority =>
      -- `@authority` is the one derived component that looks at a header
      change (v.setHeader m value).derivedValue .authority = v.derivedValue .authority
      rw [derivedValue, derivedValue, authority_setHeader hhost]
    | _ => rfl
  | contentDigest => exact fieldValue_setHeader fun h => hid (congrArg some h.symm)
  | field k token other => exact fieldValue_setHeader fun h => hid (congrArg some h.symm)

/-- **One line.** No part of a request that can be signed holds a line feed. -/
structure OneLine (v : RequestView) : Prop where
  method : '\n' ∉ v.method.toList
  path : '\n' ∉ v.path.toList
  query : ∀ q ∈ v.query, '\n' ∉ q.toList
  authority : ∀ a ∈ v.explicitAuthority, '\n' ∉ a.toList
  headers : ∀ h ∈ v.headers, '\n' ∉ h.2.toList

theorem mem_headers_of_mem_headerValues (h : value ∈ v.headerValues n) :
    (n, value) ∈ v.headers := by
  unfold headerValues at h
  obtain ⟨field, hfield, rfl⟩ := List.mem_map.1 h
  obtain ⟨hmem, hname⟩ := List.mem_filter.1 hfield
  rw [← beq_iff_eq.1 hname]
  exact hmem

theorem OneLine.setHeader (hv : v.OneLine) (hvalue : '\n' ∉ value.toList) :
    (v.setHeader n value).OneLine := by
  refine ⟨hv.method, hv.path, hv.query, hv.authority, ?_⟩
  intro h hmem
  rw [RequestView.setHeader, appendHeader, List.mem_append, List.mem_singleton] at hmem
  rcases hmem with hmem | rfl
  · exact hv.headers h (List.mem_filter.1 hmem).1
  · exact hvalue

theorem OneLine.authority_lineFeed (hv : v.OneLine) {a : String} (ha : v.authority = some a) :
    '\n' ∉ a.toList := by
  unfold RequestView.authority at ha
  -- an authority that was given stands before the host
  cases hexplicit : v.explicitAuthority with
  | some b =>
    rw [hexplicit] at ha
    obtain rfl := Option.some.inj ha
    exact hv.authority _ hexplicit
  | none =>
    rw [hexplicit] at ha
    exact hv.headers _ (mem_headers_of_mem_headerValues (List.mem_of_mem_head? ha))

/-- The value of a field is made of the values that it has. -/
theorem intercalate_trim_of_fieldValue (h : v.fieldValue n = .ok value) :
    v.headerValues n ≠ [] ∧ ", ".intercalate ((v.headerValues n).map Text.trim) = value := by
  -- a hidden field and one without values are refused
  unfold fieldValue at h
  split at h
  · cases h
  · split at h
    · cases h
    · next hne =>
      cases h
      exact ⟨hne, rfl⟩

/-- A field that has a value can be read. -/
theorem isUnreadable_of_fieldValue (h : v.fieldValue n = .ok value) : v.isUnreadable n = false := by
  unfold fieldValue at h
  split at h
  · cases h
  · next hreadable => exact Bool.eq_false_iff.2 hreadable

theorem OneLine.fieldValue_lineFeed (hv : v.OneLine) (h : v.fieldValue n = .ok value) :
    '\n' ∉ value.toList := by
  obtain ⟨-, rfl⟩ := intercalate_trim_of_fieldValue h
  intro hmem
  rcases Text.mem_of_mem_intercalate hmem with hmem | ⟨s, hs, hmem⟩
  · exact absurd hmem (by decide)
  · obtain ⟨line, hline, rfl⟩ := List.mem_map.1 hs
    exact Text.lineFeed_not_mem_trim (hv.headers _ (mem_headers_of_mem_headerValues hline)) hmem

/-- **Values of a request of one line** hold no line feed. -/
theorem OneLine.lineFeed_not_mem (hv : v.OneLine) {id : ComponentId}
    (h : v.componentValue id = .ok value) : '\n' ∉ value.toList := by
  cases id with
  | derived d =>
    cases d with
    -- the case of a letter is no line feed
    | method =>
      cases h
      exact Text.lineFeed_not_mem_toUpper hv.method
    | path =>
      cases h
      exact hv.path
    | query =>
      cases h
      have hmark : '\n' ∉ "?".toList := by decide
      rw [String.toList_append, List.mem_append, not_or]
      -- a query is written behind a question mark, also if there is none
      refine ⟨hmark, ?_⟩
      cases hquery : v.query with
      | none => exact List.not_mem_nil
      | some q => exact hv.query q hquery
    | authority =>
      simp only [componentValue, derivedValue] at h
      split at h
      · next host hhost =>
        cases h
        exact Text.lineFeed_not_mem_toLower (hv.authority_lineFeed hhost)
      · cases h
  | contentDigest => exact hv.fieldValue_lineFeed h
  | field n token other => exact hv.fieldValue_lineFeed h

end RequestView

end MessageSignatures
