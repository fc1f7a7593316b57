import MessageSignatures.Proofs.Base64
import MessageSignatures.Proofs.OrderedMap
import MessageSignatures.Proofs.Text
import MessageSignatures.StructuredField.Parser
import MessageSignatures.StructuredField.Printer
import Mathlib.Tactic.Common

/-!
# Well-formed structured fields

`BareItem`, `Item` and `Member` hold values that no text stands for: a string with a line feed, an
integer of a hundred digits. The values that have a text are **well-formed**
(`BareItem.WellFormed` and its like).

* What a reader gives is well-formed (`wellFormed_of_parseList`, `wellFormed_of_parseDictionary`).
* What a printer makes of a well-formed value is printable ASCII (`BareItem.WellFormed.printable`,
  `isPrintable_memberText`). So a member that was read and is written anew takes a single line,
  whatever it came with.
-/

namespace MessageSignatures

namespace StructuredField

/-! ### The values that have a text -/

/-- The characters with which a token can begin. -/
def isTokenStart (c : Char) : Bool :=
  isLowerChar c || isUpperChar c || c == '*'

/-- The characters with which a token can go on. -/
def isTokenRest (c : Char) : Bool :=
  isTokenChar c || c == ':' || c == '/'

/-- **Token.** Whether a text can be a token. -/
def isToken (s : String) : Bool :=
  match s.toList with
  | [] => false
  | c :: cs => isTokenStart c && cs.all isTokenRest

/-- At most twelve digits stand before the point and one to three after it. -/
structure Decimal.WellFormed (d : Decimal) : Prop where
  one_le_scale : 1 ≤ d.scale
  scale_le : d.scale ≤ 3
  whole_lt : d.coefficient / 10 ^ d.scale < 10 ^ 12

/-- **Well-formed bare item.** -/
def BareItem.WellFormed : BareItem → Prop
  | integer n => n.natAbs < 10 ^ 15
  | decimal d => d.WellFormed
  | string s => Text.isPrintable s = true
  | token s => isToken s = true
  | octets _ => True
  | boolean _ => True

/-- **Throughout parameters.** The names are keys and `P` holds of every value. -/
def Parameters.All (P : BareItem → Prop) (ps : Parameters) : Prop :=
  ∀ e ∈ ps.entries, isKey e.1 = true ∧ P e.2

/-- **Throughout an item.** `P` holds of the item and of its parameters. -/
structure Item.All (P : BareItem → Prop) (i : Item) : Prop where
  bare : P i.bare
  parameters : Parameters.All P i.parameters

/-- **Throughout a member.** `P` holds of every bare item in it. -/
def Member.All (P : BareItem → Prop) : Member → Prop
  | item i => i.All P
  | innerList items ps => (∀ i ∈ items, i.All P) ∧ Parameters.All P ps

theorem isLowerChar_iff {c : Char} : isLowerChar c = true ↔ 97 ≤ c.toNat ∧ c.toNat ≤ 122 := by
  rw [isLowerChar, Bool.and_eq_true, decide_eq_true_eq, decide_eq_true_eq]
  exact Iff.rfl

theorem isUpperChar_iff {c : Char} : isUpperChar c = true ↔ 65 ≤ c.toNat ∧ c.toNat ≤ 90 := by
  rw [isUpperChar, Bool.and_eq_true, decide_eq_true_eq, decide_eq_true_eq]
  exact Iff.rfl

/-- A key has a first character. -/
theorem exists_cons_of_isKey {s : String} (h : isKey s = true) :
    ∃ c cs, s.toList = c :: cs ∧ isKeyStart c = true ∧ cs.all isKeyChar = true := by
  unfold isKey at h
  split at h
  · cases h
  · next c cs heq => exact ⟨c, cs, heq, Bool.and_eq_true_iff.1 h⟩

/-- A token has a first character. -/
theorem exists_cons_of_isToken {s : String} (h : isToken s = true) :
    ∃ c cs, s.toList = c :: cs ∧ isTokenStart c = true ∧ cs.all isTokenRest = true := by
  unfold isToken at h
  split at h
  · cases h
  · next c cs heq => exact ⟨c, cs, heq, Bool.and_eq_true_iff.1 h⟩

theorem Parameters.All.mono {P Q : BareItem → Prop} (h : ∀ b, P b → Q b) {ps : Parameters}
    (hps : Parameters.All P ps) : Parameters.All Q ps :=
  fun e he => ⟨(hps e he).1, h _ (hps e he).2⟩

theorem Item.All.mono {P Q : BareItem → Prop} (h : ∀ b, P b → Q b) {i : Item} (hi : i.All P) :
    i.All Q :=
  ⟨h _ hi.bare, hi.parameters.mono h⟩

theorem Member.All.mono {P Q : BareItem → Prop} (h : ∀ b, P b → Q b) {m : Member}
    (hm : m.All P) : m.All Q := by
  cases m with
  | item i => exact Item.All.mono h hm
  | innerList items ps => exact ⟨fun i hi => (hm.1 i hi).mono h, hm.2.mono h⟩

/-- **Image of an item.** A function is applied to the item and to its parameters. -/
def Item.map (f : BareItem → BareItem) (i : Item) : Item :=
  ⟨f i.bare, i.parameters.map f⟩

/-- **Image of a member.** A function is applied to every bare item in it. -/
def Member.map (f : BareItem → BareItem) : Member → Member
  | item i => .item (i.map f)
  | innerList items ps => .innerList (items.map (Item.map f)) (ps.map f)

theorem Item.map_id : Item.map id = id := by
  funext i
  rw [Item.map, OrderedMap.map_id]
  rfl

/-- Nothing is changed by the identity. -/
theorem Member.map_id : Member.map id = id := by
  funext m
  cases m with
  | item i =>
    rw [Member.map, Item.map_id]
    rfl
  | innerList items ps =>
    rw [Member.map, Item.map_id, List.map_id, OrderedMap.map_id]
    rfl

theorem Parameters.All.map {P Q : BareItem → Prop} {f : BareItem → BareItem}
    (h : ∀ b, P b → Q (f b)) {ps : Parameters} (hps : Parameters.All P ps) :
    Parameters.All Q (ps.map f) := by
  intro e' he'
  obtain ⟨e, he, rfl⟩ := List.mem_map.1 he'
  exact ⟨(hps e he).1, h _ (hps e he).2⟩

theorem Item.All.map {P Q : BareItem → Prop} {f : BareItem → BareItem} (h : ∀ b, P b → Q (f b))
    {i : Item} (hi : i.All P) : (i.map f).All Q :=
  ⟨h _ hi.bare, hi.parameters.map h⟩

theorem Member.All.map {P Q : BareItem → Prop} {f : BareItem → BareItem} (h : ∀ b, P b → Q (f b))
    {m : Member} (hm : m.All P) : (m.map f).All Q := by
  cases m with
  | item i => exact Item.All.map h hm
  | innerList items ps =>
    refine ⟨?_, hm.2.map h⟩
    intro i' hi'
    obtain ⟨i, hi, rfl⟩ := List.mem_map.1 hi'
    exact (hm.1 i hi).map h

/-- **Well-formed parameters.** -/
abbrev Parameters.WellFormed (ps : Parameters) : Prop :=
  Parameters.All BareItem.WellFormed ps

/-- **Well-formed item.** -/
abbrev Item.WellFormed (i : Item) : Prop :=
  i.All BareItem.WellFormed

/-- **Well-formed member.** -/
abbrev Member.WellFormed (m : Member) : Prop :=
  m.All BareItem.WellFormed

theorem Parameters.all_empty {P : BareItem → Prop} : Parameters.All P OrderedMap.empty :=
  fun _ he => absurd he List.not_mem_nil

theorem Item.all_empty {P : BareItem → Prop} {b : BareItem} (hb : P b) :
    Item.All P ⟨b, OrderedMap.empty⟩ :=
  ⟨hb, Parameters.all_empty⟩

/-- Without parameters an item is written as its bare item. -/
theorem Item.text_empty (b : BareItem) : Item.text ⟨b, OrderedMap.empty⟩ = b.text := by
  have hempty : parametersText OrderedMap.empty = "" := rfl
  rw [Item.text, hempty, String.append_empty]

/-! ### What readers give -/

namespace Parser

theorem isKey_of_key {cs rest : List Char} {k : String} (h : key cs = some (k, rest)) :
    isKey k = true := by
  cases cs with
  | nil => cases h
  | cons c cs =>
    -- only what may begin a key is read, and then as much as may be part of one
    simp only [key] at h
    split at h
    · next hc =>
      cases h
      simp only [isKey, String.toList_ofList, hc, Bool.true_and]
      exact List.all_takeWhile
    · cases h

theorem isPrintable_of_stringBody {cs s rest : List Char} (h : stringBody cs = some (s, rest)) :
    s.all Text.isPrintableChar = true := by
  fun_induction stringBody cs generalizing s with
  | case1 => cases h
  | case2 rest' =>
    cases h
    rfl
  | case3 c cs hc ih =>
    obtain ⟨p, hp, heq⟩ := Option.map_eq_some_iff.1 h
    -- behind the last character comes the closing quote, and nothing of it is kept
    cases heq
    have hprintable : Text.isPrintableChar c = true := by
      simp only [Bool.or_eq_true, beq_iff_eq] at hc
      -- behind a backslash stands a quote or a backslash
      rcases hc with rfl | rfl <;> decide
    simp [hprintable, ih hp]
  | case4 => cases h
  | case5 c cs _ _ hc ih =>
    obtain ⟨p, hp, heq⟩ := Option.map_eq_some_iff.1 h
    cases heq
    -- any other character is kept as it is, and only if it is printable
    simp only [Bool.and_eq_true] at hc
    simp [hc.1, ih hp]
  | case6 => cases h

theorem wellFormed_of_token {cs rest : List Char} {b : BareItem} (h : token cs = some (b, rest)) :
    b.WellFormed := by
  cases cs with
  | nil => cases h
  | cons c cs =>
    simp only [token] at h
    split at h
    · next hc =>
      cases h
      simp only [BareItem.WellFormed, isToken, String.toList_ofList, isTokenStart, hc,
        Bool.true_and]
      exact List.all_takeWhile
    · cases h

/-- A run of digits denotes a number with no more digits. -/
theorem digitsValue_lt {ds : List Char} (h : ds.all Char.isDigit = true) :
    digitsValue ds < 10 ^ ds.length := by
  induction ds with
  | nil => simp [digitsValue]
  | cons d ds ih =>
    simp only [List.all_cons, Bool.and_eq_true] at h
    have hd : d.toNat - '0'.toNat ≤ 9 := by
      have hcode := Text.isDigit_iff.1 h.1
      have hzero : '0'.toNat = 48 := rfl
      omega
    have hrest := ih h.2
    unfold digitsValue at hrest ⊢
    -- the first digit adds at most nine times the weight of its place
    rw [Nat.ofDigitChars_cons, Nat.ofDigitChars_eq_ofDigitChars_zero, List.length_cons,
      Nat.pow_succ]
    have : 10 ^ ds.length * (10 * 0 + (d.toNat - '0'.toNat)) ≤ 10 ^ ds.length * 9 :=
      Nat.mul_le_mul_left _ (by omega)
    omega

/-- Digits before and after a point denote a coefficient from which both are read off. -/
theorem digitsValue_append (whole fraction : List Char) :
    digitsValue (whole ++ fraction)
      = 10 ^ fraction.length * digitsValue whole + digitsValue fraction := by
  unfold digitsValue
  rw [Nat.ofDigitChars_append, Nat.ofDigitChars_eq_ofDigitChars_zero]

theorem wellFormed_of_unsigned {negative : Bool} {cs rest : List Char} {b : BareItem}
    (h : unsigned negative cs = some (b, rest)) : b.WellFormed := by
  simp only [unsigned] at h
  have hwhole : (cs.takeWhile Char.isDigit).all Char.isDigit = true := List.all_takeWhile
  -- digits with a point behind them are a decimal, digits alone a number
  split at h
  · cases h
  · next rest' _ _ =>
    split at h
    · next hlengths =>
      cases h
      simp only [Bool.and_eq_true, decide_eq_true_eq] at hlengths
      obtain ⟨⟨h12, h1⟩, h3⟩ := hlengths
      -- the digits before the point are the quotient, since those behind it are a remainder
      refine ⟨h1, h3, ?_⟩
      have hfraction : digitsValue (rest'.takeWhile Char.isDigit)
          < 10 ^ (rest'.takeWhile Char.isDigit).length := digitsValue_lt List.all_takeWhile
      rw [digitsValue_append, Nat.mul_add_div (Nat.pow_pos (by decide)), Nat.div_eq_of_lt hfraction,
        Nat.add_zero]
      exact lt_of_lt_of_le (digitsValue_lt hwhole) (Nat.pow_le_pow_right (by decide) h12)
    · cases h
  · split at h
    · next h15 =>
      cases h
      -- as many digits as are allowed denote less than the next power of ten
      have hlt := lt_of_lt_of_le (digitsValue_lt hwhole) (Nat.pow_le_pow_right (by decide) h15)
      simp only [BareItem.WellFormed]
      split <;> omega
    · cases h

theorem wellFormed_of_bareItem {cs rest : List Char} {b : BareItem}
    (h : bareItem cs = some (b, rest)) : b.WellFormed := by
  unfold bareItem at h
  -- one case for each first character, in the order of the reader
  split at h
  · cases h
  · next cs' =>
    unfold boolean at h
    split at h <;> cases h <;> exact trivial
  · -- a quote begins a string
    obtain ⟨p, hp, heq⟩ := Option.map_eq_some_iff.1 h
    cases heq
    simpa [BareItem.WellFormed] using isPrintable_of_stringBody hp
  -- a colon begins octets, which may be any
  · next cs' =>
    unfold octets at h
    split at h
    · cases h
    · obtain ⟨bs, -, heq⟩ := Option.map_eq_some_iff.1 h
      cases heq
      exact trivial
  · -- a sign or a digit begins a number, and all else a token
    split at h
    · unfold number at h
      split at h <;> exact wellFormed_of_unsigned h
    · exact wellFormed_of_token h

theorem wellFormed_of_parameterValue {cs rest : List Char} {b : BareItem}
    (h : parameterValue cs = some (b, rest)) : b.WellFormed := by
  unfold parameterValue at h
  split at h
  · exact wellFormed_of_bareItem h
  · cases h
    exact trivial

theorem wellFormed_of_parametersFrom {before ps : Parameters} {bound : Nat} {cs rest : List Char}
    (hbefore : Parameters.WellFormed before)
    (h : parametersFrom before bound cs = some (ps, rest)) : Parameters.WellFormed ps := by
  fun_induction parametersFrom before bound cs with
  | case1 before bound cs ih =>
    -- the entry that is read goes among those read before, and the rest is read with it there
    simp only [Option.bind_eq_bind, Option.bind_eq_some_iff] at h
    obtain ⟨⟨k, cs'⟩, hk, ⟨b, cs''⟩, hb, h⟩ := h
    refine ih _ _ _ ?_ h
    exact OrderedMap.forall_mem_insert hbefore ⟨isKey_of_key hk, wellFormed_of_parameterValue hb⟩
  | case2 =>
    cases h
    exact hbefore

theorem wellFormed_of_parameters {cs rest : List Char} {ps : Parameters}
    (h : parameters cs = some (ps, rest)) : Parameters.WellFormed ps :=
  wellFormed_of_parametersFrom Parameters.all_empty h

theorem wellFormed_of_item {cs rest : List Char} {i : Item} (h : item cs = some (i, rest)) :
    i.WellFormed := by
  simp only [item, Option.bind_eq_bind, Option.bind_eq_some_iff] at h
  obtain ⟨⟨b, cs'⟩, hb, ⟨ps, cs''⟩, hps, heq⟩ := h
  cases heq
  exact ⟨wellFormed_of_bareItem hb, wellFormed_of_parameters hps⟩

theorem wellFormed_of_innerItems {bound : Nat} {cs rest : List Char} {items : List Item}
    (h : innerItems bound cs = some (items, rest)) : ∀ i ∈ items, i.WellFormed := by
  induction bound generalizing cs items with
  | zero => cases h
  | succ bound ih =>
    unfold innerItems at h
    split at h
    · -- the closing parenthesis ends the list
      cases h
      simp
    · -- an item is read, and a separator has to follow
      simp only [Option.bind_eq_bind, Option.bind_eq_some_iff] at h
      obtain ⟨⟨i, cs'⟩, hi, h⟩ := h
      split at h
      · obtain ⟨⟨more, cs''⟩, hmore, heq⟩ := Option.bind_eq_some_iff.1 h
        cases heq
        exact List.forall_mem_cons.2 ⟨wellFormed_of_item hi, ih hmore⟩
      · cases h

theorem wellFormed_of_member {cs rest : List Char} {m : Member} (h : member cs = some (m, rest)) :
    m.WellFormed := by
  unfold member at h
  split at h
  · -- an opening parenthesis
    simp only [Option.bind_eq_bind, Option.bind_eq_some_iff] at h
    obtain ⟨⟨items, cs'⟩, hitems, ⟨ps, cs''⟩, hps, heq⟩ := h
    cases heq
    exact ⟨wellFormed_of_innerItems hitems, wellFormed_of_parameters hps⟩
  · -- any other character begins an item
    obtain ⟨⟨i, cs'⟩, hi, heq⟩ := Option.map_eq_some_iff.1 h
    cases heq
    exact wellFormed_of_item hi

theorem wellFormed_of_membersFrom {bound : Nat} {cs : List Char} {ms : List Member}
    (h : membersFrom bound cs = some ms) : ∀ m ∈ ms, m.WellFormed := by
  induction bound generalizing cs ms with
  | zero => cases h
  | succ bound ih =>
    simp only [membersFrom, Option.bind_eq_bind, Option.bind_eq_some_iff] at h
    obtain ⟨⟨m, cs'⟩, hm, h⟩ := h
    have hfirst := wellFormed_of_member hm
    -- the end, a comma with another member, or anything else
    split at h
    · cases h
      simpa using hfirst
    · obtain ⟨more, hmore, heq⟩ := Option.bind_eq_some_iff.1 h
      cases heq
      exact List.forall_mem_cons.2 ⟨hfirst, ih hmore⟩
    · cases h

theorem wellFormed_of_dictionaryValue {cs rest : List Char} {m : Member}
    (h : dictionaryValue cs = some (m, rest)) : m.WellFormed := by
  unfold dictionaryValue at h
  split at h
  · exact wellFormed_of_member h
  · obtain ⟨⟨ps, cs'⟩, hps, heq⟩ := Option.map_eq_some_iff.1 h
    cases heq
    exact ⟨trivial, wellFormed_of_parameters hps⟩

theorem wellFormed_of_dictionaryFrom {before d : Dictionary} {bound : Nat} {cs : List Char}
    (hbefore : ∀ e ∈ before.entries, isKey e.1 = true ∧ e.2.WellFormed)
    (h : dictionaryFrom before bound cs = some d) :
    ∀ e ∈ d.entries, isKey e.1 = true ∧ e.2.WellFormed := by
  induction bound generalizing before cs with
  | zero => cases h
  | succ bound ih =>
    simp only [dictionaryFrom, Option.bind_eq_bind, Option.bind_eq_some_iff] at h
    obtain ⟨⟨k, cs'⟩, hk, ⟨m, cs''⟩, hm, h⟩ := h
    have hnext := OrderedMap.forall_mem_insert hbefore
      (show isKey (k, m).1 = true ∧ (k, m).2.WellFormed from
        ⟨isKey_of_key hk, wellFormed_of_dictionaryValue hm⟩)
    -- the end, a comma with another entry, or anything else
    split at h
    · cases h
      exact hnext
    · exact ih hnext h
    · cases h

end Parser

/-- **Reading a list** gives well-formed members. -/
theorem wellFormed_of_parseList {s : String} {ms : List Member} (h : parseList s = some ms) :
    ∀ m ∈ ms, m.WellFormed := by
  simp only [parseList, Option.bind_eq_bind, Option.bind_eq_some_iff] at h
  obtain ⟨cs, -, h⟩ := h
  split at h
  · cases h
    simp
  · exact Parser.wellFormed_of_membersFrom h

/-- **Reading a dictionary** gives keys and well-formed members. -/
theorem wellFormed_of_parseDictionary {s : String} {d : Dictionary}
    (h : parseDictionary s = some d) : ∀ e ∈ d.entries, isKey e.1 = true ∧ e.2.WellFormed := by
  simp only [parseDictionary, Option.bind_eq_bind, Option.bind_eq_some_iff] at h
  obtain ⟨cs, -, h⟩ := h
  split at h
  · cases h
    exact fun _ he => absurd he List.not_mem_nil
  · exact Parser.wellFormed_of_dictionaryFrom (fun _ he => absurd he List.not_mem_nil) h

/-! ### What printers make of well-formed values -/

theorem isPrintableChar_of_isLowerChar {c : Char} (h : isLowerChar c = true) :
    Text.isPrintableChar c = true := by
  have hcode := isLowerChar_iff.1 h
  rw [Text.isPrintableChar_iff]
  omega

theorem isPrintableChar_of_isUpperChar {c : Char} (h : isUpperChar c = true) :
    Text.isPrintableChar c = true := by
  have hcode := isUpperChar_iff.1 h
  rw [Text.isPrintableChar_iff]
  omega

theorem isPrintableChar_of_isKeyChar {c : Char} (h : isKeyChar c = true) :
    Text.isPrintableChar c = true := by
  simp only [isKeyChar, Bool.or_eq_true, beq_iff_eq] at h
  rcases h with ((((h | h) | rfl) | rfl) | rfl) | rfl
  · exact isPrintableChar_of_isLowerChar h
  · exact Text.isPrintableChar_of_isDigit h
  all_goals decide

theorem isPrintableChar_of_isTokenChar {c : Char} (h : isTokenChar c = true) :
    Text.isPrintableChar c = true := by
  have hsigns : "!#$%&'*+-.^_`|~".toList.all Text.isPrintableChar = true := by decide
  simp only [isTokenChar, Bool.or_eq_true, List.contains_iff_mem] at h
  rcases h with ((h | h) | h) | h
  · exact isPrintableChar_of_isLowerChar h
  · exact isPrintableChar_of_isUpperChar h
  · exact Text.isPrintableChar_of_isDigit h
  · exact List.all_eq_true.1 hsigns c h

theorem isPrintableChar_of_isTokenRest {c : Char} (h : isTokenRest c = true) :
    Text.isPrintableChar c = true := by
  simp only [isTokenRest, Bool.or_eq_true, beq_iff_eq] at h
  rcases h with (h | rfl) | rfl
  · exact isPrintableChar_of_isTokenChar h
  all_goals decide

theorem isKeyChar_of_isKeyStart {c : Char} (h : isKeyStart c = true) : isKeyChar c = true := by
  simp only [isKeyStart, Bool.or_eq_true] at h
  simp only [isKeyChar, Bool.or_eq_true]
  tauto

theorem isTokenRest_of_isTokenStart {c : Char} (h : isTokenStart c = true) :
    isTokenRest c = true := by
  have hstar : "!#$%&'*+-.^_`|~".toList.contains '*' = true := by decide
  simp only [isTokenStart, Bool.or_eq_true, beq_iff_eq] at h
  simp only [isTokenRest, isTokenChar, Bool.or_eq_true]
  rcases h with (h | h) | rfl <;> tauto

/-- A key is key characters throughout. -/
theorem all_isKeyChar_of_isKey {s : String} (h : isKey s = true) :
    s.toList.all isKeyChar = true := by
  obtain ⟨c, cs, heq, hstart, hrest⟩ := exists_cons_of_isKey h
  rw [heq, List.all_cons, isKeyChar_of_isKeyStart hstart, hrest]
  rfl

theorem isPrintable_of_isKey {s : String} (h : isKey s = true) : Text.isPrintable s = true :=
  List.all_eq_true.2 fun c hc =>
    isPrintableChar_of_isKeyChar (List.all_eq_true.1 (all_isKeyChar_of_isKey h) c hc)

theorem isPrintable_of_isToken {s : String} (h : isToken s = true) :
    Text.isPrintable s = true := by
  obtain ⟨c, cs, heq, hstart, hrest⟩ := exists_cons_of_isToken h
  refine List.all_eq_true.2 fun d hd => isPrintableChar_of_isTokenRest ?_
  rw [heq, List.mem_cons] at hd
  rcases hd with rfl | hd
  · exact isTokenRest_of_isTokenStart hstart
  · exact List.all_eq_true.1 hrest d hd

/-- Escaping leaves every character in place and adds backslashes only. -/
theorem all_escape {p : Char → Bool} (hp : p '\\' = true) (cs : List Char) :
    (escape cs).all p = cs.all p := by
  induction cs with
  | nil => rfl
  | cons c cs ih =>
    simp only [escape]
    split <;> simp [ih, hp]

@[simp] theorem isPrintable_quoted (s : String) :
    Text.isPrintable (quoted s) = Text.isPrintable s := by
  have hquote : Text.isPrintable "\"" = true := by decide
  rw [quoted, Text.isPrintable_append, Text.isPrintable_append, hquote, Text.isPrintable_ofList,
    all_escape (by decide)]
  simp [Text.isPrintable]

theorem isPrintable_base64 (bs : List UInt8) : Text.isPrintable (Base64.encode bs) = true := by
  rw [Base64.encode, Text.isPrintable_ofList, List.all_eq_true]
  exact Base64.forall_mem_encodeChars (P := fun c => Text.isPrintableChar c = true)
    (by decide) (by decide) bs

theorem isPrintable_octetsText (bs : List UInt8) : Text.isPrintable (octetsText bs) = true := by
  have hcolon : Text.isPrintable ":" = true := by decide
  rw [octetsText, Text.isPrintable_append, Text.isPrintable_append, hcolon, isPrintable_base64]
  rfl

theorem isPrintable_decimalText (d : Decimal) : Text.isPrintable d.text = true := by
  -- the parts of the text, one after the other
  have hsign : Text.isPrintable (if d.negative then "-" else "") = true := by
    split <;> decide
  have hwhole : Text.isPrintable d.wholeText = true := by
    rw [Decimal.wholeText, Text.isPrintable_append, hsign, Text.isPrintable_repr]
    rfl
  have hfraction : Text.isPrintable d.fractionDigits = true := by
    have hzeros : ∀ k : Nat, (List.replicate k '0').all Text.isPrintableChar = true := fun k =>
      List.all_eq_true.2 fun c hc => List.eq_of_mem_replicate hc ▸ by decide
    simp only [Decimal.fractionDigits, Text.isPrintable_append, Text.isPrintable_ofList, hzeros,
      Text.isPrintable_repr, Bool.and_self]
  have hpoint : Text.isPrintable "." = true ∧ Text.isPrintable ".0" = true := by decide
  unfold Decimal.text
  split
  · rw [Text.isPrintable_append, hwhole, hpoint.2]
    rfl
  · rw [Decimal.fullText, Text.isPrintable_append, Text.isPrintable_append, hwhole, hpoint.1,
      hfraction]
    rfl

theorem integerText_natCast (n : Nat) : integerText n = n.repr := by
  rw [integerText, if_neg (Int.not_lt.2 (Int.natCast_nonneg n)), Int.natAbs_natCast]

theorem isPrintable_integerText (n : Int) : Text.isPrintable (integerText n) = true := by
  have hsign : Text.isPrintable "-" = true := by decide
  unfold integerText
  split
  · rw [Text.isPrintable_append, hsign, Text.isPrintable_repr]
    rfl
  · exact Text.isPrintable_repr _

/-- **Printable bare item.** An integer is printable even if it is too large to be read again, so
this asks for less than being well-formed. -/
def BareItem.Printable (b : BareItem) : Prop :=
  Text.isPrintable b.text = true

theorem BareItem.WellFormed.printable {b : BareItem} (h : b.WellFormed) : b.Printable := by
  cases b with
  | integer n => exact isPrintable_integerText n
  | decimal d => exact isPrintable_decimalText d
  | string s => exact (isPrintable_quoted s).trans h
  | token s => exact isPrintable_of_isToken h
  | octets bs => exact isPrintable_octetsText bs
  | boolean b =>
    unfold BareItem.Printable
    cases b <;> decide

theorem isPrintable_parametersText {ps : Parameters} (h : Parameters.All BareItem.Printable ps) :
    Text.isPrintable (parametersText ps) = true := by
  have hsigns : Text.isPrintable ";" = true ∧ Text.isPrintable "=" = true := by decide
  -- each parameter has a key, and a value behind an equals sign unless the value is true
  refine Text.isPrintable_join fun s hs => ?_
  obtain ⟨⟨k, b⟩, he, rfl⟩ := List.mem_map.1 hs
  obtain ⟨hk, hb⟩ := h _ he
  have hvalue : Text.isPrintable b.text = true := hb
  simp only [parameterText]
  split <;> simp only [Text.isPrintable_append, hsigns.1, hsigns.2, isPrintable_of_isKey hk,
    hvalue, Bool.and_self]

theorem isPrintable_itemText {i : Item} (h : i.All BareItem.Printable) :
    Text.isPrintable i.text = true := by
  have hbare : Text.isPrintable i.bare.text = true := h.bare
  rw [Item.text, Text.isPrintable_append, hbare, isPrintable_parametersText h.parameters]
  rfl

/-- **Printable members.** The text of a member is printable if the text of every bare item in it
is. -/
theorem isPrintable_memberText {m : Member} (h : m.All BareItem.Printable) :
    Text.isPrintable m.text = true := by
  have hsigns : Text.isPrintable "(" = true ∧ Text.isPrintable ")" = true
      ∧ Text.isPrintable " " = true := by decide
  cases m with
  | item i => exact isPrintable_itemText h
  | innerList items ps =>
    have hitems : Text.isPrintable (" ".intercalate (items.map Item.text)) = true := by
      refine Text.isPrintable_intercalate hsigns.2.2 fun s hs => ?_
      obtain ⟨i, hi, rfl⟩ := List.mem_map.1 hs
      exact isPrintable_itemText (h.1 i hi)
    simp only [Member.text, Text.isPrintable_append, hsigns.1, hsigns.2.1, hitems,
      isPrintable_parametersText h.2, Bool.and_self]

end StructuredField

end MessageSignatures
