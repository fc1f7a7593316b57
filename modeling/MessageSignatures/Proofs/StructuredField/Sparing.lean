import MessageSignatures.Proofs.StructuredField.Remainder
import MessageSignatures.Proofs.StructuredField.RoundTrip

/-!
# Readers on two texts

A text may be read in two forms that differ in places where no reader looks closely: white space is
left out, or something comes behind a comma. This is told by a relation between what is left to read
on either side. A relation is **sparing** (`Parser.Sparing`) if it leaves alone every character that
is neither white space nor a comma.

A reader **respects** a relation (`Parser.Respects`) if it reads one text whenever it reads the
other, with the same value as far as a function tells, and leaves related rests. The statement goes
reader by reader, from keys to the members of dictionaries
(`Parser.Sparing.respects_dictionaryValue`). Two facts carry it through:

* keys, tokens, numbers and octets hold neither white space nor commas, so they are the same;
* where white space is passed over, what follows is none, since something is read there.

What becomes of strings, and where an item of a list ends, is for each relation to say.
-/

namespace MessageSignatures

open Text (isBlank)

namespace StructuredField

namespace Parser

variable {α β : Type} {cs ds rest : List Char}

/-! ### Characters that are no white space -/

/-- A class of printable characters without the space has no white space in it. -/
theorem isBlank_eq_false {p : Char → Bool} (hp : ∀ c, p c = true → Text.isPrintableChar c = true)
    (hspace : p ' ' = false) {c : Char} (hc : p c = true) : isBlank c = false :=
  Text.isBlank_eq_false_of_isPrintableChar (hp c hc) (Text.ne_of_test hc hspace)

theorem isBlank_of_isKeyChar {c : Char} (h : isKeyChar c = true) : isBlank c = false :=
  isBlank_eq_false (fun _ => isPrintableChar_of_isKeyChar) rfl h

theorem isBlank_of_isTokenRest {c : Char} (h : isTokenRest c = true) : isBlank c = false :=
  isBlank_eq_false (fun _ => isPrintableChar_of_isTokenRest) rfl h

theorem isBlank_of_isDigit {c : Char} (h : c.isDigit = true) : isBlank c = false :=
  isBlank_eq_false (fun _ => Text.isPrintableChar_of_isDigit) rfl h

/-- Base64 has no white space in it. -/
theorem isBlank_of_decodeLoose {bs : List UInt8} (h : Base64.decodeLoose cs = some bs) :
    ∀ c ∈ cs, isBlank c = false := by
  intro c hc
  -- the sign that fills up is no blank, and the symbols with a number are printable
  rcases Base64.forall_mem_of_decodeLoose h c hc with rfl | ⟨n, hn⟩
  · rfl
  · have hspace : c ≠ ' ' := by
      rintro rfl
      cases hn
    refine Text.isBlank_eq_false_of_isPrintableChar ?_ hspace
    unfold Base64.value? at hn
    -- one range of characters after the other
    split at hn
    · next hupper => exact isPrintableChar_of_isUpperChar hupper
    · split at hn
      · next hlower => exact isPrintableChar_of_isLowerChar hlower
      · split at hn
        · next hdigit => exact Text.isPrintableChar_of_isDigit hdigit
        · split at hn
          · next hplus => rw [hplus]; rfl
          · split at hn
            · next hslash => rw [hslash]; rfl
            · cases hn

theorem isBlank_head_of_eq_cons {c : Char} (h : cs = c :: rest) (hc : isBlank c = false) :
    ∀ d ∈ cs.head?, isBlank d = false := by
  intro d hd
  rw [h] at hd
  obtain rfl := Option.some.inj hd
  exact hc

theorem isBlank_head_of_eq_nil (h : cs = []) : ∀ d ∈ cs.head?, isBlank d = false := by
  intro d hd
  rw [h] at hd
  cases hd

theorem isBlank_head_of_key {k : String} (h : key cs = some (k, rest)) :
    ∀ c ∈ cs.head?, isBlank c = false := by
  cases cs with
  | nil => cases h
  | cons c cs =>
    simp only [key] at h
    split at h
    · next hc =>
        exact isBlank_head_of_eq_cons rfl (isBlank_of_isKeyChar (isKeyChar_of_isKeyStart hc))
    · cases h

theorem isBlank_head_of_bareItem {b : BareItem} (h : bareItem cs = some (b, rest)) :
    ∀ c ∈ cs.head?, isBlank c = false := by
  unfold bareItem at h
  split at h
  · cases h
  · exact isBlank_head_of_eq_cons rfl rfl
  -- a mark of one character tells the kind, and is no blank
  · exact isBlank_head_of_eq_cons rfl rfl
  · exact isBlank_head_of_eq_cons rfl rfl
  · next c cs' _ _ _ =>
    refine isBlank_head_of_eq_cons rfl ?_
    split at h
    · next hnumber =>
      rw [Bool.or_eq_true, beq_iff_eq] at hnumber
      rcases hnumber with rfl | hdigit
      · rfl
      · exact isBlank_of_isDigit hdigit
    · -- a token begins here
      simp only [token] at h
      split at h
      · next hstart => exact isBlank_of_isTokenRest (isTokenRest_of_isTokenStart hstart)
      · cases h

theorem isBlank_head_of_item {i : Item} (h : item cs = some (i, rest)) :
    ∀ c ∈ cs.head?, isBlank c = false := by
  simp only [item, Option.bind_eq_bind, Option.bind_eq_some_iff] at h
  obtain ⟨⟨b, cs'⟩, hb, -⟩ := h
  exact isBlank_head_of_bareItem hb

/-! ### Sparing relations -/

/-- **Respecting a relation.** On a related text a reader reads the same, as far as `f` tells, and
leaves a related rest. -/
def Respects (R : List Char → List Char → Prop) (read : List Char → Option (α × List Char))
    (f : α → β) : Prop :=
  ∀ ⦃cs ds : List Char⦄ ⦃a : α⦄ ⦃rest : List Char⦄, read cs = some (a, rest) → R cs ds →
    ∃ a' rest', read ds = some (a', rest') ∧ f a' = f a ∧ R rest rest'

/-- **Sparing relation.** Characters that are neither white space nor commas stay in their place,
and nothing but white space and what is behind a comma comes or goes. The contents of strings are
the same as far as `f` tells. -/
structure Sparing (R : List Char → List Char → Prop) (f : BareItem → BareItem) : Prop where
  cons : ∀ {c : Char} {cs ds : List Char}, R (c :: cs) ds → isBlank c = false →
    ∃ ds', ds = c :: ds' ∧ R cs ds'
  cons_right : ∀ {c : Char} {cs ds : List Char}, R cs (c :: ds) → c ≠ ' ' → c ≠ ',' →
    ∃ cs', cs = c :: cs' ∧ R cs' ds
  run : ∀ {p : Char → Bool} {cs ds : List Char}, R cs ds → (∀ c, p c = true → isBlank c = false) →
    p ',' = false → ds.takeWhile p = cs.takeWhile p ∧ R (cs.dropWhile p) (ds.dropWhile p)
  skip : ∀ {p : Char → Bool} {cs ds : List Char}, R cs ds → p ' ' = true → p ',' = false →
    (∀ c ∈ (cs.dropWhile p).head?, isBlank c = false) → R (cs.dropWhile p) (ds.dropWhile p)
  ends : ∀ {cs ds : List Char} {bound : Nat} {more : List Item × List Char}, endsItem cs = true →
    innerItems bound ds = some more → R cs ds → endsItem ds = true
  string : Respects R stringBody fun s => f (.string (String.ofList s))

variable {R : List Char → List Char → Prop} {f : BareItem → BareItem}

/-- A text without white space stays in front of whatever follows it. -/
theorem Sparing.append (hR : Sparing R f) {xs : List Char} (h : R (xs ++ cs) ds)
    (hxs : ∀ c ∈ xs, isBlank c = false) : ∃ ds', ds = xs ++ ds' ∧ R cs ds' := by
  induction xs generalizing ds with
  | nil => exact ⟨ds, rfl, h⟩
  | cons c xs ih =>
    obtain ⟨hc, hxs⟩ := List.forall_mem_cons.1 hxs
    obtain ⟨ds', rfl, htail⟩ := hR.cons h hc
    obtain ⟨ds'', rfl, hrest⟩ := ih htail hxs
    exact ⟨ds'', rfl, hrest⟩

/-! ### Bare items -/

theorem Sparing.respects_key (hR : Sparing R f) : Respects R key id := by
  intro cs ds k rest h hs
  cases cs with
  | nil => cases h
  | cons c cs =>
    simp only [key] at h
    split at h
    · next hc =>
      cases h
      -- the first character is none that may be left out, and the run behind it is kept whole
      obtain ⟨ds', rfl, hs'⟩ := hR.cons hs (isBlank_of_isKeyChar (isKeyChar_of_isKeyStart hc))
      obtain ⟨htake, hdrop⟩ := hR.run hs' (fun _ => isBlank_of_isKeyChar) rfl
      refine ⟨_, _, by rw [key, if_pos hc], ?_, hdrop⟩
      rw [htake]
    · cases h

theorem Sparing.respects_token (hR : Sparing R f) : Respects R token id := by
  intro cs ds b rest h hs
  cases cs with
  | nil => cases h
  | cons c cs =>
    simp only [token] at h
    split at h
    · next hc =>
      cases h
      -- as with keys, the run behind the first character is kept whole
      obtain ⟨ds', rfl, hs'⟩ :=
        hR.cons hs (isBlank_of_isTokenRest (isTokenRest_of_isTokenStart hc))
      obtain ⟨htake, hdrop⟩ := hR.run hs' (fun _ => isBlank_of_isTokenRest) rfl
      refine ⟨_, _, token_cons hc ds', ?_, hdrop⟩
      exact congrArg (fun cs => BareItem.token (String.ofList (c :: cs))) htake
    · cases h

theorem Sparing.respects_octets (hR : Sparing R f) : Respects R octets id := by
  intro cs ds b rest h hs
  have hsplit := List.takeWhile_append_dropWhile (p := (· != ':')) (l := cs)
  have hcolon := List.head?_dropWhile_not (· != ':') cs
  have hsymbols : (cs.takeWhile (· != ':')).all (· != ':') = true := List.all_takeWhile
  unfold octets at h
  split at h
  · cases h
  · next c rest' hdrop =>
    obtain ⟨bs, hbs, heq⟩ := Option.map_eq_some_iff.1 h
    cases heq
    rw [hdrop] at hsplit hcolon
    obtain rfl : c = ':' := by simpa using hcolon
    -- the symbols stay, and so does the colon behind them
    rw [← hsplit] at hs
    obtain ⟨ds', rfl, hs'⟩ := hR.append hs (isBlank_of_decodeLoose hbs)
    obtain ⟨ds'', rfl, hs''⟩ := hR.cons hs' rfl
    refine ⟨.octets bs, ds'', ?_, rfl, hs''⟩
    rw [octets_append hsymbols, hbs, Option.map_some]

theorem Sparing.respects_unsigned (hR : Sparing R f) (negative : Bool) :
    Respects R (unsigned negative) id := by
  intro cs ds b rest h hs
  obtain ⟨htake, hdrop⟩ := hR.run (p := Char.isDigit) hs (fun _ => isBlank_of_isDigit) rfl
  simp only [unsigned] at h ⊢
  rw [htake]
  -- as before, behind the digits stands the end, a point or something else
  split at h
  · cases h
  · next rest' hrest hne =>
    obtain ⟨d, digits, hwhole⟩ := List.exists_cons_of_ne_nil hne
    rw [hrest] at hdrop
    obtain ⟨ds', hds, hs'⟩ := hR.cons hdrop rfl
    -- the point stays in its place, and the digits behind it stay too
    obtain ⟨htake', hdrop'⟩ := hR.run (p := Char.isDigit) hs' (fun _ => isBlank_of_isDigit) rfl
    split at h
    · next hlengths =>
      cases h
      rw [hwhole, ← htake'] at hlengths ⊢
      rw [hds]
      exact ⟨_, _, if_pos hlengths, rfl, hdrop'⟩
    · cases h
  · next hne hpoint =>
    obtain ⟨d, digits, hwhole⟩ := List.exists_cons_of_ne_nil hne
    -- a point behind the digits would have been there before
    have hpoint' : ∀ ds', ds.dropWhile Char.isDigit ≠ '.' :: ds' := by
      intro ds' hds
      rw [hds] at hdrop
      obtain ⟨cs', hcs, -⟩ := hR.cons_right hdrop (by decide) (by decide)
      exact hpoint cs' hcs
    split at h
    · next hlength =>
      cases h
      rw [hwhole] at hlength ⊢
      refine ⟨_, _, ?_, rfl, hdrop⟩
      split
      · next hnil => cases hnil
      · next hds _ => exact absurd hds (hpoint' _)
      · exact if_pos hlength
    · cases h

theorem Sparing.respects_number (hR : Sparing R f) : Respects R number id := by
  intro cs ds b rest h hs
  unfold number at h
  -- a sign in front stays there, and no other can have come to the front
  split at h
  · obtain ⟨ds', rfl, hs'⟩ := hR.cons hs rfl
    exact hR.respects_unsigned true h hs'
  · next hminus =>
    obtain ⟨b', rest', hread, hb, hrest⟩ := hR.respects_unsigned false h hs
    refine ⟨b', rest', ?_, hb, hrest⟩
    unfold number
    split
    · -- the sign would have been there before
      obtain ⟨cs', rfl, -⟩ := hR.cons_right hs (by decide) (by decide)
      exact absurd rfl (hminus cs')
    · exact hread

theorem Sparing.respects_boolean (hR : Sparing R f) : Respects R boolean id := by
  intro cs ds b rest h hs
  unfold boolean at h
  split at h
  · cases h
    obtain ⟨ds', rfl, hs'⟩ := hR.cons hs rfl
    exact ⟨_, ds', rfl, rfl, hs'⟩
  · cases h
    obtain ⟨ds', rfl, hs'⟩ := hR.cons hs rfl
    exact ⟨_, ds', rfl, rfl, hs'⟩
  · cases h

/-- What is read as the same is the same as far as anything tells. -/
theorem Respects.of_id {read : List Char → Option (α × List Char)} (h : Respects R read id)
    (f : α → β) : Respects R read f := by
  intro cs ds a rest hread hs
  obtain ⟨a', rest', hread', ha, hrest⟩ := h hread hs
  exact ⟨a', rest', hread', congrArg f ha, hrest⟩

/-- **Bare items** of every kind but one are the same, and that is left to `f`. -/
theorem Sparing.respects_bareItem (hR : Sparing R f) : Respects R bareItem f := by
  intro cs ds b rest h hs
  unfold bareItem at h
  -- the first character stays, and so the kind is the same
  split at h
  · cases h
  · obtain ⟨ds', rfl, hs'⟩ := hR.cons hs rfl
    exact hR.respects_boolean.of_id _ h hs'
  · obtain ⟨⟨s, rest⟩, hstring, heq⟩ := Option.map_eq_some_iff.1 h
    cases heq
    obtain ⟨ds', rfl, hs'⟩ := hR.cons hs rfl
    obtain ⟨s', rest', hread, hs, hrest⟩ := hR.string hstring hs'
    refine ⟨.string (String.ofList s'), rest', ?_, hs, hrest⟩
    exact Option.map_eq_some_iff.2 ⟨_, hread, rfl⟩
  · obtain ⟨ds', rfl, hs'⟩ := hR.cons hs rfl
    exact hR.respects_octets.of_id _ h hs'
  -- without a mark of its own, a number or a token begins here
  · next c cs hquestion hquote hcolon =>
    have hread : bareItem (c :: cs) = some (b, rest) := by
      rw [bareItem_cons hquestion hquote hcolon, h]
    obtain ⟨ds', rfl, -⟩ := hR.cons hs (isBlank_head_of_bareItem hread c rfl)
    rw [bareItem_cons hquestion hquote hcolon]
    split at h
    · next hnumber =>
      rw [if_pos hnumber]
      exact hR.respects_number.of_id _ h hs
    · next htoken =>
      rw [if_neg htoken]
      exact hR.respects_token.of_id _ h hs

/-! ### Parameters and items -/

theorem Sparing.respects_parameterValue (hR : Sparing R f) : Respects R parameterValue f := by
  intro cs ds b rest h hs
  unfold parameterValue at h
  -- an equals sign stays in its place
  split at h
  · obtain ⟨ds', rfl, hs'⟩ := hR.cons hs rfl
    exact hR.respects_bareItem h hs'
  · next hequals =>
    cases h
    refine ⟨.boolean true, ds, ?_, rfl, hs⟩
    unfold parameterValue
    -- an equals sign would have been there before
    split
    · obtain ⟨cs', rfl, -⟩ := hR.cons_right hs (by decide) (by decide)
      exact absurd rfl (hequals cs')
    · rfl

/-- Parameters are read as before, behind others that are the same as far as `f` tells. The bounds
have to be large enough, since the two texts have different lengths. -/
theorem Sparing.exists_parametersFrom (hR : Sparing R f) {before before' ps : Parameters}
    {bound bound' : Nat} (hbefore : before'.map f = before.map f)
    (hbound : cs.length ≤ bound) (hbound' : ds.length ≤ bound')
    (h : parametersFrom before bound cs = some (ps, rest)) (hs : R cs ds) :
    ∃ ps' rest', parametersFrom before' bound' ds = some (ps', rest')
      ∧ ps'.map f = ps.map f ∧ R rest rest' := by
  fun_induction parametersFrom before bound cs generalizing before' bound' ds with
  | case1 before bound cs ih =>
    obtain ⟨ds', rfl, hs'⟩ := hR.cons hs rfl
    obtain ⟨bound', rfl⟩ := Nat.exists_eq_succ_of_ne_zero (Nat.ne_zero_of_lt hbound')
    simp only [Option.bind_eq_bind, Option.bind_eq_some_iff] at h
    obtain ⟨⟨k, cs₁⟩, hk, ⟨b, cs₂⟩, hb, h⟩ := h
    -- the same key is read on both sides, and values that are alike
    have hspaces : R (skipSpaces cs) (skipSpaces ds') :=
      hR.skip hs' rfl rfl (isBlank_head_of_key hk)
    obtain ⟨k', ds₁, hk', rfl, hs₁⟩ := hR.respects_key hk hspaces
    obtain ⟨b', ds₂, hb', hvalue', hs₂⟩ := hR.respects_parameterValue hb hs₁
    -- what is left grows shorter on both sides, so the bounds suffice for it
    have hlength : cs₂.length ≤ bound := by
      have hskip := length_skipSpaces_le cs
      have hkey : cs₁.length < (skipSpaces cs).length := length_lt_of_key hk
      have hvalue : cs₂.length ≤ cs₁.length := length_le_of_parameterValue hb
      rw [List.length_cons] at hbound
      omega
    have hlength' : ds₂.length ≤ bound' := by
      have hskip := length_skipSpaces_le ds'
      have hkey := length_lt_of_key hk'
      have hvalue := length_le_of_parameterValue hb'
      rw [List.length_cons] at hbound'
      omega
    -- the new parameter is the same as far as `f` tells, and so are those read before
    have hinsert : (before'.insert k' b').map f
        = (before.insert k' b).map f := by
      rw [OrderedMap.map_insert, OrderedMap.map_insert, hbefore, hvalue']
    obtain ⟨ps', rest', hread, hps, hrest⟩ := ih k' b cs₂ hinsert hlength hlength' h hs₂
    refine ⟨ps', rest', ?_, hps, hrest⟩
    simp only [parametersFrom, Option.bind_eq_bind, hk', hb', Option.bind_some]
    exact hread
  | case2 before bound cs hno =>
    cases h
    refine ⟨before', ds, ?_, hbefore, hs⟩
    unfold parametersFrom
    split
    · next bound' ds =>
      -- a semicolon would have been there before, and the bound was large enough to see it
      obtain ⟨cs', rfl, -⟩ := hR.cons_right hs (by decide) (by decide)
      obtain ⟨bound, rfl⟩ := Nat.exists_eq_succ_of_ne_zero (Nat.ne_zero_of_lt hbound)
      exact absurd rfl (hno bound cs' rfl)
    · rfl

theorem Sparing.respects_parameters (hR : Sparing R f) :
    Respects R parameters (OrderedMap.map f) := by
  intro cs ds ps rest h hs
  exact hR.exists_parametersFrom rfl (le_refl _) (le_refl _) h hs

theorem Sparing.respects_item (hR : Sparing R f) : Respects R item (Item.map f) := by
  intro cs ds i rest h hs
  simp only [item, Option.bind_eq_bind, Option.bind_eq_some_iff] at h
  obtain ⟨⟨b, cs'⟩, hb, ⟨ps, cs''⟩, hps, heq⟩ := h
  cases heq
  -- value and parameters are read alike, one after the other
  obtain ⟨b', ds', hb', hbare, hs'⟩ := hR.respects_bareItem hb hs
  obtain ⟨ps', rest', hps', hparameters, hrest⟩ := hR.respects_parameters hps hs'
  refine ⟨⟨b', ps'⟩, rest', ?_, ?_, hrest⟩
  · simp only [item, Option.bind_eq_bind, hb', hps', Option.bind_some]
    rfl
  · rw [Item.map, Item.map, hbare, hparameters]

/-! ### Members -/

/-- The items of an inner list are read as before, up to the closing parenthesis. -/
theorem Sparing.exists_innerItems (hR : Sparing R f) {bound bound' : Nat} {items : List Item}
    (hbound' : ds.length < bound') (h : innerItems bound cs = some (items, rest))
    (hs : R cs ds) :
    ∃ items' rest', innerItems bound' ds = some (items', rest')
      ∧ items'.map (Item.map f) = items.map (Item.map f)
      ∧ R rest rest' := by
  induction bound generalizing cs ds bound' items with
  | zero => cases h
  | succ bound ih =>
    obtain ⟨bound', rfl⟩ := Nat.exists_eq_succ_of_ne_zero (Nat.ne_zero_of_lt hbound')
    unfold innerItems at h
    -- either the list is closed here, or an item stands here
    split at h
    · next rest' hclose =>
      cases h
      have hspaces : R (skipSpaces cs) (skipSpaces ds) :=
        hR.skip hs rfl rfl (isBlank_head_of_eq_cons hclose rfl)
      rw [hclose] at hspaces
      obtain ⟨ds', hds, hs'⟩ := hR.cons hspaces rfl
      refine ⟨[], ds', ?_, rfl, hs'⟩
      unfold innerItems
      rw [hds]
      rfl
    · next hopen =>
      simp only [Option.bind_eq_bind, Option.bind_eq_some_iff] at h
      obtain ⟨⟨i, cs'⟩, hi, h⟩ := h
      split at h
      · next hends =>
        obtain ⟨⟨more, cs''⟩, hmore, heq⟩ := Option.bind_eq_some_iff.1 h
        cases heq
        have hspaces : R (skipSpaces cs) (skipSpaces ds) :=
          hR.skip hs rfl rfl (isBlank_head_of_item hi)
        obtain ⟨i', ds', hi', hitem, hs'⟩ := hR.respects_item hi hspaces
        have hlength : ds'.length < bound' := by
          have hskip := length_skipSpaces_le ds
          have hlt := length_lt_of_item hi'
          omega
        obtain ⟨more', rest', hmore', hitems, hrest⟩ := ih hlength hmore hs'
        refine ⟨i' :: more', rest', ?_, ?_, hrest⟩
        -- what ends the item on one side ends it on the other
        · have hends' := hR.ends hends hmore' hs'
          unfold innerItems
          split
          -- a closing parenthesis would have been there before
          · next ds'' hclose =>
            rw [hclose] at hspaces
            obtain ⟨cs₁, hcs₁, -⟩ := hR.cons_right hspaces (by decide) (by decide)
            exact absurd hcs₁ (hopen cs₁)
          · simp only [Option.bind_eq_bind, hi', hends', if_true, hmore', Option.bind_some]
            rfl
        · rw [List.map_cons, List.map_cons, hitem, hitems]
      · cases h

theorem Sparing.respects_member (hR : Sparing R f) : Respects R member (Member.map f) := by
  intro cs ds m rest h hs
  unfold member at h
  -- the opening parenthesis stays in its place
  split at h
  · simp only [Option.bind_eq_bind, Option.bind_eq_some_iff] at h
    obtain ⟨⟨items, cs'⟩, hitems, ⟨ps, cs''⟩, hps, heq⟩ := h
    cases heq
    obtain ⟨ds', rfl, hs'⟩ := hR.cons hs rfl
    obtain ⟨items', ds'', hitems', hmap, hs''⟩ :=
      hR.exists_innerItems (Nat.lt_succ_self ds'.length) hitems hs'
    obtain ⟨ps', rest', hps', hparameters, hrest⟩ := hR.respects_parameters hps hs''
    refine ⟨.innerList items' ps', rest', ?_, ?_, hrest⟩
    · simp only [member, Option.bind_eq_bind, hitems', hps', Option.bind_some]
      rfl
    · rw [Member.map, Member.map, hmap, hparameters]
  · next hopen =>
    obtain ⟨⟨i, cs'⟩, hi, heq⟩ := Option.map_eq_some_iff.1 h
    cases heq
    obtain ⟨i', rest', hi', hitem, hrest⟩ := hR.respects_item hi hs
    refine ⟨.item i', rest', ?_, congrArg Member.item hitem, hrest⟩
    unfold member
    -- a parenthesis would have been there before
    split
    · obtain ⟨cs', rfl, -⟩ := hR.cons_right hs (by decide) (by decide)
      exact absurd rfl (hopen cs')
    · rw [hi']
      rfl

theorem Sparing.respects_dictionaryValue (hR : Sparing R f) :
    Respects R dictionaryValue (Member.map f) := by
  intro cs ds m rest h hs
  unfold dictionaryValue at h
  -- the equals sign stays in its place
  split at h
  · obtain ⟨ds', rfl, hs'⟩ := hR.cons hs rfl
    exact hR.respects_member h hs'
  · next hequals =>
    obtain ⟨⟨ps, cs'⟩, hps, heq⟩ := Option.map_eq_some_iff.1 h
    cases heq
    obtain ⟨ps', rest', hps', hparameters, hrest⟩ := hR.respects_parameters hps hs
    refine ⟨.item ⟨.boolean true, ps'⟩, rest', ?_, ?_, hrest⟩
    · unfold dictionaryValue
      -- an equals sign would have been there before
      split
      · obtain ⟨cs', rfl, -⟩ := hR.cons_right hs (by decide) (by decide)
        exact absurd rfl (hequals cs')
      · rw [hps']
        rfl
    · rw [Member.map, Member.map, Item.map, Item.map, hparameters]

end Parser

end StructuredField

end MessageSignatures
