import MessageSignatures.Proofs.StructuredField.WellFormed

/-!
# Reading structured fields that were written

The readers undo the printers on **canonical** values, the well-formed ones that are written with
all that was read of them (`BareItem.Canonical`). A decimal such as `1.00` is well-formed and not
canonical: it is written `1.0`.

Readers take the characters that are left, so each statement has an arbitrary `rest` behind the
written text. What it may begin with is said by `Parser.AfterValue` (a bare item ends here) and
`Parser.AfterItem` (an item with its parameters ends here).

* `Parser.bareItem_text`, `Parser.parameters_text`, `Parser.innerItems_text`,
  `Parser.member_text` — one statement for each layer of the grammar;
* `parseDictionary_dictionaryText` — a dictionary of canonical members, joined by commas, is read as
  the entries it was written from; `parseItem_text` — so is an item by itself.
-/

namespace MessageSignatures

namespace StructuredField

/-- **Canonical bare item.** Well-formed; and a decimal whose fraction is zero has a single digit
after the point. -/
def BareItem.Canonical (b : BareItem) : Prop :=
  b.WellFormed ∧ ∀ d, b = .decimal d → d.coefficient % 10 ^ d.scale = 0 → d.scale = 1

theorem BareItem.Canonical.printable {b : BareItem} (h : b.Canonical) : b.Printable :=
  h.1.printable

/-- A printable string is canonical. -/
theorem BareItem.canonical_string {s : String} (h : Text.isPrintable s = true) :
    (BareItem.string s).Canonical :=
  ⟨h, nofun⟩

/-- **Canonical member.** -/
abbrev Member.Canonical (m : Member) : Prop :=
  m.All BareItem.Canonical

namespace Parser

variable {rest : List Char}

/-! ### Runs of characters -/

/-- What follows a run of characters that satisfy `p`. -/
def Stops (p : Char → Bool) (rest : List Char) : Prop :=
  ∀ c ∈ rest.head?, p c = false

theorem stops_cons {p : Char → Bool} {c : Char} (h : p c = false) : Stops p (c :: rest) := by
  intro d hd
  obtain rfl : c = d := by simpa using hd
  exact h

theorem takeWhile_append {p : Char → Bool} {cs : List Char} (hcs : cs.all p = true)
    (hrest : Stops p rest) : (cs ++ rest).takeWhile p = cs := by
  rw [List.takeWhile_append_of_pos (List.all_eq_true.1 hcs)]
  cases rest with
  | nil => simp
  | cons c rest => simp [hrest c rfl]

theorem dropWhile_append {p : Char → Bool} {cs : List Char} (hcs : cs.all p = true)
    (hrest : Stops p rest) : (cs ++ rest).dropWhile p = rest := by
  rw [List.dropWhile_append_of_pos (List.all_eq_true.1 hcs)]
  cases rest with
  | nil => rfl
  | cons c rest => exact List.dropWhile_cons_of_neg (by simp [hrest c rfl])

/-- **After a value.** A bare item ends before spaces, a comma, a semicolon, a closing parenthesis,
and at the end of the text. -/
def AfterValue (rest : List Char) : Prop :=
  ∀ c ∈ rest.head?, c ∈ [' ', '\t', ',', ';', ')']

/-- **After an item.** An item with its parameters ends there too, except before a semicolon. -/
def AfterItem (rest : List Char) : Prop :=
  ∀ c ∈ rest.head?, c ∈ [' ', '\t', ',', ')']

theorem AfterItem.afterValue (h : AfterItem rest) : AfterValue rest := by
  intro c hc
  have := h c hc
  simp only [List.mem_cons, List.not_mem_nil, or_false] at this ⊢
  tauto

theorem AfterValue.stops {p : Char → Bool} (h : AfterValue rest)
    (hp : [' ', '\t', ',', ';', ')'].all (fun c => !p c) = true) : Stops p rest := by
  intro c hc
  simpa using List.all_eq_true.1 hp c (h c hc)

theorem afterValue_cons {c : Char} (h : c ∈ [' ', '\t', ',', ';', ')']) :
    AfterValue (c :: rest) := by
  rintro d hd
  obtain rfl : c = d := by simpa using hd
  exact h

theorem afterItem_cons {c : Char} (h : c ∈ [' ', '\t', ',', ')']) : AfterItem (c :: rest) := by
  rintro d hd
  obtain rfl : c = d := by simpa using hd
  exact h

theorem afterItem_nil : AfterItem [] := by
  rintro c ⟨⟩

/-! ### Keys, strings, tokens and octets -/

theorem key_append {k : String} (hk : isKey k = true) (hrest : Stops isKeyChar rest) :
    key (k.toList ++ rest) = some (k, rest) := by
  obtain ⟨c, cs, heq, hstart, hcs⟩ := exists_cons_of_isKey hk
  rw [heq, List.cons_append, key, if_pos hstart, takeWhile_append hcs hrest,
    dropWhile_append hcs hrest, ← heq, String.ofList_toList]

/-- Skipping characters with which no key begins leaves a key where it is. -/
theorem dropWhile_key {p : Char → Bool} (hp : ∀ c, isKeyStart c = true → p c = false) {k : String}
    (hk : isKey k = true) (cs : List Char) : (k.toList ++ cs).dropWhile p = k.toList ++ cs := by
  obtain ⟨c, ks, heq, hstart, -⟩ := exists_cons_of_isKey hk
  rw [heq, List.cons_append]
  exact List.dropWhile_cons_of_neg (by rw [hp c hstart]; exact Bool.false_ne_true)

/-- A character that needs no backslash is taken as it is. -/
theorem stringBody_cons {c : Char} (hquote : c ≠ '"')
    (hc : (Text.isPrintableChar c && c != '\\') = true) (cs : List Char) :
    stringBody (c :: cs) = (stringBody cs).map fun p => (c :: p.1, p.2) := by
  have hbackslash : c ≠ '\\' := bne_iff_ne.1 (Bool.and_eq_true_iff.1 hc).2
  rw [stringBody, if_pos hc]
  · exact hquote
  · exact fun _ _ h _ => hbackslash h

/-- A string is read up to its closing quote, whatever comes behind it. -/
theorem stringBody_escape {cs : List Char} (hcs : cs.all Text.isPrintableChar = true) :
    stringBody (escape cs ++ '"' :: rest) = some (cs, rest) := by
  induction cs with
  | nil => rfl
  | cons c cs ih =>
    simp only [List.all_cons, Bool.and_eq_true] at hcs
    have htail := ih hcs.2
    by_cases hc : (c == '"' || c == '\\') = true
    · -- the backslash in front is dropped again
      rw [escape, if_pos hc, List.cons_append, List.cons_append, stringBody, if_pos hc, htail]
      rfl
    · -- any other character stands for itself
      rw [escape, if_neg hc, List.cons_append]
      simp only [Bool.or_eq_true, beq_iff_eq, not_or] at hc
      have hbackslash : (c != '\\') = true := by simpa using hc.2
      rw [stringBody_cons hc.1 (by rw [hcs.1, hbackslash]; rfl), htail]
      rfl

/-- A token takes as many characters as there are. -/
theorem token_cons {c : Char} (hc : isTokenStart c = true) (cs : List Char) :
    token (c :: cs) = some (.token (String.ofList (c :: cs.takeWhile isTokenRest)),
      cs.dropWhile isTokenRest) := by
  unfold token
  exact if_pos hc

theorem token_append {s : String} (hs : isToken s = true) (hrest : Stops isTokenRest rest) :
    token (s.toList ++ rest) = some (.token s, rest) := by
  obtain ⟨c, cs, heq, hstart, hcs⟩ := exists_cons_of_isToken hs
  rw [heq, List.cons_append, token_cons hstart, takeWhile_append hcs hrest,
    dropWhile_append hcs hrest, ← heq, String.ofList_toList]

/-- Octets take the symbols up to the closing colon. -/
theorem octets_append {symbols : List Char} (h : symbols.all (· != ':') = true) :
    octets (symbols ++ ':' :: rest)
      = (Base64.decodeLoose symbols).map fun bs => (.octets bs, rest) := by
  have hcolon : Stops (· != ':') (':' :: rest) := stops_cons rfl
  rw [octets, dropWhile_append h hcolon, takeWhile_append h hcolon]

/-- Octets are read up to the closing colon, whatever comes behind it. -/
theorem octets_encode (bs : List UInt8) :
    octets (Base64.encodeChars bs ++ ':' :: rest) = some (.octets bs, rest) := by
  have hsymbols : (Base64.encodeChars bs).all (· != ':') = true :=
    List.all_eq_true.2 (Base64.forall_mem_encodeChars (P := fun c => (c != ':') = true)
      (by decide) (by decide) bs)
  rw [octets_append hsymbols, Base64.decodeLoose_encodeChars, Option.map_some]

/-! ### Numbers -/

theorem all_isDigit_toDigits (n : Nat) : (Nat.toDigits 10 n).all Char.isDigit = true :=
  List.all_eq_true.2 fun _ hc => Nat.isDigit_of_mem_toDigits (by decide) (by decide) hc

theorem digitsValue_toDigits (n : Nat) : digitsValue (Nat.toDigits 10 n) = n :=
  Nat.ofDigitChars_ten_toDigits

/-- A number without a point is an integer. -/
theorem unsigned_integer {n : Nat} (hn : n < 10 ^ 15) (negative : Bool) (h : AfterValue rest) :
    unsigned negative (Nat.toDigits 10 n ++ rest)
      = some (.integer (if negative then -n else n), rest) := by
  have hdigits := all_isDigit_toDigits n
  have hstop : Stops Char.isDigit rest := h.stops (by decide)
  have hlength : (Nat.toDigits 10 n).length ≤ 15 :=
    (Nat.length_toDigits_le_iff (by decide) (by decide)).2 hn
  simp only [unsigned, takeWhile_append hdigits hstop, dropWhile_append hdigits hstop]
  -- behind the digits stands the end, a point or something else
  split
  · next heq => exact absurd heq Nat.toDigits_ne_nil
  · next hdot =>
    -- what comes after a value is no point
    exact absurd (h '.' rfl) (by decide)
  · rw [if_pos hlength, digitsValue_toDigits]

/-- A number with a point is a decimal. -/
theorem unsigned_decimal {whole : Nat} {fraction : List Char} (hwhole : whole < 10 ^ 12)
    (hfraction : fraction.all Char.isDigit = true) (hpos : 1 ≤ fraction.length)
    (hle : fraction.length ≤ 3) (negative : Bool) (h : AfterValue rest) :
    unsigned negative (Nat.toDigits 10 whole ++ '.' :: (fraction ++ rest))
      = some (.decimal ⟨negative, 10 ^ fraction.length * whole + digitsValue fraction,
        fraction.length⟩, rest) := by
  have hdigits := all_isDigit_toDigits whole
  have hpoint : Stops Char.isDigit ('.' :: (fraction ++ rest)) := stops_cons rfl
  have hstop : Stops Char.isDigit rest := h.stops (by decide)
  have hlength : (Nat.toDigits 10 whole).length ≤ 12 :=
    (Nat.length_toDigits_le_iff (by decide) (by decide)).2 hwhole
  simp only [unsigned, takeWhile_append hdigits hpoint, dropWhile_append hdigits hpoint]
  -- the point ends the digits of the whole, and what comes after the value those of the fraction
  split
  · next heq => exact absurd heq Nat.toDigits_ne_nil
  · next rest' heq _ =>
    obtain rfl : fraction ++ rest = rest' := (List.cons.inj heq).2
    rw [takeWhile_append hfraction hstop, dropWhile_append hfraction hstop, if_pos]
    · rw [digitsValue_append, digitsValue_toDigits]
    · simp [hlength, hpos, hle]
  · next hno => exact absurd rfl (hno _)

/-! ### Bare items

The first character of a bare item tells its kind, so each kind has an equation for the characters
it begins with. -/

theorem bareItem_minus (cs : List Char) : bareItem ('-' :: cs) = unsigned true cs := rfl

theorem bareItem_cons {c : Char} (hquestion : c ≠ '?') (hquote : c ≠ '"') (hcolon : c ≠ ':')
    (cs : List Char) :
    bareItem (c :: cs) = if c == '-' || c.isDigit then number (c :: cs) else token (c :: cs) := by
  unfold bareItem
  -- the rules before the last are for the empty text and for the characters that are excluded
  split
  · next heq => cases heq
  · next heq => exact absurd (List.cons.inj heq).1 hquestion
  · next heq => exact absurd (List.cons.inj heq).1 hquote
  · next heq => exact absurd (List.cons.inj heq).1 hcolon
  · next heq =>
    cases heq
    rfl

theorem bareItem_digit {c : Char} (hc : c.isDigit = true) (cs : List Char) :
    bareItem (c :: cs) = unsigned false (c :: cs) := by
  have hne {d : Char} (hd : d.isDigit = false) : c ≠ d := Text.ne_of_test hc hd
  rw [bareItem_cons (hne rfl) (hne rfl) (hne rfl), if_pos (by rw [hc, Bool.or_true])]
  unfold number
  split
  · next heq => exact absurd (List.cons.inj heq).1 (hne rfl)
  · rfl

/-- No digit begins a token. -/
theorem isDigit_eq_false_of_isTokenStart {c : Char} (hc : isTokenStart c = true) :
    c.isDigit = false := by
  rw [Bool.eq_false_iff]
  intro hdigit
  have hcode := Text.isDigit_iff.1 hdigit
  simp only [isTokenStart, Bool.or_eq_true, beq_iff_eq] at hc
  -- letters and the star have other codes than digits
  rcases hc with (hlower | hupper) | rfl
  · have hletter := isLowerChar_iff.1 hlower
    omega
  · have hletter := isUpperChar_iff.1 hupper
    omega
  · exact absurd hdigit (by decide)

theorem bareItem_tokenStart {c : Char} (hc : isTokenStart c = true) (cs : List Char) :
    bareItem (c :: cs) = token (c :: cs) := by
  have hne {d : Char} (hd : isTokenStart d = false) : c ≠ d := Text.ne_of_test hc hd
  rw [bareItem_cons (hne rfl) (hne rfl) (hne rfl), if_neg]
  rw [isDigit_eq_false_of_isTokenStart hc, Bool.or_false, beq_iff_eq]
  exact hne rfl

theorem bareItem_toDigits (n : Nat) :
    bareItem (Nat.toDigits 10 n ++ rest) = unsigned false (Nat.toDigits 10 n ++ rest) := by
  have hdigits := all_isDigit_toDigits n
  cases heq : Nat.toDigits 10 n with
  | nil => exact absurd heq Nat.toDigits_ne_nil
  | cons c cs =>
    rw [heq, List.all_cons, Bool.and_eq_true] at hdigits
    exact bareItem_digit hdigits.1 _

/-- No bare item begins with a parenthesis or a space. -/
theorem head_ne_of_bareItem {c : Char} {cs : List Char} {p : BareItem × List Char}
    (h : bareItem (c :: cs) = some p) : c ≠ '(' ∧ c ≠ ')' ∧ c ≠ ' ' := by
  refine ⟨?_, ?_, ?_⟩ <;> rintro rfl <;> cases h

/-- The digits after the point are as many as the scale says. -/
theorem exists_fractionDigits {d : Decimal} (hd : 1 ≤ d.scale) :
    d.fractionDigits.toList.all Char.isDigit = true
      ∧ d.fractionDigits.toList.length = d.scale
      ∧ digitsValue d.fractionDigits.toList = d.coefficient % 10 ^ d.scale := by
  obtain ⟨f, hf⟩ : ∃ f, d.coefficient % 10 ^ d.scale = f := ⟨_, rfl⟩
  have hpow : d.coefficient % Nat.pow 10 d.scale = f := hf
  have hlt : f < 10 ^ d.scale := hf ▸ Nat.mod_lt _ (Nat.pow_pos (by decide))
  have hlength : (Nat.toDigits 10 f).length ≤ d.scale :=
    (Nat.length_toDigits_le_iff (by decide) hd).2 hlt
  -- the zeros that fill up the remainder stand in front and do not change its value
  have hdigits : d.fractionDigits.toList
      = List.replicate (d.scale - (Nat.toDigits 10 f).length) '0' ++ Nat.toDigits 10 f := by
    simp only [Decimal.fractionDigits, hpow, String.toList_append, String.toList_ofList,
      Nat.toList_repr, ← String.length_toList]
  refine ⟨?_, ?_, ?_⟩
  · rw [hdigits, List.all_append, all_isDigit_toDigits, Bool.and_true]
    exact List.all_eq_true.2 fun c hc => List.eq_of_mem_replicate hc ▸ by decide
  · rw [hdigits, List.length_append, List.length_replicate]
    omega
  · rw [hdigits, digitsValue, Nat.ofDigitChars_append, Nat.ofDigitChars_replicate_zero,
      Nat.mul_zero, Nat.ofDigitChars_ten_toDigits, hf]

/-- A canonical decimal is written with every digit. -/
theorem text_eq_fullText {d : Decimal}
    (hd : d.coefficient % 10 ^ d.scale = 0 → d.scale = 1) : d.text = d.fullText := by
  unfold Decimal.text
  split
  · next hzero =>
    -- a fraction of zeros is written with one zero only, and it has one digit
    have hdigits : d.fractionDigits = "0" := by
      simp only [Decimal.fractionDigits, hzero]
      rw [hd hzero]
      rfl
    rw [Decimal.fullText, hdigits, String.append_assoc]
    rfl
  · rfl

theorem bareItem_decimal {d : Decimal} (hd : (BareItem.decimal d).Canonical)
    (h : AfterValue rest) : bareItem (d.text.toList ++ rest) = some (.decimal d, rest) := by
  obtain ⟨⟨hscale, hle, hwhole⟩, hzero⟩ := hd
  obtain ⟨hdigits, hlength, hvalue⟩ := exists_fractionDigits hscale
  -- the coefficient comes apart into quotient and remainder, and the reader puts it together again
  have hread (negative : Bool) := unsigned_decimal hwhole hdigits (hlength.symm ▸ hscale)
    (hlength.symm ▸ hle) negative h
  rw [hlength, hvalue, Nat.div_add_mod] at hread
  have hminus : "-".toList = ['-'] := rfl
  have hpoint : ".".toList = ['.'] := rfl
  have hnone : "".toList = [] := rfl
  rw [text_eq_fullText (hzero d rfl), Decimal.fullText, Decimal.wholeText]
  simp only [String.toList_append, Nat.toList_repr, List.append_assoc, hpoint,
    List.singleton_append]
  -- the sign decides how the text begins, and with it which rule reads it
  obtain ⟨negative, coefficient, scale⟩ := d
  cases negative with
  | true =>
    rw [if_pos rfl, hminus, List.singleton_append, bareItem_minus]
    exact hread true
  | false =>
    rw [if_neg Bool.false_ne_true, hnone, List.nil_append, bareItem_toDigits]
    exact hread false

/-- **Bare items** are read as they were written. -/
theorem bareItem_text {b : BareItem} (hb : b.Canonical) (h : AfterValue rest) :
    bareItem (b.text.toList ++ rest) = some (b, rest) := by
  cases b with
  | integer n =>
    have hn : n.natAbs < 10 ^ 15 := hb.1
    -- the digits are those of the absolute value, behind a minus if there is one
    simp only [BareItem.text, integerText]
    split
    · have hminus : "-".toList = ['-'] := rfl
      rw [String.toList_append, Nat.toList_repr, hminus, List.append_assoc,
        List.singleton_append, bareItem_minus, unsigned_integer hn true h, if_pos rfl]
      congr 3
      omega
    · rw [Nat.toList_repr, bareItem_toDigits, unsigned_integer hn false h]
      simp only [Bool.false_eq_true, if_false]
      congr 3
      omega
  | decimal d => exact bareItem_decimal hb h
  | string s =>
    have hs : s.toList.all Text.isPrintableChar = true := hb.1
    simp only [BareItem.text, quoted, String.toList_append, String.toList_ofList,
      List.append_assoc]
    change (stringBody (escape s.toList ++ '"' :: rest)).map _ = _
    rw [stringBody_escape hs, Option.map_some, String.ofList_toList]
  | token s =>
    have hs : isToken s = true := hb.1
    -- what comes after a value does not continue a token
    have hstops : Stops isTokenRest rest := h.stops (by decide)
    obtain ⟨c, cs, heq, hstart, -⟩ := exists_cons_of_isToken hs
    rw [BareItem.text, heq, List.cons_append, bareItem_tokenStart hstart, ← List.cons_append,
      ← heq, token_append hs hstops]
  | octets bs =>
    simp only [BareItem.text, octetsText, Base64.encode, String.toList_append,
      String.toList_ofList, List.append_assoc]
    exact octets_encode bs
  | boolean b => cases b <;> rfl

/-! ### Parameters

A parameter begins with a semicolon, so what follows the key or the value of one is either the next
parameter or the `rest` behind all of them. -/

/-- The characters of parameters. -/
def parametersChars (es : List (String × BareItem)) : List Char :=
  es.flatMap fun e => (parameterText e.1 e.2).toList

theorem toList_parametersText (ps : Parameters) :
    (parametersText ps).toList = parametersChars ps.entries := by
  simp [parametersText, parametersChars, List.flatMap_map]

theorem toList_parameterText (k : String) (b : BareItem) :
    (parameterText k b).toList
      = ';' :: (k.toList ++ if b = .boolean true then [] else '=' :: b.text.toList) := by
  have hsemicolon : ";".toList = [';'] := rfl
  have hequals : "=".toList = ['='] := rfl
  unfold parameterText
  split <;> simp [hsemicolon, hequals]

theorem afterValue_parametersChars (es : List (String × BareItem)) (h : AfterItem rest) :
    AfterValue (parametersChars es ++ rest) := by
  cases es with
  | nil => exact h.afterValue
  | cons e es =>
    rw [parametersChars, List.flatMap_cons, toList_parameterText]
    exact afterValue_cons (by decide)

/-- A key is read after the semicolon; no space stands between them. -/
theorem skipSpaces_key {k : String} (hk : isKey k = true) (cs : List Char) :
    skipSpaces (k.toList ++ cs) = k.toList ++ cs := by
  refine dropWhile_key (fun c hc => ?_) hk cs
  exact beq_false_of_ne (Text.ne_of_test hc rfl)

/-- The value of a parameter is read as it was written, a true one from nothing. -/
theorem parameterValue_text {b : BareItem} (hb : b.Canonical) (h : AfterValue rest) :
    parameterValue ((if b = .boolean true then [] else '=' :: b.text.toList) ++ rest)
      = some (b, rest) := by
  -- only the value true is not written; before all others stands an equals sign
  split
  · next heq =>
    subst heq
    rw [List.nil_append]
    unfold parameterValue
    split
    · next cs =>
      -- what comes after a value is no equals sign either
      exact absurd (h '=' rfl) (by decide)
    · rfl
  · exact bareItem_text hb h

/-- What follows a key is no key character. -/
theorem stops_parameterValue {b : BareItem} (h : AfterValue rest) :
    Stops isKeyChar ((if b = .boolean true then [] else '=' :: b.text.toList) ++ rest) := by
  split
  · exact h.stops (by decide)
  · exact stops_cons rfl

/-- A parameter is taken in, and reading goes on behind it. -/
theorem parametersFrom_cons {k : String} {b : BareItem} (hk : isKey k = true) (hb : b.Canonical)
    {es : List (String × BareItem)} (h : AfterValue (parametersChars es ++ rest))
    (before : Parameters) (bound : Nat) :
    parametersFrom before (bound + 1) (parametersChars ((k, b) :: es) ++ rest)
      = parametersFrom (before.insert k b) bound (parametersChars es ++ rest) := by
  -- an entry is a semicolon, the key, and the value unless it is true
  rw [parametersChars, List.flatMap_cons, toList_parameterText, ← parametersChars]
  simp only [List.cons_append, List.append_assoc, parametersFrom, Option.bind_eq_bind]
  rw [skipSpaces_key hk, key_append hk (stops_parameterValue h), Option.bind_some]
  simp only
  rw [parameterValue_text hb h, Option.bind_some]

/-- Reading goes on with the parameters that were read before, whatever they are. -/
theorem parametersFrom_text {es : List (String × BareItem)}
    (hes : ∀ e ∈ es, isKey e.1 = true ∧ e.2.Canonical) (h : AfterItem rest) {bound : Nat}
    (hbound : es.length ≤ bound) (before : Parameters)
    (hnodup : (before.keys ++ es.map Prod.fst).Nodup) :
    ∃ ps, parametersFrom before bound (parametersChars es ++ rest) = some (ps, rest)
      ∧ ps.entries = before.entries ++ es := by
  induction es generalizing before bound with
  | nil =>
    refine ⟨before, ?_, by simp⟩
    rw [parametersChars, List.flatMap_nil, List.nil_append]
    unfold parametersFrom
    -- what ends parameters is no further semicolon
    split
    · next cs => exact absurd (h ';' rfl) (by decide)
    · rfl
  | cons e es ih =>
    obtain ⟨k, b⟩ := e
    obtain ⟨hk, hb⟩ := hes (k, b) List.mem_cons_self
    obtain ⟨bound, rfl⟩ := Nat.exists_eq_succ_of_ne_zero (Nat.ne_zero_of_lt hbound)
    -- no key comes twice, so the new entry goes behind those that were read before
    obtain ⟨hnew, hmore⟩ := OrderedMap.nodup_keys_insert hnodup b
    obtain ⟨ps, hread, hentries⟩ := ih (fun e he => hes e (List.mem_cons_of_mem _ he))
      (Nat.le_of_succ_le_succ hbound) (before.insert k b) hmore
    refine ⟨ps, ?_, ?_⟩
    · rw [parametersFrom_cons hk hb (afterValue_parametersChars es h)]
      exact hread
    · rw [hentries, OrderedMap.entries_insert hnew, List.append_assoc]
      rfl

theorem length_le_length_parametersChars (es : List (String × BareItem)) :
    es.length ≤ (parametersChars es).length := by
  induction es with
  | nil => exact Nat.zero_le _
  | cons e es ih =>
    rw [parametersChars, List.flatMap_cons, toList_parameterText, ← parametersChars]
    simp only [List.cons_append, List.length_cons, List.length_append]
    omega

/-- **Parameters** are read as they were written. -/
theorem parameters_text {ps : Parameters} (hps : Parameters.All BareItem.Canonical ps)
    (h : AfterItem rest) : parameters ((parametersText ps).toList ++ rest) = some (ps, rest) := by
  -- an entry takes a character at least, so the length of the text is bound enough
  have hbound : ps.entries.length ≤ (parametersChars ps.entries ++ rest).length := by
    have := length_le_length_parametersChars ps.entries
    rw [List.length_append]
    omega
  obtain ⟨ps', hread, hentries⟩ := parametersFrom_text hps h hbound OrderedMap.empty
    (by simpa [OrderedMap.keys, OrderedMap.empty] using ps.nodup)
  rw [toList_parametersText, parameters, hread,
    OrderedMap.ext_entries (hentries.trans (List.nil_append _))]

/-! ### Items, inner lists and members -/

/-- **Items** are read as they were written. -/
theorem item_text {i : Item} (hi : i.All BareItem.Canonical) (h : AfterItem rest) :
    item (i.text.toList ++ rest) = some (i, rest) := by
  have hafter : AfterValue ((parametersText i.parameters).toList ++ rest) := by
    rw [toList_parametersText]
    exact afterValue_parametersChars _ h
  simp only [item, Item.text, String.toList_append, List.append_assoc, Option.bind_eq_bind]
  rw [bareItem_text hi.bare hafter, Option.bind_some]
  simp only
  rw [parameters_text hi.parameters h, Option.bind_some]
  rfl

/-- An item has a first character, and it is neither a parenthesis nor a space. -/
theorem exists_itemText_eq_cons {i : Item} (hi : i.All BareItem.Canonical) :
    ∃ c cs, i.text.toList = c :: cs ∧ c ≠ '(' ∧ c ≠ ')' ∧ c ≠ ' ' := by
  -- from the text of the value something is read, so it cannot be empty
  have hread : bareItem (i.bare.text.toList ++ []) = some (i.bare, []) :=
    bareItem_text hi.bare (by rintro c ⟨⟩)
  rw [List.append_nil] at hread
  cases heq : i.bare.text.toList with
  | nil =>
    -- nothing is read from nothing
    rw [heq] at hread
    cases hread
  | cons c cs =>
    rw [heq] at hread
    exact ⟨c, cs ++ (parametersText i.parameters).toList,
      by rw [Item.text, String.toList_append, heq, List.cons_append], head_ne_of_bareItem hread⟩

/-- A space before the items of an inner list is passed over. -/
theorem innerItems_space (bound : Nat) (cs : List Char) :
    innerItems bound (' ' :: cs) = innerItems bound cs := by
  cases bound with
  | zero => rfl
  | succ bound =>
    unfold innerItems
    rw [skipSpaces, List.dropWhile_cons_of_pos rfl]
    rfl

theorem cons_intercalate_singleton {sep : Char} {xs : List (List Char)} (h : xs ≠ []) :
    sep :: [sep].intercalate xs = xs.flatMap (sep :: ·) := by
  induction xs with
  | nil => exact absurd rfl h
  | cons x xs ih =>
    cases xs with
    | nil => simp
    | cons y ys =>
      rw [List.flatMap_cons, ← ih (List.cons_ne_nil y ys)]
      simp [List.intercalate]

/-- The characters of items with a space before each. -/
def spacedItems (items : List Item) : List Char :=
  items.flatMap fun i => ' ' :: i.text.toList

theorem innerItems_spacedItems {items : List Item} (hitems : ∀ i ∈ items, i.All BareItem.Canonical)
    {bound : Nat} (hbound : items.length < bound) :
    innerItems bound (spacedItems items ++ ')' :: rest) = some (items, rest) := by
  induction items generalizing bound with
  | nil =>
    obtain ⟨bound, rfl⟩ := Nat.exists_eq_succ_of_ne_zero (Nat.ne_zero_of_lt hbound)
    rfl
  | cons i items ih =>
    obtain ⟨bound, rfl⟩ := Nat.exists_eq_succ_of_ne_zero (Nat.ne_zero_of_lt hbound)
    have hi := hitems i List.mem_cons_self
    have hmore :=
      ih (fun j hj => hitems j (List.mem_cons_of_mem i hj)) (Nat.lt_of_succ_lt_succ hbound)
    set more := spacedItems items ++ ')' :: rest with hmoreChars
    -- behind an item comes the space of the next one or the closing parenthesis
    obtain ⟨hafter, hends⟩ : AfterItem more ∧ endsItem more = true := by
      cases items with
      | nil => exact ⟨afterItem_cons (by decide), rfl⟩
      | cons j items => exact ⟨afterItem_cons (by decide), rfl⟩
    obtain ⟨c, cs, heq, -, hparen, hspace⟩ := exists_itemText_eq_cons hi
    have hread := item_text hi hafter
    rw [spacedItems, List.flatMap_cons, ← spacedItems, List.cons_append, List.cons_append,
      innerItems_space, List.append_assoc, ← hmoreChars]
    -- the text of an item begins with no space and no closing parenthesis, so the item is read
    rw [heq, List.cons_append] at hread ⊢
    unfold innerItems
    rw [skipSpaces, List.dropWhile_cons_of_neg (by simpa using hspace)]
    split
    · next heq' => exact absurd (List.cons.inj heq').1 hparen
    · rw [hread]
      simp only [Option.bind_eq_bind, Option.bind_some, hends, if_true, hmore]
      rfl

/-- **Inner lists** are read as they were written, up to their closing parenthesis. -/
theorem innerItems_text {items : List Item} (hitems : ∀ i ∈ items, i.All BareItem.Canonical)
    {bound : Nat} (hbound : items.length < bound) :
    innerItems bound ((" ".intercalate (items.map Item.text)).toList ++ ')' :: rest)
      = some (items, rest) := by
  have hread : innerItems bound (spacedItems items ++ ')' :: rest) = some (items, rest) :=
    innerItems_spacedItems hitems hbound
  cases items with
  | nil => exact hread
  | cons i items =>
    -- with a space in front, the text is that of items with a space before each
    have hspaced : ' ' :: (" ".intercalate ((i :: items).map Item.text)).toList
        = spacedItems (i :: items) := by
      have hspace : " ".toList = [' '] := rfl
      rw [String.toList_intercalate, hspace, cons_intercalate_singleton (by simp), spacedItems,
        List.map_map, List.flatMap_map]
      rfl
    rw [← innerItems_space, ← List.cons_append, hspaced, hread]

theorem length_lt_innerListChars (items : List Item) (cs : List Char) :
    items.length
      < ((" ".intercalate (items.map Item.text)).toList ++ ')' :: cs).length + 1 := by
  have hspaced : items.length
      ≤ (" ".intercalate (items.map Item.text)).toList.length + 1 := by
    -- before every item but the first stands a space
    induction items with
    | nil => exact Nat.zero_le _
    | cons i items ih =>
      cases items with
      | nil => simp
      | cons j items =>
        have hspace : " ".toList = [' '] := rfl
        rw [List.map_cons, List.map_cons, String.intercalate_cons_cons] at *
        simp only [String.toList_append, List.length_append, hspace, List.length_cons,
          List.length_nil] at ih ⊢
        omega
  rw [List.length_append, List.length_cons]
  omega

/-- **Members** are read as they were written. -/
theorem member_text {m : Member} (hm : m.Canonical) (h : AfterItem rest) :
    member (m.text.toList ++ rest) = some (m, rest) := by
  cases m with
  | item i =>
    obtain ⟨c, cs, heq, hparen, -⟩ := exists_itemText_eq_cons hm
    have hread := item_text hm h
    -- an item never begins with the parenthesis of an inner list
    rw [Member.text]
    rw [heq, List.cons_append] at hread ⊢
    unfold member
    split
    · next heq' => exact absurd (List.cons.inj heq').1 hparen
    · rw [hread]
      rfl
  | innerList items ps =>
    have hopen : "(".toList = ['('] := rfl
    have hclose : ")".toList = [')'] := rfl
    simp only [Member.text, String.toList_append, hopen, hclose, List.append_assoc,
      List.cons_append, List.nil_append]
    rw [member, innerItems_text hm.1 (length_lt_innerListChars items _)]
    simp only [Option.bind_eq_bind, Option.bind_some]
    rw [parameters_text hm.2 h]
    rfl

/-! ### Dictionaries -/

/-- The characters of a dictionary member. -/
def entryChars (e : String × Member) : List Char :=
  e.1.toList ++ '=' :: e.2.text.toList

theorem dictionaryValue_text {m : Member} (hm : m.Canonical) (h : AfterItem rest) :
    dictionaryValue ('=' :: (m.text.toList ++ rest)) = some (m, rest) :=
  member_text hm h

theorem skipBlanks_key {k : String} (hk : isKey k = true) (cs : List Char) :
    skipBlanks (k.toList ++ cs) = k.toList ++ cs := by
  refine dropWhile_key (fun c hc => ?_) hk cs
  rw [beq_false_of_ne (Text.ne_of_test hc rfl), beq_false_of_ne (Text.ne_of_test hc rfl)]
  rfl

/-- A member that is the last one ends the dictionary. -/
theorem dictionaryFrom_last {k : String} {m : Member} (hk : isKey k = true) (hm : m.Canonical)
    (before : Dictionary) (bound : Nat) :
    dictionaryFrom before (bound + 1) (entryChars (k, m)) = some (before.insert k m) := by
  -- nothing but the value stands behind the equals sign
  have hequals : Stops isKeyChar ('=' :: m.text.toList) := stops_cons rfl
  have hvalue := dictionaryValue_text hm afterItem_nil
  rw [List.append_nil] at hvalue
  simp only [dictionaryFrom, entryChars, Option.bind_eq_bind]
  rw [key_append hk hequals, Option.bind_some]
  simp only
  rw [hvalue, Option.bind_some]
  rfl

/-- A member before another one is taken in, and reading goes on behind the comma. -/
theorem dictionaryFrom_comma {k : String} {m : Member} (hk : isKey k = true) (hm : m.Canonical)
    (before : Dictionary) (bound : Nat) (cs : List Char) :
    dictionaryFrom before (bound + 1) (entryChars (k, m) ++ ',' :: cs)
      = dictionaryFrom (before.insert k m) bound (skipBlanks cs) := by
  -- the comma ends the value, and the blanks behind it are skipped
  have hequals : Stops isKeyChar ('=' :: (m.text.toList ++ ',' :: cs)) := stops_cons rfl
  have hcomma : AfterItem (',' :: cs) := afterItem_cons (by decide)
  simp only [dictionaryFrom, entryChars, Option.bind_eq_bind, List.append_assoc,
    List.cons_append]
  rw [key_append hk hequals, Option.bind_some]
  simp only
  rw [dictionaryValue_text hm hcomma, Option.bind_some]
  rfl

/-- A dictionary begins with its first member; behind it comes a comma, or nothing. -/
theorem exists_intercalate_entryChars_eq (e : String × Member) (es : List (String × Member)) :
    ∃ rest, AfterItem rest
      ∧ [',', ' '].intercalate ((e :: es).map entryChars) = entryChars e ++ rest := by
  -- behind an entry stands the end or a comma
  cases es with
  | nil =>
    refine ⟨[], afterItem_nil, ?_⟩
    rw [List.map_cons, List.map_nil, List.intercalate_singleton, List.append_nil]
  | cons e' es =>
    refine ⟨',' :: ' ' :: [',', ' '].intercalate ((e' :: es).map entryChars),
      afterItem_cons (by decide), ?_⟩
    rw [List.map_cons, List.map_cons, List.intercalate_cons_cons, List.append_assoc]
    rfl

/-- Reading a dictionary of two members at least goes on with the second. -/
theorem dictionaryFrom_cons {k : String} {m : Member} (hk : isKey k = true) (hm : m.Canonical)
    {e : String × Member} (he : isKey e.1 = true) (es : List (String × Member))
    (before : Dictionary) (bound : Nat) :
    dictionaryFrom before (bound + 1) ([',', ' '].intercalate (((k, m) :: e :: es).map entryChars))
      = dictionaryFrom (before.insert k m) bound
        ([',', ' '].intercalate ((e :: es).map entryChars)) := by
  obtain ⟨rest, -, hrest⟩ := exists_intercalate_entryChars_eq e es
  -- the blank behind the comma is skipped, and no key begins with one
  have hblank : skipBlanks (' ' :: [',', ' '].intercalate ((e :: es).map entryChars))
      = [',', ' '].intercalate ((e :: es).map entryChars) := by
    rw [skipBlanks, List.dropWhile_cons_of_pos rfl, ← skipBlanks, hrest, entryChars,
      List.append_assoc, skipBlanks_key he]
  rw [List.map_cons, List.map_cons, List.intercalate_cons_cons, ← List.map_cons, List.append_assoc]
  exact (dictionaryFrom_comma hk hm before bound _).trans (congrArg _ hblank)

/-- Reading goes on with the members that were read before, whatever they are. -/
theorem dictionaryFrom_text {es : List (String × Member)} (hne : es ≠ [])
    (hes : ∀ e ∈ es, isKey e.1 = true ∧ e.2.Canonical) {bound : Nat}
    (hbound : es.length ≤ bound) (before : Dictionary)
    (hnodup : (before.keys ++ es.map Prod.fst).Nodup) :
    ∃ d, dictionaryFrom before bound ([',', ' '].intercalate (es.map entryChars)) = some d
      ∧ d.entries = before.entries ++ es := by
  induction es generalizing before bound with
  | nil => exact absurd rfl hne
  | cons e es ih =>
    obtain ⟨k, m⟩ := e
    obtain ⟨hk, hm⟩ := hes (k, m) List.mem_cons_self
    obtain ⟨bound, rfl⟩ := Nat.exists_eq_succ_of_ne_zero (Nat.ne_zero_of_lt hbound)
    -- no key comes twice, as with parameters
    obtain ⟨hnew, hmore⟩ := OrderedMap.nodup_keys_insert hnodup m
    have hinsert := OrderedMap.entries_insert hnew m
    -- the last entry ends the text, and behind each other one stands a comma
    cases es with
    | nil =>
      refine ⟨_, ?_, hinsert⟩
      simp only [List.map_cons, List.map_nil, List.intercalate_singleton]
      exact dictionaryFrom_last hk hm before bound
    | cons e' es =>
      obtain ⟨hk', -⟩ := hes e' (by simp)
      obtain ⟨d, hread, hentries⟩ := ih (List.cons_ne_nil _ _)
        (fun e he => hes e (List.mem_cons_of_mem _ he)) (Nat.le_of_succ_le_succ hbound)
        (before.insert k m) hmore
      refine ⟨d, (dictionaryFrom_cons hk hm hk' es before bound).trans hread, ?_⟩
      rw [hentries, hinsert, List.append_assoc]
      rfl

theorem length_le_length_intercalate_entryChars (es : List (String × Member)) :
    es.length ≤ ([',', ' '].intercalate (es.map entryChars)).length := by
  induction es with
  | nil => exact Nat.zero_le _
  | cons e es ih =>
    have hpos : 1 ≤ (entryChars e).length := by
      rw [entryChars, List.length_append, List.length_cons]
      omega
    cases es with
    | nil => simpa using hpos
    | cons e' es =>
      rw [List.map_cons, List.map_cons, List.intercalate_cons_cons] at *
      simp only [List.length_append, List.length_cons, List.length_nil] at ih ⊢
      omega

end Parser

open StructuredField.Parser

/-- **Written dictionary.** The members with their keys, joined by commas. -/
def dictionaryText (es : List (String × Member)) : String :=
  ", ".intercalate (es.map fun e => e.1 ++ "=" ++ e.2.text)

theorem toList_dictionaryText (es : List (String × Member)) :
    (dictionaryText es).toList = [',', ' '].intercalate (es.map entryChars) := by
  have hcomma : ", ".toList = [',', ' '] := rfl
  have hequals : "=".toList = ['='] := rfl
  rw [dictionaryText, String.toList_intercalate, hcomma, List.map_map]
  congr 2
  funext e
  simp [entryChars, hequals]

theorem isPrintable_dictionaryText {es : List (String × Member)}
    (hes : ∀ e ∈ es, isKey e.1 = true ∧ e.2.All BareItem.Printable) :
    Text.isPrintable (dictionaryText es) = true := by
  have hsigns : Text.isPrintable ", " = true ∧ Text.isPrintable "=" = true := by decide
  refine Text.isPrintable_intercalate hsigns.1 fun s hs => ?_
  obtain ⟨e, he, rfl⟩ := List.mem_map.1 hs
  obtain ⟨hk, hm⟩ := hes e he
  simp only [Text.isPrintable_append, isPrintable_of_isKey hk, hsigns.2, isPrintable_memberText hm,
    Bool.and_self]

theorem printable_of_canonical {es : List (String × Member)}
    (hes : ∀ e ∈ es, isKey e.1 = true ∧ e.2.Canonical) :
    ∀ e ∈ es, isKey e.1 = true ∧ e.2.All BareItem.Printable :=
  fun e he => ⟨(hes e he).1, (hes e he).2.mono fun _ hb => hb.printable⟩

/-- A printable text that does not begin with a space is read from its first character on. -/
theorem start_eq_self {s : String} (hs : Text.isPrintable s = true)
    (hspace : ∀ c ∈ s.toList.head?, c ≠ ' ') : start s = some s.toList := by
  have hascii : s.toList.all Text.isAsciiChar = true := List.all_eq_true.2 fun c hc =>
    Text.isAsciiChar_of_isPrintableChar (List.all_eq_true.1 hs c hc)
  have hskip : skipSpaces s.toList = s.toList := by
    cases heq : s.toList with
    | nil => rfl
    | cons c cs =>
      have hc : c ≠ ' ' := hspace c (by rw [heq]; rfl)
      exact List.dropWhile_cons_of_neg (by simpa using hc)
  rw [start, if_pos hascii, hskip]

/-- A key has no spaces in front. -/
theorem start_of_isPrintable {s : String} (hs : Text.isPrintable s = true) {k : String}
    (hk : isKey k = true) {cs : List Char} (heq : s.toList = k.toList ++ cs) :
    start s = some s.toList := by
  obtain ⟨c, ks, hkey, hstart, -⟩ := exists_cons_of_isKey hk
  refine start_eq_self hs fun d hd => ?_
  rw [heq, hkey, List.cons_append, List.head?_cons] at hd
  obtain rfl := Option.some.inj hd
  exact Text.ne_of_test hstart rfl

/-- **Dictionaries** are read as they were written. -/
theorem parseDictionary_dictionaryText {es : List (String × Member)}
    (hes : ∀ e ∈ es, isKey e.1 = true ∧ e.2.Canonical) (hnodup : (es.map Prod.fst).Nodup) :
    parseDictionary (dictionaryText es) = some ⟨es, hnodup⟩ := by
  cases es with
  | nil => rfl
  | cons e es =>
    obtain ⟨hk, -⟩ := hes e List.mem_cons_self
    have hprintable : Text.isPrintable (dictionaryText (e :: es)) = true :=
      isPrintable_dictionaryText (printable_of_canonical hes)
    obtain ⟨cs, hcs⟩ : ∃ cs, (dictionaryText (e :: es)).toList = e.1.toList ++ cs := by
      obtain ⟨rest, -, hrest⟩ := exists_intercalate_entryChars_eq e es
      exact ⟨_, by rw [toList_dictionaryText, hrest, entryChars, List.append_assoc]⟩
    -- every member takes a character at least, so the length of the text is bound enough
    have hbound := length_le_length_intercalate_entryChars (e :: es)
    obtain ⟨d, hread, hentries⟩ := dictionaryFrom_text (List.cons_ne_nil e es) hes hbound
      OrderedMap.empty (by simpa [OrderedMap.keys, OrderedMap.empty] using hnodup)
    rw [← toList_dictionaryText] at hbound hread
    have hnonempty : (dictionaryText (e :: es)).toList ≠ [] :=
      List.ne_nil_of_length_pos (lt_of_lt_of_le (Nat.succ_pos _) hbound)
    simp only [parseDictionary, start_of_isPrintable hprintable hk hcs, Option.bind_eq_bind,
      Option.bind_some]
    rw [if_neg hnonempty, hread]
    exact congrArg some (OrderedMap.ext_entries hentries)

/-- **Items** by themselves are read as they were written. -/
theorem parseItem_text {i : Item} (hi : i.All BareItem.Canonical) : parseItem i.text = some i := by
  obtain ⟨c, cs, heq, -, -, hspace⟩ := exists_itemText_eq_cons hi
  have hprintable : Text.isPrintable i.text = true :=
    isPrintable_itemText (hi.mono fun _ hb => hb.printable)
  have hstart : start i.text = some i.text.toList := by
    refine start_eq_self hprintable fun d hd => ?_
    rw [heq] at hd
    obtain rfl := Option.some.inj hd
    exact hspace
  have hread : item i.text.toList = some (i, []) := by
    rw [← List.append_nil i.text.toList]
    exact item_text hi afterItem_nil
  rw [parseItem, hstart, Option.bind_eq_bind, Option.bind_some, hread]
  rfl

end StructuredField

end MessageSignatures
