import MessageSignatures.Proofs.Component
import MessageSignatures.Proofs.StructuredField.Range
import MessageSignatures.Signature.Labelled

/-!
# Signature parameters and the members that declare them

Parameters are written as a member of a dictionary, an inner list of the covered components with the
declarations as its parameters (`SignatureParams.member`). This module ties the two together.

* **Writing.** The canonical text is the text of that member (`text_member`), and reading the member
  gives the parameters back, with the canonical text as the received one (`ofMember_member`).
* **Reading.** What is read has printable strings and no repeated component, and remembers the text
  of the member that it was read from (`ofMember_eq_ok`).
* **Obtained parameters** (`SignatureParams.Obtained`) are those that a program can come by: new
  ones, read ones, and what setters make of either. Each of them can be written
  (`Obtained.writable`), and what it signs is the text of a member that lists what it covers
  (`Obtained.exists_signedList`).
-/

namespace MessageSignatures

open StructuredField (BareItem Item Member Parameters)

namespace SignatureParams

/-- The largest point in time that an integer of a structured field can denote. -/
def maxTimestamp : Nat := 999999999999999

/-- **Writable parameters.** No component is repeated and every string is printable. -/
structure Writable (p : SignatureParams) : Prop where
  nodup : p.covered.Nodup
  nonce : ∀ n ∈ p.nonce, Text.isPrintable n = true
  alg : Text.isPrintable p.alg = true
  keyId : Text.isPrintable p.keyId = true

/-- **Timely parameters.** The points in time can be written as integers. -/
structure Timely (p : SignatureParams) : Prop where
  created : p.created.toNat ≤ maxTimestamp
  expires : ∀ t ∈ p.expires, t.toNat ≤ maxTimestamp

/-! ### The member of parameters -/

/-- The declarations, in canonical order. -/
def declarations (p : SignatureParams) : List (String × BareItem) :=
  ("created", .integer p.created.toNat)
    :: (p.expires.toList.map fun t => ("expires", .integer t.toNat))
    ++ (p.nonce.toList.map fun n => ("nonce", .string n))
    ++ [("alg", .string p.alg), ("keyid", .string p.keyId)]

theorem nodup_declarations (p : SignatureParams) : (p.declarations.map Prod.fst).Nodup := by
  obtain ⟨created, expires, nonce, alg, keyId, covered, received⟩ := p
  cases expires <;> cases nonce <;> simp [declarations]

/-- **Member** that declares the parameters. -/
def member (p : SignatureParams) : Member :=
  .innerList (p.covered.map ComponentId.item) ⟨p.declarations, p.nodup_declarations⟩

/-- The canonical text is the text of the member. -/
theorem text_member (p : SignatureParams) : p.member.text = p.text := by
  have hitems : (p.covered.map ComponentId.item).map Item.text
      = p.covered.map ComponentId.text := by
    rw [List.map_map]
    exact List.map_congr_left fun id _ => ComponentId.text_item id
  -- the signs of the text are those of the printers, joined
  have hcreated : ");created=" = ")" ++ (";" ++ "created" ++ "=") := rfl
  have hexpires : ";expires=" = ";" ++ "expires" ++ "=" := rfl
  have hnonce : ";nonce=" = ";" ++ "nonce" ++ "=" := rfl
  have halg : ";alg=" = ";" ++ "alg" ++ "=" := rfl
  have hkeyId : ";keyid=" = ";" ++ "keyid" ++ "=" := rfl
  obtain ⟨created, expires, nonce, alg, keyId, covered, received⟩ := p
  rw [member, Member.text, hitems, text, hcreated, halg, hkeyId]
  cases expires <;> cases nonce <;>
    simp only [declarations, StructuredField.parametersText, StructuredField.parameterText,
      Option.toList_none, Option.toList_some, List.map_nil, List.map_cons, List.cons_append,
      List.nil_append, reduceCtorEq, if_false, String.join_cons, String.join_nil, BareItem.text,
      StructuredField.integerText_natCast, hexpires, hnonce, String.append_assoc,
      String.append_empty]

/-- What holds of printable strings and of the points in time holds throughout the member. -/
theorem member_all {P : BareItem → Prop} {p : SignatureParams} (hp : p.Writable)
    (hstring : ∀ s, Text.isPrintable s = true → P (.string s))
    (hcreated : P (.integer p.created.toNat))
    (hexpires : ∀ t ∈ p.expires, P (.integer t.toNat)) : p.member.All P := by
  refine ⟨?_, ?_⟩
  · intro i hi
    obtain ⟨id, -, rfl⟩ := List.mem_map.1 hi
    exact Item.all_empty (hstring _ id.isPrintable_name)
  · intro e he
    simp only [declarations, List.mem_append, List.mem_cons, List.mem_map, Option.mem_toList,
      List.not_mem_nil, or_false] at he
    -- the declarations in their order, the optional ones with the value they have
    rcases he with ((rfl | ⟨t, h, rfl⟩) | ⟨n, h, rfl⟩) | rfl | rfl
    · exact ⟨(by decide : StructuredField.isKey "created" = true), hcreated⟩
    · exact ⟨(by decide : StructuredField.isKey "expires" = true), hexpires t h⟩
    · exact ⟨(by decide : StructuredField.isKey "nonce" = true), hstring n (hp.nonce n h)⟩
    · exact ⟨(by decide : StructuredField.isKey "alg" = true), hstring p.alg hp.alg⟩
    · exact ⟨(by decide : StructuredField.isKey "keyid" = true), hstring p.keyId hp.keyId⟩

theorem canonical_timestamp {t : Timestamp} (h : t.toNat ≤ maxTimestamp) :
    (BareItem.integer t.toNat).Canonical := by
  refine ⟨?_, nofun⟩
  unfold maxTimestamp at h
  change ((t.toNat : Int)).natAbs < 10 ^ 15
  omega

/-- The member of parameters is canonical, provided that the points in time can be written. -/
theorem canonical_member {p : SignatureParams} (hp : p.Writable) (ht : p.Timely) :
    p.member.Canonical :=
  member_all hp (fun _ hs => ⟨hs, nofun⟩) (canonical_timestamp ht.created)
    fun t h => canonical_timestamp (ht.expires t h)

/-- A point in time that cannot be written is declared behind declarations that can. -/
theorem exists_declarations_eq {p : SignatureParams} (h : ¬ p.Timely) :
    ∃ es k more, ∃ n : Nat, p.declarations = es ++ (k, .integer n) :: more
      ∧ (∀ e ∈ es, StructuredField.isKey e.1 = true ∧ e.2.Canonical)
      ∧ StructuredField.isKey k = true ∧ 10 ^ 15 ≤ n := by
  -- a number that is no longer written exceeds the greatest that is
  have hlarge {t : Timestamp} (ht : ¬ t.toNat ≤ maxTimestamp) : 10 ^ 15 ≤ t.toNat := by
    unfold maxTimestamp at ht
    omega
  by_cases hcreated : p.created.toNat ≤ maxTimestamp
  · -- the end of validity is declared second
    obtain ⟨t, ht, hexpires⟩ : ∃ t, p.expires = some t ∧ ¬ t.toNat ≤ maxTimestamp := by
      by_contra hnone
      refine h ⟨hcreated, fun t ht => ?_⟩
      by_contra hexpires
      exact hnone ⟨t, ht, hexpires⟩
    refine ⟨[("created", .integer p.created.toNat)], "expires",
      (p.nonce.toList.map fun n => ("nonce", .string n))
        ++ [("alg", .string p.alg), ("keyid", .string p.keyId)],
      t.toNat, ?_, ?_, by decide, hlarge hexpires⟩
    · rw [declarations, ht]
      rfl
    · intro e he
      obtain rfl := List.mem_singleton.1 he
      exact ⟨(by decide : StructuredField.isKey "created" = true), canonical_timestamp hcreated⟩
  · -- creation is declared first
    exact ⟨[], "created", _, p.created.toNat, rfl, by simp, by decide, hlarge hcreated⟩

/-- The member of parameters is refused if a point in time cannot be written. -/
theorem refused_member {p : SignatureParams} (h : ¬ p.Timely) :
    StructuredField.Parser.Refused p.member := by
  obtain ⟨es, k, more, n, heq, hes, hk, hn⟩ := exists_declarations_eq h
  refine StructuredField.Parser.refused_innerList ?_ heq hes hk hn
  intro i hi
  obtain ⟨id, -, rfl⟩ := List.mem_map.1 hi
  exact id.canonical_item

/-- The member is printable, whatever the points in time. -/
theorem printable_member {p : SignatureParams} (hp : p.Writable) :
    p.member.All BareItem.Printable :=
  member_all hp (fun s hs => (StructuredField.isPrintable_quoted s).trans hs)
    (StructuredField.isPrintable_integerText _) fun _ _ => StructuredField.isPrintable_integerText _

/-- The canonical text is printable, whatever the points in time. -/
theorem isPrintable_text {p : SignatureParams} (hp : p.Writable) :
    Text.isPrintable p.text = true := by
  rw [← text_member]
  exact StructuredField.isPrintable_memberText (printable_member hp)

/-! ### Reading the member -/

theorem readTimestamp_toNat (name : String) (t : Timestamp) :
    readTimestamp name (.integer t.toNat) = .ok t := by
  simp [readTimestamp]

/-- Reading the declarations gives them back. -/
theorem foldlM_declarations (p : SignatureParams) :
    p.declarations.foldlM (fun d e => Declared.add d e.1 e.2) {}
      = .ok ⟨some p.created, p.expires, p.nonce, some p.alg, some p.keyId⟩ := by
  -- a point in time is read back as it was written
  have hcreated (d : Declared) (t : Timestamp) :
      d.add "created" (.integer t.toNat) = .ok { d with created := some t } := by
    simp only [Declared.add, readTimestamp_toNat, Except.map]
  have hexpires (d : Declared) (t : Timestamp) :
      d.add "expires" (.integer t.toNat) = .ok { d with expires := some t } := by
    simp only [Declared.add, readTimestamp_toNat, Except.map]
  -- the reader overwrites one field at a time, so the order of the declarations does not matter
  obtain ⟨created, expires, nonce, alg, keyId, covered, received⟩ := p
  cases expires <;> cases nonce <;>
    simp only [declarations, Option.toList_none, Option.toList_some, List.map_nil, List.map_cons,
      List.cons_append, List.nil_append, List.append_nil, List.foldlM_cons, hcreated, hexpires,
      Fallible.ok_bind] <;> rfl

theorem mapM_ofItem_item (ids : List ComponentId) :
    (ids.map ComponentId.item).mapM ComponentId.ofItem = .ok ids :=
  Fallible.mapM_eq_ok.2 <| by
    rw [List.forall₂_map_left_iff]
    exact List.forall₂_same.2 fun id _ => id.ofItem_item

/-- **Reading what was written.** The member of parameters declares them; the received text is the
canonical one. -/
theorem ofMember_member {p : SignatureParams} (hnodup : p.covered.Nodup) :
    ofMember p.member = .ok { p with received := some p.text } := by
  have hitems : ((p.covered.map ComponentId.item).mapM ComponentId.ofItem).mapError
      HeaderFault.component = .ok p.covered := Fallible.mapError_eq_ok.2 (mapM_ofItem_item _)
  rw [← text_member, member]
  simp only [ofMember]
  rw [hitems, Fallible.ok_bind, if_neg (not_not.2 hnodup), foldlM_declarations]
  rfl

/-- The strings that have been declared are printable. -/
structure Declared.Printable (d : Declared) : Prop where
  nonce : ∀ s ∈ d.nonce, Text.isPrintable s = true
  alg : ∀ s ∈ d.alg, Text.isPrintable s = true
  keyId : ∀ s ∈ d.keyId, Text.isPrintable s = true

theorem isPrintable_of_readString {name s : String} {b : BareItem} (hb : b.WellFormed)
    (h : readString name b = .ok s) : Text.isPrintable s = true := by
  cases b with
  | string s' =>
    cases h
    exact hb
  | _ => cases h

theorem Declared.Printable.add {d d' : Declared} {name : String} {b : BareItem}
    (hd : d.Printable) (hb : b.WellFormed) (h : d.add name b = .ok d') : d'.Printable := by
  -- strings that are read are printable, since only such strings are well-formed
  have hnew {name s : String} (h : readString name b = .ok s) :
      ∀ s' ∈ some s, Text.isPrintable s' = true := by
    rintro s' hs'
    obtain rfl := Option.some.inj hs'
    exact isPrintable_of_readString hb h
  unfold Declared.add at h
  -- one case for each name that is known, and one for all others
  split at h
  · obtain ⟨t, -, rfl⟩ := Fallible.map_eq_ok.1 h
    exact ⟨hd.nonce, hd.alg, hd.keyId⟩
  · obtain ⟨t, -, rfl⟩ := Fallible.map_eq_ok.1 h
    exact ⟨hd.nonce, hd.alg, hd.keyId⟩
  · obtain ⟨s, hs, rfl⟩ := Fallible.map_eq_ok.1 h
    exact ⟨hnew hs, hd.alg, hd.keyId⟩
  · obtain ⟨s, hs, rfl⟩ := Fallible.map_eq_ok.1 h
    exact ⟨hd.nonce, hnew hs, hd.keyId⟩
  · obtain ⟨s, hs, rfl⟩ := Fallible.map_eq_ok.1 h
    exact ⟨hd.nonce, hd.alg, hnew hs⟩
  · cases h
    exact hd

theorem Declared.Printable.foldlM {es : List (String × BareItem)}
    (hes : ∀ e ∈ es, e.2.WellFormed) {d d' : Declared} (hd : d.Printable)
    (h : es.foldlM (fun d e => Declared.add d e.1 e.2) d = .ok d') : d'.Printable := by
  induction es generalizing d with
  | nil =>
    cases h
    exact hd
  | cons e es ih =>
    rw [List.foldlM_cons] at h
    obtain ⟨next, hnext, h⟩ := Fallible.bind_eq_ok.1 h
    exact ih (fun e he => hes e (List.mem_cons_of_mem _ he))
      (hd.add (hes e List.mem_cons_self) hnext) h

theorem required_eq_ok {α : Type} {name : String} {o : Option α} {a : α}
    (h : required name o = .ok a) : o = some a := by
  cases o with
  | none => cases h
  | some b =>
    cases h
    rfl

/-- **What is read** from a member: its items are the covered components, none twice; its strings
are printable; and its text is kept. -/
theorem ofMember_eq_ok {m : Member} {p : SignatureParams} (hm : m.WellFormed)
    (h : ofMember m = .ok p) :
    p.Writable ∧ p.received = some m.text
      ∧ ∃ items ps, m = .innerList items ps ∧ items.mapM ComponentId.ofItem = .ok p.covered := by
  cases m with
  | item i => cases h
  | innerList items ps =>
    -- components first, then the declarations, then those of them that are required
    simp only [ofMember] at h
    obtain ⟨covered, hcovered, h⟩ := Fallible.bind_eq_ok.1 h
    obtain ⟨hnodup, h⟩ := Fallible.guard_eq_ok.1 h
    obtain ⟨d, hd, h⟩ := Fallible.bind_eq_ok.1 h
    obtain ⟨created, -, h⟩ := Fallible.bind_eq_ok.1 h
    obtain ⟨alg, halg, h⟩ := Fallible.bind_eq_ok.1 h
    obtain ⟨keyId, hkeyId, h⟩ := Fallible.bind_eq_ok.1 h
    cases h
    have hnone : ∀ s ∈ (none : Option String), Text.isPrintable s = true := by simp
    have hprintable : d.Printable := Declared.Printable.foldlM (fun e he => (hm.2 e he).2)
      ⟨hnone, hnone, hnone⟩ hd
    -- `alg` and `keyid` have to be declared, so what is kept of them is what was declared
    exact ⟨⟨not_not.1 hnodup, hprintable.nonce, hprintable.alg alg (required_eq_ok halg),
        hprintable.keyId keyId (required_eq_ok hkeyId)⟩, rfl, items, ps, rfl,
      Fallible.mapError_eq_ok.1 hcovered⟩

/-! ### Freshness -/

theorem checkFreshness_eq_ok {p : SignatureParams} {now : Timestamp} :
    p.checkFreshness now = .ok () ↔ p.created ≤ now ∧ ∀ t ∈ p.expires, now ≤ t := by
  unfold checkFreshness
  split
  · next h => exact ⟨nofun, fun hp => absurd hp.1 (UInt64.not_le.2 h)⟩
  · next h =>
    rw [UInt64.not_lt] at h
    cases p.expires with
    | none => simpa using h
    | some t =>
      -- an end of validity is compared in its turn
      simp only [Option.mem_def, Option.some.injEq, forall_eq', h, true_and]
      split
      · next ht => exact ⟨nofun, fun hle => absurd ht (UInt64.not_lt.2 hle)⟩
      · next ht => exact ⟨fun _ => UInt64.not_lt.1 ht, fun _ => rfl⟩

theorem checkFreshness_eq_error {p : SignatureParams} {now : Timestamp} {e : Error} :
    p.checkFreshness now = .error e ↔ (now < p.created ∧ e = .notYetValid)
      ∨ (p.created ≤ now ∧ ∃ t, p.expires = some t ∧ t < now ∧ e = .expired) := by
  unfold checkFreshness
  split
  · next h =>
    rw [Except.error.injEq]
    refine ⟨fun he => .inl ⟨h, he.symm⟩, ?_⟩
    rintro (⟨-, rfl⟩ | ⟨hle, -⟩)
    · rfl
    · exact absurd h (UInt64.not_lt.2 hle)
  · next h =>
    rw [UInt64.not_lt] at h
    have hearly : ¬ now < p.created := UInt64.not_lt.2 h
    cases p.expires with
    | none => simp [hearly]
    | some t =>
      simp only [hearly, h, false_and, false_or, true_and, Option.some.injEq, exists_eq_left']
      split
      · next ht => simp [ht, eq_comm]
      · next ht => simp [ht]

/-! ### Obtained parameters -/

/-- **Obtained parameters.** Those that a program can come by. -/
inductive Obtained : SignatureParams → Prop where
  | new {covered : List ComponentId} {created : Timestamp} {alg : Algorithm} {keyId : String}
      {p : SignatureParams} (h : new covered created alg keyId = .ok p) : Obtained p
  | parse {s : String} {p : SignatureParams} (h : parse s = .ok p) : Obtained p
  | entry {s label : String} {m : OrderedMap SignatureParams} {p : SignatureParams}
      (h : parseSignatureInput s = .ok m) (hp : (label, p) ∈ m.entries) : Obtained p
  | setExpires {p : SignatureParams} (t : Timestamp) (hp : Obtained p) : Obtained (p.setExpires t)
  | setExpiresAfter {p : SignatureParams} (seconds : UInt64) (hp : Obtained p) :
      Obtained (p.setExpiresAfter seconds)
  | setNonce {p q : SignatureParams} {nonce : String} (hp : Obtained p)
      (h : p.setNonce nonce = .ok q) : Obtained q

theorem new_eq_ok {covered : List ComponentId} {created : Timestamp} {alg : Algorithm}
    {keyId : String} {p : SignatureParams} :
    new covered created alg keyId = .ok p ↔ covered.Nodup ∧ keyId ≠ ""
      ∧ Text.isPrintable keyId = true
      ∧ p = ⟨created, none, none, alg.tag, keyId, covered, none⟩ := by
  unfold new
  split
  · -- a repeated component is the first thing to be refused
    next h => exact ⟨nofun, fun hp => absurd hp.1 h⟩
  · next hnodup =>
    split
    · next h =>
      refine ⟨nofun, fun hp => ?_⟩
      simp [hp.2.1, hp.2.2.1] at h
    · next h =>
      simp only [Bool.or_eq_true, beq_iff_eq, Bool.not_eq_true', not_or, Bool.not_eq_false] at h
      refine ⟨fun hp => ⟨not_not.1 hnodup, h.1, h.2, (Except.ok.inj hp).symm⟩, fun hp => ?_⟩
      rw [hp.2.2.2]

theorem writable_new {covered : List ComponentId} {created : Timestamp} {alg : Algorithm}
    {keyId : String} {p : SignatureParams} (h : new covered created alg keyId = .ok p) :
    p.Writable ∧ p.received = none := by
  obtain ⟨hnodup, -, hkeyId, rfl⟩ := new_eq_ok.1 h
  have halg : Text.isPrintable alg.tag = true := by cases alg <;> decide
  exact ⟨⟨hnodup, by simp, halg, hkeyId⟩, rfl⟩

theorem setNonce_eq_ok {p q : SignatureParams} {nonce : String} :
    p.setNonce nonce = .ok q
      ↔ Text.isPrintable nonce = true ∧ q = { p with nonce := some nonce, received := none } := by
  unfold setNonce
  split
  · next h => exact ⟨fun hq => ⟨h, (Except.ok.inj hq).symm⟩, fun hq => congrArg _ hq.2.symm⟩
  · next h => exact ⟨nofun, fun hq => absurd hq.1 h⟩

/-- **An entry** of a header was read from a member of it. -/
theorem exists_member_of_entry {s label : String} {inputs : OrderedMap SignatureParams}
    {p : SignatureParams} (h : parseSignatureInput s = .ok inputs)
    (hp : (label, p) ∈ inputs.entries) :
    ∃ m : Member, m.WellFormed ∧ ofMember m = .ok p := by
  unfold parseSignatureInput at h
  split at h
  · cases h
  · next d hd =>
    have hall := OrderedMap.traverse_eq_ok_iff.1 (Fallible.mapError_eq_ok.1 h)
    -- the entry comes of a member of the dictionary that was read
    obtain ⟨e, he, -, hread⟩ := Fallible.exists_left_of_mem hall hp
    exact ⟨e.2, (StructuredField.wellFormed_of_parseDictionary hd e he).2, hread⟩

/-- **Two kinds.** Obtained parameters can be written, and they were either read from a member or
have no received text. -/
theorem Obtained.writable_and {p : SignatureParams} (h : p.Obtained) :
    p.Writable ∧ (p.received = none
      ∨ ∃ m : Member, m.WellFormed ∧ ofMember m = .ok p) := by
  induction h with
  | new h =>
    obtain ⟨hp, hreceived⟩ := writable_new h
    exact ⟨hp, .inl hreceived⟩
  | parse h =>
    unfold SignatureParams.parse at h
    split at h
    · cases h
    · next m hm =>
      have hwf := StructuredField.wellFormed_of_parseList hm m List.mem_cons_self
      have hread := Fallible.mapError_eq_ok.1 h
      exact ⟨(ofMember_eq_ok hwf hread).1, .inr ⟨m, hwf, hread⟩⟩
    · cases h
  | entry h hp =>
    obtain ⟨m, hwf, hread⟩ := exists_member_of_entry h hp
    exact ⟨(ofMember_eq_ok hwf hread).1, .inr ⟨m, hwf, hread⟩⟩
  -- a setter drops the received text
  | setExpires t hp ih =>
    obtain ⟨⟨hnodup, hnonce, halg, hkeyId⟩, -⟩ := ih
    exact ⟨⟨hnodup, hnonce, halg, hkeyId⟩, .inl rfl⟩
  | setExpiresAfter seconds hp ih =>
    obtain ⟨⟨hnodup, hnonce, halg, hkeyId⟩, -⟩ := ih
    exact ⟨⟨hnodup, hnonce, halg, hkeyId⟩, .inl rfl⟩
  | setNonce hp h ih =>
    obtain ⟨⟨hnodup, -, halg, hkeyId⟩, -⟩ := ih
    obtain ⟨hprintable, rfl⟩ := setNonce_eq_ok.1 h
    refine ⟨⟨hnodup, ?_, halg, hkeyId⟩, .inl rfl⟩
    rintro n hn
    obtain rfl := Option.some.inj hn
    exact hprintable

theorem Obtained.writable {p : SignatureParams} (h : p.Obtained) : p.Writable :=
  h.writable_and.1

/-- **What is signed** of obtained parameters is printable, and it is the text of a member that
lists what they cover. -/
theorem Obtained.exists_signedList {p : SignatureParams} (h : p.Obtained) :
    Text.isPrintable p.baseText = true
      ∧ ∃ items ps, (Member.innerList items ps).text = p.baseText
        ∧ (∀ i ∈ items, i.All BareItem.Canonical)
        ∧ items.mapM ComponentId.ofItem = .ok p.covered := by
  obtain ⟨hp, hreceived | ⟨m, hwf, hread⟩⟩ := h.writable_and
  · -- without a received text, what is signed is the text of the canonical member
    have hbase : p.baseText = p.text := by rw [baseText, hreceived, Option.getD_none]
    rw [hbase]
    refine ⟨isPrintable_text hp, p.covered.map ComponentId.item, _, text_member p, ?_,
      mapM_ofItem_item _⟩
    intro i hi
    obtain ⟨id, -, rfl⟩ := List.mem_map.1 hi
    exact id.canonical_item
  · -- otherwise it is the text of the member that was read
    obtain ⟨-, hreceived, items, ps, rfl, hcovered⟩ := ofMember_eq_ok hwf hread
    have hbase : p.baseText = (Member.innerList items ps).text := by
      rw [baseText, hreceived, Option.getD_some]
    rw [hbase]
    have hprintable : (Member.innerList items ps).All BareItem.Printable :=
      hwf.mono fun _ hb => hb.printable
    refine ⟨StructuredField.isPrintable_memberText hprintable, items, ps, rfl, ?_, hcovered⟩
    intro i hi
    -- its items are canonical, since every item that stands for a component is a plain string
    obtain ⟨id, -, hid⟩ := Fallible.exists_right_of_mem (Fallible.mapM_eq_ok.1 hcovered) hi
    obtain ⟨s, rfl⟩ := ComponentId.exists_string_of_ofItem hid
    exact Item.all_empty ⟨(hwf.1 _ hi).1, nofun⟩

/-- **What is signed tells what is covered.** -/
theorem covered_eq_of_baseText_eq {p q : SignatureParams} (hp : p.Obtained) (hq : q.Obtained)
    (h : p.baseText = q.baseText) : p.covered = q.covered := by
  -- both texts are those of canonical members
  obtain ⟨-, items, ps, htext, hitems, hcovered⟩ := hp.exists_signedList
  obtain ⟨-, items', ps', htext', hitems', hcovered'⟩ := hq.exists_signedList
  have hopen : "(".toList = ['('] := rfl
  have hclose : ")".toList = [')'] := rfl
  have heq : (Member.innerList items ps).text.toList
      = (Member.innerList items' ps').text.toList := by
    rw [htext, htext', h]
  simp only [Member.text, String.toList_append, hopen, hclose, List.append_assoc, List.cons_append,
    List.nil_append, List.cons.injEq, true_and] at heq
  -- one bound serves to read either list
  have hbound : items.length < items.length + items'.length + 1 := by omega
  have hbound' : items'.length < items.length + items'.length + 1 := by omega
  -- the reader tells the components from the text alone
  have hread := congrArg (StructuredField.Parser.innerItems (items.length + items'.length + 1)) heq
  rw [StructuredField.Parser.innerItems_text hitems hbound,
    StructuredField.Parser.innerItems_text hitems' hbound', Option.some.injEq,
    Prod.mk.injEq] at hread
  rw [← hread.1, hcovered, Except.ok.injEq] at hcovered'
  exact hcovered'

end SignatureParams

end MessageSignatures
