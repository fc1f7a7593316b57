import MessageSignatures.Proofs.ContentDigest
import MessageSignatures.Proofs.Signature.Unambiguous
import MessageSignatures.Proofs.Verifier

/-!
# The decision of a verifier

What a verifier answers to a request, told by the headers and the keys and not by the functions that
find the answer.

* **Acceptance** (`Accepts`) lists what has to hold: a signature is selected, it is current and
  valid, and a digest that can be read is the digest of the body.
* **Rejection** (`Rejects`, and `Fails` for a signature that has been selected) has one rule for
  each place where a request can fail. A rule also says that the places before it have been passed,
  so the rules tell the order in which faults are found.

`verify_decides` — a verifier accepts exactly the requests that are accepted, and gives an error
exactly if a rule of rejection does. A verifier always answers, so every request falls under one of
the two, and no request falls under two rules with different errors.

The proof has an equivalence for success and one for failure of each stage, in the order of the
stages.
-/

namespace MessageSignatures

open StructuredField (Member)

/-- **Text of a field.** Its readable values, joined by commas. -/
def RequestView.fieldText (v : RequestView) (n : FieldName) : String :=
  ", ".intercalate (v.headerValues n)

/-- **Digest of the body.** The lines of the `content-digest` header, joined, are a dictionary, and
its member `sha-512` is the digest of the body. -/
def RequestView.HoldsDigest (v : RequestView) : Prop :=
  ∃ d ps, StructuredField.parseDictionary (v.fieldText .contentDigest) = some d
    ∧ (ContentDigest.key, Member.item ⟨.octets (Sha2.sha512 v.body), ps⟩) ∈ d.entries

namespace Verifier

/-! ### Acceptance and rejection -/

/-- **Known key.** The key that is stored under the id, or else the one that the resolver gives for
the id and the declared algorithm. -/
inductive HasKey (r : Verifier) (p : SignatureParams) (key : VerifyingKey) : Prop where
  | stored (h : (p.keyId, key) ∈ r.keys.entries)
  | resolved {resolve : KeyResolver} (hid : p.keyId ∉ r.keys.ids)
      (hresolver : r.resolver = some resolve) (h : resolve p.keyId p.alg = some key)

/-- **Declared signatures.** The lines of the `signature-input` header, joined, are read as the
map. -/
structure Reads (v : RequestView) (inputs : OrderedMap SignatureParams) : Prop where
  present : v.headerValues .signatureInput ≠ []
  parsed : parseSignatureInput (v.fieldText .signatureInput) = .ok inputs

/-- **Selected signature.** The first of those declared that has a known key. -/
structure Selects (r : Verifier) (v : RequestView) (s : Selection) : Prop where
  first : ∃ inputs before after, Reads v inputs
    ∧ inputs.entries = before ++ (s.label, s.params) :: after
    ∧ ∀ e ∈ before, ∀ key, ¬ r.HasKey e.2 key
  known : r.HasKey s.params s.key

/-- **Current signature.** The declared algorithm is that of the key, and the time of validity has
begun and has not ended. -/
structure Current (now : Timestamp) (s : Selection) : Prop where
  alg : s.params.alg = s.key.alg.tag
  created : s.params.created ≤ now
  expires : ∀ t ∈ s.params.expires, now ≤ t

/-- **Signature under a label.** The lines of the `signature` header, joined, are a dictionary, and
its member under the label is an octet string. -/
structure Carries (v : RequestView) (label : String) (signature : List UInt8) : Prop where
  present : v.headerValues .signature ≠ []
  member : ∃ d ps, StructuredField.parseDictionary (v.fieldText .signature) = some d
    ∧ (label, Member.item ⟨.octets signature, ps⟩) ∈ d.entries

/-- **Valid signature.** It is current, every covered component has a value, and the key accepts the
signature under the label over the base. -/
structure Valid (now : Timestamp) (v : RequestView) (s : Selection) : Prop where
  current : Current now s
  signed : ∃ b signature, SignatureBase.build v s.params = .ok b ∧ Carries v s.label signature
    ∧ s.key.accepts b.octets signature = true

/-- **Accepted request.** -/
structure Accepts (r : Verifier) (now : Timestamp) (v : RequestView) (s : Selection) : Prop where
  selected : r.Selects v s
  valid : Valid now v s
  digest : v.headerValues .contentDigest ≠ [] → v.HoldsDigest

/-- **Faults of a selected signature**, in the order in which they are found. -/
inductive Fails (now : Timestamp) (v : RequestView) (s : Selection) : Error → Prop where
  | algorithm (h : s.params.alg ≠ s.key.alg.tag) :
      Fails now v s (.algorithmMismatch s.params.alg s.key.alg)
  | early (halg : s.params.alg = s.key.alg.tag) (h : now < s.params.created) :
      Fails now v s .notYetValid
  | late (halg : s.params.alg = s.key.alg.tag) (hcreated : s.params.created ≤ now) {t : Timestamp}
      (ht : s.params.expires = some t) (h : t < now) : Fails now v s .expired
  /-- The first covered component without a value has none at all. -/
  | absent (hcurrent : Current now s) {before after : List ComponentId} {id : ComponentId}
      (hcovered : s.params.covered = before ++ id :: after)
      (hbefore : ∀ i ∈ before, ∃ x, v.componentValue i = .ok x)
      (h : v.componentValue id = .error (.missingComponent id.name)) :
      Fails now v s (.missingComponent id.name)
  /-- The first covered component without a value has one that is no text. -/
  | unreadable (hcurrent : Current now s) {before after : List ComponentId} {id : ComponentId}
      (hcovered : s.params.covered = before ++ id :: after)
      (hbefore : ∀ i ∈ before, ∃ x, v.componentValue i = .ok x)
      (h : v.componentValue id = .error (.unreadableComponent id.name)) :
      Fails now v s (.unreadableComponent id.name)
  | noSignature (hcurrent : Current now s) {b : SignatureBase}
      (hbase : SignatureBase.build v s.params = .ok b) (h : v.headerValues .signature = []) :
      Fails now v s .missingSignature
  | undecodable (hcurrent : Current now s) {b : SignatureBase}
      (hbase : SignatureBase.build v s.params = .ok b) (hpresent : v.headerValues .signature ≠ [])
      (h : StructuredField.parseDictionary (v.fieldText .signature) = none) :
      Fails now v s (.malformedHeader .undecodableSignature)
  | noMember (hcurrent : Current now s) {b : SignatureBase}
      (hbase : SignatureBase.build v s.params = .ok b) (hpresent : v.headerValues .signature ≠ [])
      {d : StructuredField.Dictionary}
      (hd : StructuredField.parseDictionary (v.fieldText .signature) = some d)
      (h : s.label ∉ d.keys) : Fails now v s .missingSignature
  | notOctets (hcurrent : Current now s) {b : SignatureBase}
      (hbase : SignatureBase.build v s.params = .ok b) (hpresent : v.headerValues .signature ≠ [])
      {d : StructuredField.Dictionary}
      (hd : StructuredField.parseDictionary (v.fieldText .signature) = some d)
      {m : Member} (hm : (s.label, m) ∈ d.entries)
      (h : ∀ octets ps, m ≠ .item ⟨.octets octets, ps⟩) :
      Fails now v s (.malformedHeader (.notOctets s.label))
  | notAccepted (hcurrent : Current now s) {b : SignatureBase} {signature : List UInt8}
      (hbase : SignatureBase.build v s.params = .ok b) (hsignature : Carries v s.label signature)
      (h : s.key.accepts b.octets signature = false) : Fails now v s .invalidSignature

/-- **Rejected request**, with the first fault. -/
inductive Rejects (r : Verifier) (now : Timestamp) (v : RequestView) : Error → Prop where
  | noInput (h : v.headerValues .signatureInput = []) : Rejects r now v .missingSignature
  | malformedInput (hpresent : v.headerValues .signatureInput ≠ []) {fault : HeaderFault}
      (h : parseSignatureInput (v.fieldText .signatureInput) = .error (.malformedHeader fault)) :
      Rejects r now v (.malformedHeader fault)
  | emptyInput {inputs : OrderedMap SignatureParams} (hread : Reads v inputs)
      (h : inputs.entries = []) : Rejects r now v .missingSignature
  | unknownKey {inputs : OrderedMap SignatureParams} (hread : Reads v inputs)
      (hne : inputs.entries ≠ []) (h : ∀ e ∈ inputs.entries, ∀ key, ¬ r.HasKey e.2 key) :
      Rejects r now v .unknownKeyId
  | signature {s : Selection} (hs : r.Selects v s) {e : Error} (h : Fails now v s e) :
      Rejects r now v e
  | digest {s : Selection} (hs : r.Selects v s) (hvalid : Valid now v s)
      (hpresent : v.headerValues .contentDigest ≠ []) (h : ¬ v.HoldsDigest) :
      Rejects r now v .digestMismatch

variable {r : Verifier} {v : RequestView} {now : Timestamp} {s : Selection} {e : Error}

/-! ### Declared signatures -/

/-- A header that cannot be read is malformed. -/
theorem exists_fault_of_parseSignatureInput {t : String}
    (h : parseSignatureInput t = .error e) : ∃ fault, e = .malformedHeader fault := by
  unfold parseSignatureInput at h
  split at h
  · exact ⟨_, (Except.error.inj h).symm⟩
  · obtain ⟨fault, -, rfl⟩ := Fallible.mapError_eq_error.1 h
    exact ⟨fault, rfl⟩

/-- With a `signature-input` header, what is declared is what is read from the header, unless that
is nothing. -/
theorem declared_of_present (h : v.headerValues .signatureInput ≠ []) :
    declared v = parseSignatureInput (v.fieldText .signatureInput) >>= fun inputs =>
      if inputs.isEmpty then .error .missingSignature else .ok inputs.entries := by
  unfold declared RequestView.fieldText
  cases hlines : v.headerValues .signatureInput with
  | nil => exact absurd hlines h
  | cons line lines =>
    simp only
    cases parseSignatureInput (", ".intercalate (line :: lines)) <;> rfl

theorem declared_eq_ok {es : List (String × SignatureParams)} :
    declared v = .ok es ↔ ∃ inputs, Reads v inputs ∧ inputs.entries = es ∧ es ≠ [] := by
  -- without lines the answer is settled before anything is read
  by_cases hlines : v.headerValues .signatureInput = []
  · have hdeclared : declared v = .error .missingSignature := by rw [declared, hlines]
    rw [hdeclared]
    exact ⟨nofun, fun ⟨_, hread, _⟩ => absurd hlines hread.present⟩
  rw [declared_of_present hlines, Fallible.bind_eq_ok]
  constructor
  · -- the lines are read, and what is read may still be nothing
    rintro ⟨inputs, hparsed, h⟩
    split at h
    · cases h
    · next hne =>
      cases h
      exact ⟨inputs, ⟨hlines, hparsed⟩, rfl, fun h => hne (List.isEmpty_iff.2 h)⟩
  · rintro ⟨inputs, hread, rfl, hne⟩
    exact ⟨inputs, hread.parsed, if_neg fun h => hne (List.isEmpty_iff.1 h)⟩

theorem declared_eq_error :
    declared v = .error e ↔ (v.headerValues .signatureInput = [] ∧ e = .missingSignature)
      ∨ (v.headerValues .signatureInput ≠ []
        ∧ parseSignatureInput (v.fieldText .signatureInput) = .error e)
      ∨ ∃ inputs, Reads v inputs ∧ inputs.entries = [] ∧ e = .missingSignature := by
  -- as before, the lines may be missing
  by_cases hlines : v.headerValues .signatureInput = []
  · have hdeclared : declared v = .error .missingSignature := by rw [declared, hlines]
    rw [hdeclared, Except.error.injEq]
    refine ⟨fun h => .inl ⟨hlines, h.symm⟩, ?_⟩
    rintro (⟨-, rfl⟩ | ⟨hne, -⟩ | ⟨_, -, -, rfl⟩)
    · rfl
    · exact absurd hlines hne
    · rfl
  rw [declared_of_present hlines, Fallible.bind_eq_error]
  constructor
  · rintro (h | ⟨inputs, hparsed, h⟩)
    · exact .inr (.inl ⟨hlines, h⟩)
    · split at h
      · next hempty =>
        exact .inr (.inr ⟨inputs, ⟨hlines, hparsed⟩, List.isEmpty_iff.1 hempty,
          (Except.error.inj h).symm⟩)
      · cases h
  · rintro (⟨hnil, -⟩ | ⟨-, h⟩ | ⟨inputs, hread, hempty, rfl⟩)
    · exact absurd hnil hlines
    · exact .inl h
    · exact .inr ⟨inputs, hread.parsed, if_pos (List.isEmpty_iff.2 hempty)⟩

/-! ### Selection -/

theorem keyFor?_eq_some {p : SignatureParams} {key : VerifyingKey} :
    r.keyFor? p.keyId p.alg = some key ↔ r.HasKey p key := by
  unfold keyFor?
  -- the resolver is asked only for ids that are not stored
  cases hstored : r.keys.get? p.keyId with
  | some stored =>
    -- an id that is stored has the key that is stored, and the resolver is not asked
    have hmem : (p.keyId, stored) ∈ r.keys.entries := OrderedMap.get?_eq_some_iff.1 hstored
    constructor
    · intro h
      obtain rfl : stored = key := Option.some.inj h
      exact .stored hmem
    · rintro (hkey | ⟨hid, -, -⟩)
      · exact hstored.symm.trans (OrderedMap.get?_eq_some_iff.2 hkey)
      · exact absurd (List.mem_map_of_mem hmem) hid
  | none =>
    have hid : p.keyId ∉ r.keys.ids := OrderedMap.get?_eq_none_iff.1 hstored
    constructor
    · intro h
      obtain ⟨resolve, hresolver, hkey⟩ := Option.bind_eq_some_iff.1 h
      exact .resolved hid hresolver hkey
    · rintro (hkey | ⟨-, hresolver, hkey⟩)
      · exact absurd (List.mem_map_of_mem hkey) hid
      · exact Option.bind_eq_some_iff.2 ⟨_, hresolver, hkey⟩

theorem keyFor?_eq_none {p : SignatureParams} :
    r.keyFor? p.keyId p.alg = none ↔ ∀ key, ¬ r.HasKey p key := by
  rw [Option.eq_none_iff_forall_ne_some]
  exact forall_congr' fun key => not_congr keyFor?_eq_some

/-- Selection goes through the declared signatures until one has a known key. -/
theorem select?_eq_findSome? (inputs : List (String × SignatureParams)) :
    r.select? inputs = inputs.findSome? fun e =>
      (r.keyFor? e.2.keyId e.2.alg).map fun key => ⟨e.1, e.2, key⟩ := by
  induction inputs with
  | nil => rfl
  | cons input inputs ih =>
    obtain ⟨label, params⟩ := input
    rw [select?, List.findSome?_cons]
    cases r.keyFor? params.keyId params.alg with
    | some key => rfl
    | none => exact ih

theorem select?_eq_some {inputs : List (String × SignatureParams)} :
    r.select? inputs = some s ↔ (∃ before after, inputs = before ++ (s.label, s.params) :: after
        ∧ ∀ e ∈ before, ∀ key, ¬ r.HasKey e.2 key)
      ∧ r.HasKey s.params s.key := by
  rw [select?_eq_findSome?, List.findSome?_eq_some_iff]
  -- whoever is passed over has no key, and the one that is found has the key that is looked up
  constructor
  · rintro ⟨before, ⟨label, params⟩, after, rfl, hselect, hbefore⟩
    obtain ⟨key, hkey, rfl⟩ := Option.map_eq_some_iff.1 hselect
    refine ⟨⟨before, after, rfl, fun e he => ?_⟩, keyFor?_eq_some.1 hkey⟩
    exact keyFor?_eq_none.1 (Option.map_eq_none_iff.1 (hbefore e he))
  · rintro ⟨⟨before, after, rfl, hbefore⟩, hkey⟩
    refine ⟨before, (s.label, s.params), after, rfl, ?_, ?_⟩
    · rw [keyFor?_eq_some.2 hkey, Option.map_some]
    · exact fun e he => Option.map_eq_none_iff.2 (keyFor?_eq_none.2 (hbefore e he))

theorem select?_eq_none {inputs : List (String × SignatureParams)} :
    r.select? inputs = none ↔ ∀ e ∈ inputs, ∀ key, ¬ r.HasKey e.2 key := by
  rw [select?_eq_findSome?, List.findSome?_eq_none_iff]
  exact forall₂_congr fun e _ => Option.map_eq_none_iff.trans keyFor?_eq_none

/-- **What is selected** from the declared signatures. -/
theorem selects_iff :
    r.Selects v s ↔ ∃ inputs, declared v = .ok inputs ∧ r.select? inputs = some s := by
  constructor
  · -- behind others or not, the selected one shows that something is declared
    rintro ⟨⟨inputs, before, after, hread, hentries, hbefore⟩, hknown⟩
    refine ⟨inputs.entries, declared_eq_ok.2 ⟨inputs, hread, rfl, ?_⟩,
      select?_eq_some.2 ⟨⟨before, after, hentries, hbefore⟩, hknown⟩⟩
    rw [hentries]
    exact List.append_ne_nil_of_right_ne_nil before (List.cons_ne_nil _ after)
  · rintro ⟨es, hdeclared, hselect⟩
    obtain ⟨inputs, hread, rfl, -⟩ := declared_eq_ok.1 hdeclared
    obtain ⟨⟨before, after, hentries, hbefore⟩, hknown⟩ := select?_eq_some.1 hselect
    exact ⟨⟨inputs, before, after, hread, hentries, hbefore⟩, hknown⟩

/-! ### The check of a selected signature -/

/-- With a `signature` header, the signature is read from the header. -/
theorem signatureOf_of_present (h : v.headerValues .signature ≠ []) (label : String) :
    signatureOf v label = parseSignature (v.fieldText .signature) label := by
  unfold signatureOf RequestView.fieldText
  split
  · next hnil => exact absurd hnil h
  · rfl

theorem signatureOf_eq_ok {label : String} {signature : List UInt8} :
    signatureOf v label = .ok signature ↔ Carries v label signature := by
  -- as with what is declared, the lines may be missing
  by_cases hlines : v.headerValues .signature = []
  · have hnone : signatureOf v label = .error .missingSignature := by rw [signatureOf, hlines]
    rw [hnone]
    exact ⟨nofun, fun h => absurd hlines h.present⟩
  rw [signatureOf_of_present hlines, parseSignature]
  constructor
  · -- the dictionary, then the member under the label, then its octets
    intro h
    split at h
    · cases h
    · next d hd =>
      split at h
      · next m hm =>
        obtain ⟨ps, rfl⟩ := signatureOctets_eq_ok.1 h
        exact ⟨hlines, d, ps, hd, OrderedMap.get?_eq_some_iff.1 hm⟩
      · cases h
  · rintro ⟨-, d, ps, hd, hmem⟩
    simp only [hd, OrderedMap.get?_eq_some_iff.2 hmem]
    rfl

theorem signatureOf_eq_error {label : String} :
    signatureOf v label = .error e
      ↔ (v.headerValues .signature = [] ∧ e = .missingSignature)
        ∨ v.headerValues .signature ≠ []
          ∧ ((StructuredField.parseDictionary (v.fieldText .signature) = none
              ∧ e = .malformedHeader .undecodableSignature)
            ∨ ∃ d, StructuredField.parseDictionary (v.fieldText .signature) = some d
              ∧ ((label ∉ d.keys ∧ e = .missingSignature)
                ∨ ∃ m, (label, m) ∈ d.entries ∧ (∀ octets ps, m ≠ .item ⟨.octets octets, ps⟩)
                  ∧ e = .malformedHeader (.notOctets label))) := by
  by_cases hlines : v.headerValues .signature = []
  · have hnone : signatureOf v label = .error .missingSignature := by rw [signatureOf, hlines]
    rw [hnone, Except.error.injEq]
    simp [hlines, eq_comm]
  rw [signatureOf_of_present hlines, parseSignature]
  simp only [hlines, false_and, false_or, ne_eq, not_false_eq_true, true_and]
  -- each stage is told by one of the alternatives
  cases StructuredField.parseDictionary (v.fieldText .signature) with
  | none => simp [eq_comm]
  | some d =>
    simp only [reduceCtorEq, false_and, false_or, Option.some.injEq, exists_eq_left']
    -- the label has no member, or it has one
    cases hm : d.get? label with
    | none =>
      have hkey := OrderedMap.get?_eq_none_iff.1 hm
      have hnot (m : Member) : (label, m) ∉ d.entries := fun h =>
        hkey (List.mem_map_of_mem h)
      simp [hkey, hnot, eq_comm]
    | some m =>
      have hmem := OrderedMap.get?_eq_some_iff.1 hm
      have hkey : label ∈ d.keys := List.mem_map_of_mem hmem
      -- a label has one member, the one that was found
      have hunique (m' : Member) : (label, m') ∈ d.entries ↔ m' = m := by
        rw [← OrderedMap.get?_eq_some_iff, hm, Option.some.injEq, eq_comm]
      simp only [hkey, not_true_eq_false, false_and, false_or, hunique, exists_eq_left]
      exact signatureOctets_eq_error

theorem check_eq_ok_iff_valid : check now v s = .ok () ↔ Valid now v s := by
  rw [check_eq_ok, SignatureParams.checkFreshness_eq_ok]
  constructor
  · rintro ⟨halg, ⟨hcreated, hexpires⟩, b, signature, hb, hsignature, haccepts⟩
    exact ⟨⟨halg, hcreated, hexpires⟩, b, signature, hb, signatureOf_eq_ok.1 hsignature, haccepts⟩
  · rintro ⟨⟨halg, hcreated, hexpires⟩, b, signature, hb, hsignature, haccepts⟩
    exact ⟨halg, ⟨hcreated, hexpires⟩, b, signature, hb, signatureOf_eq_ok.2 hsignature, haccepts⟩

theorem verify_key_eq_error {key : VerifyingKey} {message signature : List UInt8} :
    key.verify message signature = .error e
      ↔ key.accepts message signature = false ∧ e = .invalidSignature := by
  unfold VerifyingKey.verify
  split
  · next h => simp [h]
  · next h => simp [h, eq_comm]

/-- A current signature gets past the first two stages of a check. -/
theorem check_of_current (h : Current now s) :
    check now v s = SignatureBase.build v s.params >>= fun b =>
      signatureOf v s.label >>= fun signature => b.verify s.key signature := by
  unfold check
  rw [if_neg (not_not.2 h.alg), SignatureParams.checkFreshness_eq_ok.2 ⟨h.created, h.expires⟩]
  rfl

/-- **A check fails** with the first fault of the signature. -/
theorem check_eq_error : check now v s = .error e ↔ Fails now v s e := by
  constructor
  · intro h
    unfold check at h
    -- the stages in their order, each of which has failed or has been passed
    rcases Fallible.guard_eq_error.1 h with ⟨halg, rfl⟩ | ⟨halg, h⟩
    · exact .algorithm halg
    rw [not_not] at halg
    rcases Fallible.bind_eq_error.1 h with h | ⟨⟨⟩, hfresh, h⟩
    · rcases SignatureParams.checkFreshness_eq_error.1 h with
        ⟨hearly, rfl⟩ | ⟨hcreated, t, ht, hlate, rfl⟩
      · exact .early halg hearly
      · exact .late halg hcreated ht hlate
    obtain ⟨hcreated, hexpires⟩ := SignatureParams.checkFreshness_eq_ok.1 hfresh
    have hcurrent : Current now s := ⟨halg, hcreated, hexpires⟩
    rcases Fallible.bind_eq_error.1 h with h | ⟨b, hb, h⟩
    · obtain ⟨before, id, after, hcovered, hbefore, hid⟩ := SignatureBase.build_eq_error.1 h
      rcases RequestView.componentValue_eq_error hid with rfl | rfl
      · exact .absent hcurrent hcovered hbefore hid
      · exact .unreadable hcurrent hcovered hbefore hid
    rcases Fallible.bind_eq_error.1 h with h | ⟨signature, hsignature, h⟩
    · rcases signatureOf_eq_error.1 h with
        ⟨hnone, rfl⟩ | ⟨hpresent, ⟨hd, rfl⟩ | ⟨d, hd, hmember⟩⟩
      · exact .noSignature hcurrent hb hnone
      · exact .undecodable hcurrent hb hpresent hd
      · rcases hmember with ⟨hlabel, rfl⟩ | ⟨m, hm, hother, rfl⟩
        · exact .noMember hcurrent hb hpresent hd hlabel
        · exact .notOctets hcurrent hb hpresent hd hm hother
    obtain ⟨hrefused, rfl⟩ := verify_key_eq_error.1 h
    exact .notAccepted hcurrent hb (signatureOf_eq_ok.1 hsignature) hrefused
  · intro h
    -- each rule passes the stages before its own, and there it makes the check stop
    cases h with
    | algorithm halg =>
      unfold check
      exact Fallible.guard_eq_error.2 (.inl ⟨halg, rfl⟩)
    | early halg hearly =>
      unfold check
      exact Fallible.guard_eq_error.2 (.inr ⟨not_not.2 halg, Fallible.bind_eq_error.2
        (.inl (SignatureParams.checkFreshness_eq_error.2 (.inl ⟨hearly, rfl⟩)))⟩)
    | late halg hcreated ht hlate =>
      unfold check
      exact Fallible.guard_eq_error.2 (.inr ⟨not_not.2 halg, Fallible.bind_eq_error.2
        (.inl (SignatureParams.checkFreshness_eq_error.2 (.inr ⟨hcreated, _, ht, hlate, rfl⟩)))⟩)
    | absent hcurrent hcovered hbefore hid =>
      rw [check_of_current hcurrent,
        SignatureBase.build_eq_error.2 ⟨_, _, _, hcovered, hbefore, hid⟩]
      rfl
    | unreadable hcurrent hcovered hbefore hid =>
      rw [check_of_current hcurrent,
        SignatureBase.build_eq_error.2 ⟨_, _, _, hcovered, hbefore, hid⟩]
      rfl
    | noSignature hcurrent hb hnone =>
      rw [check_of_current hcurrent, hb, Fallible.ok_bind,
        signatureOf_eq_error.2 (.inl ⟨hnone, rfl⟩)]
      rfl
    | undecodable hcurrent hb hpresent hd =>
      rw [check_of_current hcurrent, hb, Fallible.ok_bind,
        signatureOf_eq_error.2 (.inr ⟨hpresent, .inl ⟨hd, rfl⟩⟩)]
      rfl
    | noMember hcurrent hb hpresent hd hlabel =>
      rw [check_of_current hcurrent, hb, Fallible.ok_bind,
        signatureOf_eq_error.2 (.inr ⟨hpresent, .inr ⟨_, hd, .inl ⟨hlabel, rfl⟩⟩⟩)]
      rfl
    | notOctets hcurrent hb hpresent hd hm hother =>
      rw [check_of_current hcurrent, hb, Fallible.ok_bind,
        signatureOf_eq_error.2 (.inr ⟨hpresent, .inr ⟨_, hd, .inr ⟨_, hm, hother, rfl⟩⟩⟩)]
      rfl
    | notAccepted hcurrent hb hsignature hrefused =>
      rw [check_of_current hcurrent, hb, Fallible.ok_bind, signatureOf_eq_ok.2 hsignature,
        Fallible.ok_bind]
      exact verify_key_eq_error.2 ⟨hrefused, rfl⟩

/-! ### The signature and the digest -/

theorem verifySignature_eq_error :
    r.verifySignature now v = .error e ↔ declared v = .error e
      ∨ (∃ inputs, declared v = .ok inputs ∧ r.select? inputs = none ∧ e = .unknownKeyId)
      ∨ ∃ s, r.Selects v s ∧ Fails now v s e := by
  unfold verifySignature
  rw [Fallible.bind_eq_error]
  refine or_congr_right ?_
  constructor
  · -- after what is declared, either no key is known or the selected signature is checked
    rintro ⟨inputs, hinputs, h⟩
    split at h
    · next hnone => exact .inl ⟨inputs, hinputs, hnone, (Except.error.inj h).symm⟩
    · next s hs =>
      rcases Fallible.bind_eq_error.1 h with h | ⟨_, -, h⟩
      · exact .inr ⟨s, selects_iff.2 ⟨inputs, hinputs, hs⟩, check_eq_error.1 h⟩
      · cases h
  · rintro (⟨inputs, hinputs, hnone, rfl⟩ | ⟨s, hs, hfails⟩)
    · refine ⟨inputs, hinputs, ?_⟩
      rw [hnone]
      rfl
    · obtain ⟨inputs, hinputs, hselect⟩ := selects_iff.1 hs
      refine ⟨inputs, hinputs, ?_⟩
      rw [hselect]
      exact Fallible.bind_eq_error.2 (.inl (check_eq_error.2 hfails))

theorem verifySignature_eq_ok_iff_valid {keyId : String} :
    r.verifySignature now v = .ok keyId
      ↔ ∃ s, r.Selects v s ∧ Valid now v s ∧ s.params.keyId = keyId := by
  rw [verifySignature_eq_ok]
  constructor
  · rintro ⟨inputs, s, hinputs, hs, hcheck, hkeyId⟩
    exact ⟨s, selects_iff.2 ⟨inputs, hinputs, hs⟩, check_eq_ok_iff_valid.1 hcheck, hkeyId⟩
  · rintro ⟨s, hs, hvalid, hkeyId⟩
    obtain ⟨inputs, hinputs, hselect⟩ := selects_iff.1 hs
    exact ⟨inputs, s, hinputs, hselect, check_eq_ok_iff_valid.2 hvalid, hkeyId⟩

theorem digestMatches_eq_true :
    digestMatches v = true ↔ (v.headerValues .contentDigest ≠ [] → v.HoldsDigest) := by
  unfold digestMatches
  split
  · next hnil => simp [hnil]
  · next hne =>
    rw [ContentDigest.verify_eq_true_iff]
    exact ⟨fun h _ => h, fun h => h hne⟩

/-- A verifier fails at the signature, or else at the digest of a request whose signature it
accepts. -/
theorem verify_eq_error :
    r.verify now v = .error e ↔ r.verifySignature now v = .error e
      ∨ (∃ s, r.Selects v s ∧ Valid now v s) ∧ v.headerValues .contentDigest ≠ []
        ∧ ¬ v.HoldsDigest ∧ e = .digestMismatch := by
  -- the digest fails only if there is one
  have hdigest : digestMatches v = false
      ↔ v.headerValues .contentDigest ≠ [] ∧ ¬ v.HoldsDigest := by
    rw [← Bool.not_eq_true, digestMatches_eq_true, Classical.not_imp]
  unfold verify
  rw [Fallible.bind_eq_error]
  refine or_congr_right ?_
  constructor
  · rintro ⟨keyId, hkeyId, h⟩
    obtain ⟨s, hs, hvalid, -⟩ := verifySignature_eq_ok_iff_valid.1 hkeyId
    split at h
    · cases h
    · next hmatch =>
      obtain ⟨hpresent, hnot⟩ := hdigest.1 (Bool.not_eq_true _ ▸ hmatch)
      exact ⟨⟨s, hs, hvalid⟩, hpresent, hnot, (Except.error.inj h).symm⟩
  · rintro ⟨⟨s, hs, hvalid⟩, hpresent, hnot, rfl⟩
    -- the signature is valid, so the digest is looked at
    refine ⟨s.params.keyId, verifySignature_eq_ok_iff_valid.2 ⟨s, hs, hvalid, rfl⟩, ?_⟩
    rw [hdigest.2 ⟨hpresent, hnot⟩]
    rfl

/-- What is declared has no known key exactly if it is not empty and none of it is known. -/
theorem select?_declared_eq_none :
    (∃ inputs, declared v = .ok inputs ∧ r.select? inputs = none)
      ↔ ∃ inputs, Reads v inputs ∧ inputs.entries ≠ []
        ∧ ∀ e ∈ inputs.entries, ∀ key, ¬ r.HasKey e.2 key := by
  constructor
  · rintro ⟨es, hdeclared, hnone⟩
    obtain ⟨inputs, hread, rfl, hne⟩ := declared_eq_ok.1 hdeclared
    exact ⟨inputs, hread, hne, select?_eq_none.1 hnone⟩
  · rintro ⟨inputs, hread, hne, hunknown⟩
    exact ⟨inputs.entries, declared_eq_ok.2 ⟨inputs, hread, rfl, hne⟩, select?_eq_none.2 hunknown⟩

/-- **A verifier decides.** It accepts a request exactly if the request is accepted, with the id of
the selected key, and it gives an error exactly if the request is rejected with it. -/
theorem verify_decides (r : Verifier) (now : Timestamp) (v : RequestView) :
    (∀ keyId, r.verify now v = .ok keyId ↔ ∃ s, r.Accepts now v s ∧ s.params.keyId = keyId)
      ∧ ∀ e, r.verify now v = .error e ↔ r.Rejects now v e := by
  constructor
  · intro keyId
    rw [verify_eq_ok, verifySignature_eq_ok_iff_valid, digestMatches_eq_true]
    constructor
    · -- validity and digest are asked of the same selected signature
      rintro ⟨⟨s, hs, hvalid, hkeyId⟩, hdigest⟩
      exact ⟨s, ⟨hs, hvalid, hdigest⟩, hkeyId⟩
    · rintro ⟨s, ⟨hs, hvalid, hdigest⟩, hkeyId⟩
      exact ⟨⟨s, hs, hvalid, hkeyId⟩, hdigest⟩
  · intro e
    rw [verify_eq_error, verifySignature_eq_error, declared_eq_error]
    -- the places where the answer comes from are the rules, one for one
    constructor
    · rintro (((⟨hnil, rfl⟩ | ⟨hpresent, h⟩ | ⟨inputs, hread, hempty, rfl⟩)
          | ⟨es, hdeclared, hnone, rfl⟩ | ⟨s, hs, hfails⟩)
        | ⟨⟨s, hs, hvalid⟩, hpresent, hnot, rfl⟩)
      · exact .noInput hnil
      · obtain ⟨fault, rfl⟩ := exists_fault_of_parseSignatureInput h
        exact .malformedInput hpresent h
      · exact .emptyInput hread hempty
      · obtain ⟨inputs, hread, hne, hunknown⟩ := select?_declared_eq_none.1 ⟨es, hdeclared, hnone⟩
        exact .unknownKey hread hne hunknown
      · exact .signature hs hfails
      · exact .digest hs hvalid hpresent hnot
    · intro h
      cases h with
      | noInput hnil => exact .inl (.inl (.inl ⟨hnil, rfl⟩))
      | malformedInput hpresent h => exact .inl (.inl (.inr (.inl ⟨hpresent, h⟩)))
      | emptyInput hread hempty => exact .inl (.inl (.inr (.inr ⟨_, hread, hempty, rfl⟩)))
      | unknownKey hread hne hunknown =>
        obtain ⟨es, hdeclared, hnone⟩ := select?_declared_eq_none.2 ⟨_, hread, hne, hunknown⟩
        exact .inl (.inr (.inl ⟨es, hdeclared, hnone, rfl⟩))
      | signature hs hfails => exact .inl (.inr (.inr ⟨_, hs, hfails⟩))
      | digest hs hvalid hpresent hnot => exact .inr ⟨⟨_, hs, hvalid⟩, hpresent, hnot, rfl⟩

end Verifier

end MessageSignatures
