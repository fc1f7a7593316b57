import MessageSignatures.Proofs.ContentDigest
import MessageSignatures.Proofs.KeyStore
import MessageSignatures.Proofs.Signature.Labelled
import MessageSignatures.Proofs.Signature.Unambiguous
import MessageSignatures.Proofs.Signer.Coverage
import MessageSignatures.Proofs.Signer.Labels

/-!
# What a signer makes

* **Configuration.** A signer is built for keys that can be stored and fields that HTTP allows
  (`SignerConfig.exists_build_iff`), and has the keys, the lifetime and the fields that it was
  configured for (`SignerConfig.build_eq_ok`, `exists_name_of_mem_covered`).
* **Signatures.** Each key makes one signature, over the base of parameters that declare it
  (`Signer.madeBy_of_sign`), under its label (`Signer.labels_of_sign`); and what is made can be
  written (`Signer.writable_of_sign`).
* **Success.** Signing fails only if a field has a value without text, a key does not sign, or a
  nonce is not printable (`Signer.exists_sign`).
* **The signed request** has the two headers, and the other components keep their values
  (`SignedHeaders.componentValue_applyTo`).
-/

namespace MessageSignatures

/-! ### Building a signer -/

theorem text_ofString_of_mem_defaultCovered {name : String} (h : name ∈ defaultCovered) :
    (FieldName.ofString (Text.trim name)).text = name := by
  simp only [defaultCovered, List.mem_cons, List.not_mem_nil, or_false] at h
  rcases h with rfl | rfl <;> exact Text.toLower_eq (by decide)

/-- The default fields have names that HTTP allows. -/
theorem isFieldName_of_mem_defaultCovered {name : String} (h : name ∈ defaultCovered) :
    IsFieldName name := by
  simp only [defaultCovered, List.mem_cons, List.not_mem_nil, or_false] at h
  rcases h with rfl | rfl <;> exact ⟨by decide, by decide⟩

/-- The default fields have nothing to do with signatures. -/
theorem ofString_ne_of_mem_defaultCovered {name : String} (h : name ∈ defaultCovered) :
    FieldName.ofString (Text.trim name) ≠ .signature
      ∧ FieldName.ofString (Text.trim name) ≠ .signatureInput := by
  have htext := text_ofString_of_mem_defaultCovered h
  refine ⟨FieldName.ne_of_text_ne htext FieldName.text_signature ?_,
    FieldName.ne_of_text_ne htext FieldName.text_signatureInput ?_⟩ <;>
  · rintro rfl
    revert h
    decide

/-- **A signer that was built** has the keys, the lifetime and the fields of its configuration. -/
theorem SignerConfig.build_eq_ok {c : SignerConfig} {s : Signer} (h : c.build = .ok s) :
    s.keys.entries = c.keys ∧ s.lifetime = c.lifetime
      ∧ coverFields [] (if c.covered = [] then defaultCovered else c.covered) = .ok s.covered := by
  unfold SignerConfig.build at h
  -- each check that fails would have been the error, so all of them have been passed
  split at h
  · cases h
  · next keys hstore =>
    split at h
    · cases h
    · split at h
      · cases h
      · split at h
        · cases h
        · next covered hcovered =>
          cases h
          exact ⟨KeyStore.ofList_eq_ok.1 hstore, rfl, hcovered⟩

/-- **A configuration is built** if its keys form a store that is not empty, their ids are
printable, and the names can be read. -/
theorem SignerConfig.exists_build {c : SignerConfig} {keys : KeyStore SigningKey}
    {covered : List ComponentId} (hkeys : KeyStore.ofList c.keys = .ok keys)
    (hne : keys.entries ≠ []) (hids : ∀ id ∈ keys.ids, Text.isPrintable id = true)
    (hcovered : coverFields [] (if c.covered = [] then defaultCovered else c.covered)
      = .ok covered) :
    ∃ s, c.build = .ok s ∧ s.keys = keys ∧ s.covered = covered ∧ s.lifetime = c.lifetime := by
  -- no id is found that is not printable
  have hnone : keys.ids.find? (fun id => !Text.isPrintable id) = none := by
    refine List.find?_eq_none.2 fun id hid => ?_
    rw [hids id hid]
    exact Bool.false_ne_true
  unfold SignerConfig.build
  rw [hkeys]
  simp only
  rw [dif_neg hne]
  -- the checks that are left are for such an id and for the names
  split
  · next heq => rw [hnone] at heq; cases heq
  · split
    · next heq => rw [hcovered] at heq; cases heq
    · next heq =>
      rw [hcovered, Except.ok.injEq] at heq
      exact ⟨_, rfl, rfl, heq.symm, rfl⟩

namespace SignerConfig

variable {c : SignerConfig}

/-- **Keys that can sign.** There is one, and the ids are not empty, not repeated and printable. -/
structure HasKeys (c : SignerConfig) : Prop where
  keys_ne_nil : c.keys ≠ []
  id_ne_empty : "" ∉ c.keys.map Prod.fst
  nodup : (c.keys.map Prod.fst).Nodup
  printable : ∀ id ∈ c.keys.map Prod.fst, Text.isPrintable id = true

/-- The fields to cover have names that HTTP allows if those have that are configured. -/
theorem forall_isFieldName_iff :
    (∀ name ∈ (if c.covered = [] then defaultCovered else c.covered), IsFieldName name)
      ↔ ∀ name ∈ c.covered, IsFieldName name := by
  split
  · next hempty =>
    rw [hempty]
    exact ⟨fun _ => List.forall_mem_nil _, fun _ _ hname => isFieldName_of_mem_defaultCovered hname⟩
  · rfl

/-- **A signer is built** of keys that can sign and of names that HTTP allows. -/
theorem exists_build_iff :
    (∃ s, c.build = .ok s) ↔ c.HasKeys ∧ ∀ name ∈ c.covered, IsFieldName name := by
  constructor
  · -- what a signer carries about its keys is what is asked of the configuration
    rintro ⟨s, h⟩
    obtain ⟨hkeys, -, hcovered⟩ := build_eq_ok h
    have hids : s.keys.ids = c.keys.map Prod.fst := congrArg (List.map Prod.fst) hkeys
    refine ⟨⟨hkeys ▸ s.keys_ne_nil, ?_, ?_, ?_⟩,
      forall_isFieldName_iff.1 (exists_coverFields_iff.1 ⟨_, hcovered⟩)⟩
    · exact hids ▸ fun hmem => s.keys.id_ne_empty "" hmem rfl
    · exact hids ▸ s.keys.map.nodup
    · exact hids ▸ s.printable
  · -- the store, the ids and the names pass their checks one by one
    rintro ⟨hkeys, hnames⟩
    obtain ⟨keys, hstore⟩ := KeyStore.exists_ofList_iff.2 ⟨hkeys.id_ne_empty, hkeys.nodup⟩
    obtain ⟨covered, hcovered⟩ := exists_coverFields_iff.2 (forall_isFieldName_iff.2 hnames)
    have hentries := KeyStore.ofList_eq_ok.1 hstore
    have hids : keys.ids = c.keys.map Prod.fst := congrArg (List.map Prod.fst) hentries
    obtain ⟨s, hs, -⟩ := exists_build hstore (hentries ▸ hkeys.keys_ne_nil)
      (hids ▸ hkeys.printable) hcovered
    exact ⟨s, hs⟩

end SignerConfig

/-- The fields that a signer covers have been configured or are the default ones. -/
theorem exists_name_of_mem_covered {c : SignerConfig} {s : Signer} (h : c.build = .ok s)
    {id : ComponentId} (hid : id ∈ s.covered) :
    ∃ name, (name ∈ c.covered ∨ name ∈ defaultCovered)
      ∧ id.fieldName? = some (FieldName.ofString (Text.trim name)) := by
  obtain ⟨-, -, hcovered⟩ := SignerConfig.build_eq_ok h
  obtain ⟨ids, hids, hfold⟩ := coverFields_eq_ok.1 hcovered
  -- nothing was covered at the start, so the component has been read from a name
  rw [← hfold, mem_foldl_addComponent] at hid
  obtain ⟨name, hname, hread⟩ :=
    Fallible.exists_left_of_mem (Fallible.mapM_eq_ok.1 hids) (hid.resolve_left List.not_mem_nil)
  refine ⟨name, ?_, ComponentId.fieldName?_of_ofField hread⟩
  split at hname
  · exact .inr hname
  · exact .inl hname

/-- A signer that is not configured for the headers with signatures covers neither of them. -/
theorem fieldName?_ne_of_mem_covered {c : SignerConfig} {s : Signer} (h : c.build = .ok s)
    (hnames : ∀ name ∈ c.covered, FieldName.ofString (Text.trim name) ≠ .signature
      ∧ FieldName.ofString (Text.trim name) ≠ .signatureInput)
    {id : ComponentId} (hid : id ∈ s.covered) :
    id.fieldName? ≠ some .signatureInput ∧ id.fieldName? ≠ some .signature := by
  obtain ⟨name, hname, hfield⟩ := exists_name_of_mem_covered h hid
  -- a name is configured or one of the default ones
  have hne : FieldName.ofString (Text.trim name) ≠ .signature
      ∧ FieldName.ofString (Text.trim name) ≠ .signatureInput := by
    rcases hname with hname | hname
    · exact hnames name hname
    · exact ofString_ne_of_mem_defaultCovered hname
  rw [hfield]
  exact ⟨fun h => hne.2 (Option.some.inj h), fun h => hne.1 (Option.some.inj h)⟩

namespace Signer

variable {v : RequestView} {lifetime : Option UInt64} {covered : List ComponentId} {now : Timestamp}

/-! ### Parameters -/

/-- **Declared parameters.** What the parameters of a signature say of the key, the time and the
coverage. They have been made, so there is no received text. -/
structure Declares (lifetime : Option UInt64) (covered : List ComponentId) (now : Timestamp)
    (keyId : String) (key : SigningKey) (p : SignatureParams) : Prop where
  created : p.created = now
  expires : p.expires = lifetime.map now.after
  alg : p.alg = key.alg.tag
  keyId : p.keyId = keyId
  covered : p.covered = covered
  received : p.received = none
  obtained : p.Obtained

theorem Declares.setExpiresAfter {keyId : String} {key : SigningKey} {p : SignatureParams}
    (hp : Declares none covered now keyId key p) (seconds : UInt64) :
    Declares (some seconds) covered now keyId key (p.setExpiresAfter seconds) where
  created := hp.created
  expires := congrArg (fun t : Timestamp => some (t.after seconds)) hp.created
  alg := hp.alg
  keyId := hp.keyId
  covered := hp.covered
  received := rfl
  obtained := .setExpiresAfter seconds hp.obtained

theorem Declares.setNonce {keyId nonce : String} {key : SigningKey} {p q : SignatureParams}
    (hp : Declares lifetime covered now keyId key p) (h : p.setNonce nonce = .ok q) :
    Declares lifetime covered now keyId key q := by
  obtain ⟨-, rfl⟩ := SignatureParams.setNonce_eq_ok.1 h
  exact ⟨hp.created, hp.expires, hp.alg, hp.keyId, hp.covered, rfl, .setNonce hp.obtained h⟩

theorem declares_of_paramsFor {keyId : String} {key : SigningKey} {entropy : Entropy}
    {p : SignatureParams} (h : paramsFor lifetime covered now keyId key entropy = .ok p) :
    Declares lifetime covered now keyId key p := by
  obtain ⟨made, hmade, h⟩ := Fallible.bind_eq_ok.1 h
  -- parameters as they are made at first, before lifetime and nonce are set
  have hnew : Declares none covered now keyId key made := by
    obtain ⟨-, -, -, rfl⟩ := SignatureParams.new_eq_ok.1 hmade
    exact ⟨rfl, rfl, rfl, rfl, rfl, rfl, .new hmade⟩
  cases hnonce : key.nonce entropy with
  | none =>
    rw [hnonce] at h
    cases lifetime with
    | none =>
      cases h
      exact hnew
    | some seconds =>
      cases h
      exact hnew.setExpiresAfter seconds
  | some nonce =>
    rw [hnonce] at h
    cases lifetime with
    | none => exact hnew.setNonce h
    | some seconds => exact (hnew.setExpiresAfter seconds).setNonce h

/-! ### Signatures -/

/-- **Made by a key.** The signature declares the key, and the key made it over the base of the
parameters. -/
structure MadeBy (v : RequestView) (lifetime : Option UInt64) (covered : List ComponentId)
    (now : Timestamp) (entry : String × SigningKey) (e : LabelledSignature) : Prop where
  declares : Declares lifetime covered now entry.1 entry.2 e.params
  signed : ∃ b entropy, SignatureBase.build v e.params = .ok b
    ∧ entry.2.sign entropy b.octets = .ok e.signature

theorem sign_eq_ok {b : SignatureBase} {key : SigningKey} {entropy : Entropy} {label : String}
    {e : LabelledSignature} :
    b.sign key entropy label = .ok e
      ↔ key.sign entropy b.octets = .ok e.signature ∧ e.label = label ∧ e.params = b.params := by
  -- the key alone can fail
  obtain ⟨label', params, signature⟩ := e
  rw [SignatureBase.sign]
  cases key.sign entropy b.octets with
  | error fault => exact ⟨nofun, nofun⟩
  | ok signature' =>
    constructor
    · intro h
      cases h
      exact ⟨rfl, rfl, rfl⟩
    · rintro ⟨h, rfl, rfl⟩
      cases h
      rfl

/-- **Signed at a position.** What a key declares and makes at its position, with the stream of that
position. -/
structure SignedBy (v : RequestView) (lifetime : Option UInt64) (covered : List ComponentId)
    (now : Timestamp) (entropy : Nat → Entropy) (entry : (String × SigningKey) × Nat)
    (e : LabelledSignature) : Prop where
  params : paramsFor lifetime covered now entry.1.1 entry.1.2 (entropy entry.2) = .ok e.params
  signed : ∃ b, SignatureBase.build v e.params = .ok b
    ∧ entry.1.2.sign (entropy entry.2) b.octets = .ok e.signature

theorem SignedBy.madeBy {entropy : Nat → Entropy} {entry : (String × SigningKey) × Nat}
    {e : LabelledSignature} (h : SignedBy v lifetime covered now entropy entry e) :
    MadeBy v lifetime covered now entry.1 e := by
  obtain ⟨b, hb, hsign⟩ := h.signed
  exact ⟨declares_of_paramsFor h.params, b, _, hb, hsign⟩

/-- **All keys sign**, each for itself, and their signatures are labelled in a row. -/
theorem labelled_of_signAll {entropy : Nat → Entropy} {keys : List (String × SigningKey)}
    {position : Nat} {taken : List String} {es : List LabelledSignature}
    (h : signAll v lifetime covered now entropy keys position taken = .ok es) :
    List.Forall₂ (SignedBy v lifetime covered now entropy) (keys.zipIdx position) es
      ∧ es.map LabelledSignature.label = labelsFrom (keys.map Prod.fst) position taken := by
  induction keys generalizing position taken es with
  | nil =>
    cases h
    exact ⟨.nil, rfl⟩
  | cons entry keys ih =>
    obtain ⟨keyId, key⟩ := entry
    rw [signAll] at h
    -- parameters, base, signature and the other keys, in this order
    obtain ⟨p, hp, h⟩ := Fallible.bind_eq_ok.1 h
    obtain ⟨b, hb, h⟩ := Fallible.bind_eq_ok.1 h
    obtain ⟨e, he, h⟩ := Fallible.bind_eq_ok.1 h
    obtain ⟨rest, hrest, h⟩ := Fallible.bind_eq_ok.1 h
    cases h
    obtain ⟨hsign, hlabel, hparams⟩ := sign_eq_ok.1 he
    obtain ⟨hsigned, hlabels⟩ := ih hrest
    -- a base keeps the parameters that it was built of
    rw [(SignatureBase.build_eq_ok.1 hb).1] at hparams
    rw [← hparams] at hp hb
    refine ⟨.cons ⟨hp, b, hb, hsign⟩ hsigned, ?_⟩
    rw [List.map_cons, List.map_cons, hlabel, hlabels, labelsFrom]

/-- **What all keys sign**: the labels are keys, none is taken and none stands twice. -/
theorem signedBy_of_signAll {entropy : Nat → Entropy} {keys : List (String × SigningKey)}
    {position : Nat} {taken : List String} {es : List LabelledSignature}
    (h : signAll v lifetime covered now entropy keys position taken = .ok es) :
    List.Forall₂ (SignedBy v lifetime covered now entropy) (keys.zipIdx position) es
      ∧ (∀ e ∈ es, StructuredField.isKey e.label = true ∧ e.label ∉ taken)
      ∧ (es.map LabelledSignature.label).Nodup := by
  obtain ⟨hsigned, hlabels⟩ := labelled_of_signAll h
  refine ⟨hsigned, fun e he => ?_, hlabels ▸ nodup_labelsFrom (keys.map Prod.fst) position taken⟩
  have hlabel : e.label ∈ labelsFrom (keys.map Prod.fst) position taken :=
    hlabels ▸ List.mem_map_of_mem he
  exact isKey_and_not_mem_of_mem_labelsFrom hlabel

/-! ### Signing goes through -/

theorem exists_build {p : SignatureParams}
    (h : ∀ id ∈ p.covered, ∃ x, v.componentValue id = .ok x) :
    ∃ b, SignatureBase.build v p = .ok b := by
  obtain ⟨components, hcomponents⟩ : ∃ components, p.covered.mapM v.resolve = .ok components := by
    refine Fallible.exists_mapM fun id hid => ?_
    obtain ⟨x, hx⟩ := h id hid
    exact ⟨⟨id, x⟩, by rw [RequestView.resolve, hx]; rfl⟩
  exact ⟨⟨components, p⟩, by rw [SignatureBase.build, hcomponents]; rfl⟩

/-- **The parameters of a key**, where coverage and key id have been checked, are refused only for a
nonce that is not printable. -/
theorem paramsFor_eq {keyId : String} {key : SigningKey} {entropy : Entropy}
    (hcovered : covered.Nodup) (hne : keyId ≠ "") (hkeyId : Text.isPrintable keyId = true) :
    paramsFor lifetime covered now keyId key entropy
      = if (key.nonce entropy).all Text.isPrintable then
          .ok ⟨now, lifetime.map now.after, key.nonce entropy, key.alg.tag, keyId, covered, none⟩
        else .error (.params .invalidNonce) := by
  have hnew : SignatureParams.new covered now key.alg keyId
      = .ok ⟨now, none, none, key.alg.tag, keyId, covered, none⟩ :=
    SignatureParams.new_eq_ok.2 ⟨hcovered, hne, hkeyId, rfl⟩
  unfold paramsFor
  -- the first step succeeds; after it, only the nonce is checked
  rw [hnew, Fallible.ok_bind]
  cases key.nonce entropy with
  | none => cases lifetime <;> rfl
  | some nonce =>
    rw [Option.all_some]
    cases lifetime <;> rfl

/-- **All keys sign** if each of them signs whatever it is given and every covered component has a
value. -/
theorem exists_signAll {entropy : Nat → Entropy} (hcovered : covered.Nodup)
    (hvalues : ∀ id ∈ covered, ∃ x, v.componentValue id = .ok x)
    {keys : List (String × SigningKey)}
    (hids : ∀ entry ∈ keys, entry.1 ≠ "" ∧ Text.isPrintable entry.1 = true)
    (hnonce : ∀ entry ∈ keys, ∀ entropy, ∀ nonce ∈ entry.2.nonce entropy,
      Text.isPrintable nonce = true)
    (hsign : ∀ entry ∈ keys, ∀ entropy message, ∃ signature,
      entry.2.sign entropy message = .ok signature)
    (position : Nat) (taken : List String) :
    ∃ es, signAll v lifetime covered now entropy keys position taken = .ok es := by
  induction keys generalizing position taken with
  | nil => exact ⟨[], rfl⟩
  | cons entry keys ih =>
    obtain ⟨keyId, key⟩ := entry
    -- the steps for one key, each with what it needs
    obtain ⟨hne, hkeyId⟩ := hids (keyId, key) List.mem_cons_self
    obtain ⟨p, hp⟩ : ∃ p, paramsFor lifetime covered now keyId key (entropy position) = .ok p :=
      ⟨_, (paramsFor_eq hcovered hne hkeyId).trans (if_pos ((Option.all_eq_true ..).2
        (hnonce (keyId, key) List.mem_cons_self (entropy position))))⟩
    obtain ⟨b, hb⟩ := exists_build (v := v) (p := p) fun id hid =>
      hvalues id ((declares_of_paramsFor hp).covered ▸ hid)
    obtain ⟨signature, hsignature⟩ :=
      hsign (keyId, key) List.mem_cons_self (entropy position) b.octets
    have hfirst : b.sign key (entropy position) (chooseLabel keyId position taken)
        = .ok ⟨chooseLabel keyId position taken, b.params, signature⟩ :=
      sign_eq_ok.2 ⟨hsignature, rfl, rfl⟩
    obtain ⟨es, hes⟩ := ih (fun e he => hids e (List.mem_cons_of_mem _ he))
      (fun e he => hnonce e (List.mem_cons_of_mem _ he))
      (fun e he => hsign e (List.mem_cons_of_mem _ he)) (position + 1)
      (chooseLabel keyId position taken :: taken)
    refine ⟨⟨chooseLabel keyId position taken, b.params, signature⟩ :: es, ?_⟩
    rw [signAll, hp, Fallible.ok_bind, hb, Fallible.ok_bind]
    -- the label is named between the steps
    simp only
    rw [hfirst, Fallible.ok_bind, hes]
    rfl

/-- A field that is there and readable has a value. -/
theorem exists_fieldValue {n : FieldName} (hpresent : v.hasHeader n = true)
    (hreadable : v.isUnreadable n = false) : ∃ x, v.fieldValue n = .ok x := by
  -- a field that is present without a value hides one, and this one hides none
  have hvalues : v.headerValues n ≠ [] := by
    rcases (v.hasHeader_eq_true_iff n).1 hpresent with h | h
    · exact h
    · rw [hreadable] at h
      cases h
  unfold RequestView.fieldValue
  rw [if_neg (by rw [hreadable]; exact Bool.false_ne_true)]
  cases h : v.headerValues n with
  | nil => exact absurd h hvalues
  | cons value values => exact ⟨_, rfl⟩

/-- A field with a value is there. -/
theorem isPresent_of_fieldValue {id : ComponentId} {n : FieldName} {value : String}
    (hid : id.fieldName? = some n) (h : v.fieldValue n = .ok value) : isPresent v id = true := by
  rw [isPresent, ComponentId.ofString_name hid, RequestView.hasHeader_eq_true_iff]
  exact .inl (RequestView.intercalate_trim_of_fieldValue h).1

/-- **The head has a value** on every request. -/
theorem exists_value_of_mem_headComponents {id : ComponentId} (h : id ∈ headComponents) :
    ∃ x, (working v).componentValue id = .ok x := by
  simp only [headComponents, List.mem_cons, List.not_mem_nil, or_false] at h
  rcases h with rfl | rfl | rfl | rfl
  -- the digest has been set, and the other three have a value on every request
  · exact ⟨_, RequestView.fieldValue_setHeader_self⟩
  all_goals exact ⟨_, rfl⟩

/-- A field that is there has a value, unless it is another one than the digest and hides it. -/
theorem exists_value_of_isPresent {id : ComponentId} {n : FieldName} (hid : id.fieldName? = some n)
    (hpresent : isPresent (working v) id = true)
    (hreadable : n ≠ .contentDigest → v.isUnreadable n = false) :
    ∃ x, (working v).componentValue id = .ok x := by
  -- the digest has just been made; any other field is that of the request
  rw [isPresent, ComponentId.ofString_name hid] at hpresent
  rw [RequestView.componentValue_eq_fieldValue hid]
  refine exists_fieldValue hpresent ?_
  rw [working, RequestView.isUnreadable_setHeader]
  by_cases hdigest : n = .contentDigest
  · rw [hdigest, bne_self_eq_false, Bool.false_and]
  · rw [hreadable hdigest, Bool.and_false]

/-- **What is covered has a value**, unless a configured field has a value without text. -/
theorem exists_value_of_mem_coveredOn {c : SignerConfig} {s : Signer} (hbuild : c.build = .ok s)
    (hreadable : ∀ id ∈ s.covered, ∀ n, id.fieldName? = some n → n ≠ .contentDigest →
      v.isUnreadable n = false)
    {id : ComponentId} (hid : id ∈ s.coveredOn (working v)) :
    ∃ x, (working v).componentValue id = .ok x := by
  -- the head is made for the request, and the rest is configured
  rcases mem_withHead.1 hid with hhead | hmem
  · exact exists_value_of_mem_headComponents hhead
  · obtain ⟨hcovered, hpresent⟩ := List.mem_filter.1 hmem
    -- what is configured is taken from a field
    obtain ⟨name, -, hfield⟩ := exists_name_of_mem_covered hbuild hcovered
    exact exists_value_of_isPresent hfield hpresent (hreadable id hcovered _ hfield)

/-- The ids of the keys have been checked. -/
theorem keyId_of_mem (s : Signer) {entry : String × SigningKey} (h : entry ∈ s.keys.entries) :
    entry.1 ≠ "" ∧ Text.isPrintable entry.1 = true := by
  have hid : entry.1 ∈ s.keys.ids := List.mem_map_of_mem h
  exact ⟨s.keys.id_ne_empty _ hid, s.printable _ hid⟩

/-- **Signing goes through** for a signer that was built, if its keys sign whatever they are given
with printable nonces, and no configured field has a value without text. -/
theorem exists_sign {c : SignerConfig} {s : Signer} (hbuild : c.build = .ok s)
    (hnonce : ∀ entry ∈ s.keys.entries, ∀ entropy, ∀ nonce ∈ entry.2.nonce entropy,
      Text.isPrintable nonce = true)
    (hsign : ∀ entry ∈ s.keys.entries, ∀ entropy message, ∃ signature,
      entry.2.sign entropy message = .ok signature)
    (hreadable : ∀ id ∈ s.covered, ∀ n, id.fieldName? = some n → n ≠ .contentDigest →
      v.isUnreadable n = false)
    (now : Timestamp) (entropy : Nat → Entropy) : ∃ signed, s.sign now entropy v = .ok signed := by
  obtain ⟨es, hes⟩ : ∃ es, signAll (working v) s.lifetime (s.coveredOn (working v)) now entropy
      s.keys.entries 0 [] = .ok es :=
    exists_signAll (nodup_withHead _)
      (fun id hid => exists_value_of_mem_coveredOn hbuild hreadable hid)
      (fun entry hentry => s.keyId_of_mem hentry) hnonce hsign 0 []
  exact ⟨_, Fallible.map_eq_ok.2 ⟨es, hes, rfl⟩⟩

/-! ### The signed request -/

variable {s : Signer} {entropy : Nat → Entropy} {signed : SignedHeaders}

/-- **A signed request** is the request with the headers that signing gives. -/
theorem signRequest_eq_ok {v' : RequestView} :
    s.signRequest now entropy v = .ok v'
      ↔ ∃ signed, s.sign now entropy v = .ok signed ∧ signed.applyTo v = v' :=
  Fallible.map_eq_ok

/-- **What each key makes**, in the order of the keys. -/
theorem signedBy_of_sign (h : s.sign now entropy v = .ok signed) :
    List.Forall₂ (SignedBy (working v) s.lifetime (s.coveredOn (working v)) now entropy)
      s.keys.entries.zipIdx signed.signatures := by
  obtain ⟨es, hes, rfl⟩ := Fallible.map_eq_ok.1 h
  exact (signedBy_of_signAll hes).1

/-- **The labels** of what signing gives are those of the key ids in a row. -/
theorem labels_of_sign (h : s.sign now entropy v = .ok signed) :
    signed.signatures.map LabelledSignature.label = labels s.keys.ids := by
  obtain ⟨es, hes, rfl⟩ := Fallible.map_eq_ok.1 h
  exact (labelled_of_signAll hes).2

/-- **What signing gives.** The digest of the body, and a signature of each key over the request
with that digest. -/
theorem madeBy_of_sign (h : s.sign now entropy v = .ok signed) :
    signed.contentDigest = ContentDigest.compute v.body
      ∧ List.Forall₂ (MadeBy (working v) s.lifetime (s.coveredOn (working v)) now)
          s.keys.entries signed.signatures := by
  have hmade := (signedBy_of_sign h).imp fun _ _ => SignedBy.madeBy
  obtain ⟨es, hes, rfl⟩ := Fallible.map_eq_ok.1 h
  refine ⟨rfl, ?_⟩
  -- without their positions, the keys are those of the store
  rw [← List.forall₂_map_left_iff, List.zipIdx_map_fst] at hmade
  exact hmade

/-- The points in time that a signer declares can be written. -/
structure Timely (s : Signer) (now : Timestamp) : Prop where
  created : now.toNat ≤ SignatureParams.maxTimestamp
  expires : ∀ seconds ∈ s.lifetime, (now.after seconds).toNat ≤ SignatureParams.maxTimestamp

/-- All signatures declare the same points in time, so all of them can be written or none can. -/
theorem Declares.timely_iff {keyId : String} {key : SigningKey} {p : SignatureParams}
    (hp : Declares s.lifetime covered now keyId key p) : p.Timely ↔ s.Timely now := by
  -- the expiry is the lifetime after the present, if there is a lifetime
  have hexpires : (∀ t ∈ p.expires, t.toNat ≤ SignatureParams.maxTimestamp)
      ↔ ∀ seconds ∈ s.lifetime, (now.after seconds).toNat ≤ SignatureParams.maxTimestamp := by
    rw [hp.expires]
    cases s.lifetime <;> simp
  constructor
  · intro h
    exact ⟨hp.created ▸ h.created, hexpires.1 h.expires⟩
  · intro h
    exact ⟨hp.created.symm ▸ h.created, hexpires.2 h.expires⟩

/-- **What signing gives is printable**, whatever the points in time. -/
theorem printable_of_sign (h : s.sign now entropy v = .ok signed) :
    LabelledSignature.Printable signed.signatures := by
  have hmade := (madeBy_of_sign h).2
  obtain ⟨es, hes, rfl⟩ := Fallible.map_eq_ok.1 h
  obtain ⟨-, hlabels, hnodup⟩ := signedBy_of_signAll hes
  refine ⟨fun e he => (hlabels e he).1, hnodup, fun e he => ?_⟩
  obtain ⟨entry, -, hentry⟩ := Fallible.exists_left_of_mem hmade he
  exact hentry.declares.obtained.writable

/-- **What signing gives can be written**, if the points in time can. -/
theorem writable_of_sign (h : s.sign now entropy v = .ok signed) (htimely : s.Timely now) :
    LabelledSignature.Writable signed.signatures := by
  obtain ⟨hkey, hnodup, hwritable⟩ := printable_of_sign h
  refine ⟨hkey, hnodup, hwritable, fun e he => ?_⟩
  obtain ⟨entry, -, hentry⟩ := Fallible.exists_left_of_mem (madeBy_of_sign h).2 he
  exact hentry.declares.timely_iff.2 htimely

/-- **The signed headers** are printable. -/
theorem isPrintable_of_sign (h : s.sign now entropy v = .ok signed) :
    Text.isPrintable signed.contentDigest = true ∧ Text.isPrintable signed.inputText = true
      ∧ Text.isPrintable signed.signatureText = true := by
  refine ⟨?_, LabelledSignature.isPrintable_texts (printable_of_sign h)⟩
  rw [(madeBy_of_sign h).1]
  exact ContentDigest.isPrintable_compute v.body

/-- The signed headers make no new line on a request. -/
theorem oneLine_applyTo (h : s.sign now entropy v = .ok signed) (hv : v.OneLine) :
    (signed.applyTo v).OneLine := by
  obtain ⟨hdigest, hinput, hsignature⟩ := isPrintable_of_sign h
  exact ((hv.setHeader (Text.lineFeed_not_mem_of_isPrintable hdigest)).setHeader
    (Text.lineFeed_not_mem_of_isPrintable hinput)).setHeader
      (Text.lineFeed_not_mem_of_isPrintable hsignature)

theorem signatures_ne_nil (h : s.sign now entropy v = .ok signed) : signed.signatures ≠ [] := by
  have hlength := (madeBy_of_sign h).2.length_eq
  intro hnil
  rw [hnil, List.length_nil] at hlength
  exact s.keys_ne_nil (List.eq_nil_of_length_eq_zero hlength)

end Signer

namespace SignedHeaders

open FieldName (ne_of_text_ne)

variable (signed : SignedHeaders) (v : RequestView)

theorem contentDigest_ne_signatureInput : FieldName.contentDigest ≠ .signatureInput :=
  ne_of_text_ne FieldName.text_contentDigest FieldName.text_signatureInput (by decide)

theorem contentDigest_ne_signature : FieldName.contentDigest ≠ .signature :=
  ne_of_text_ne FieldName.text_contentDigest FieldName.text_signature (by decide)

theorem contentDigest_ne_host : FieldName.contentDigest ≠ .host :=
  ne_of_text_ne FieldName.text_contentDigest FieldName.text_host (by decide)

theorem signatureInput_ne_signature : FieldName.signatureInput ≠ .signature :=
  ne_of_text_ne FieldName.text_signatureInput FieldName.text_signature (by decide)

theorem signatureInput_ne_host : FieldName.signatureInput ≠ .host :=
  ne_of_text_ne FieldName.text_signatureInput FieldName.text_host (by decide)

theorem signature_ne_host : FieldName.signature ≠ .host :=
  ne_of_text_ne FieldName.text_signature FieldName.text_host (by decide)

/-- The head has nothing to do with the headers that hold signatures. -/
theorem fieldName?_ne_of_mem_headComponents {id : ComponentId} (h : id ∈ headComponents) :
    id.fieldName? ≠ some .signatureInput ∧ id.fieldName? ≠ some .signature := by
  simp only [headComponents, List.mem_cons, List.not_mem_nil, or_false] at h
  rcases h with rfl | rfl | rfl | rfl
  · exact ⟨fun h => contentDigest_ne_signatureInput (Option.some.inj h),
      fun h => contentDigest_ne_signature (Option.some.inj h)⟩
  -- the rest of the head is taken from no field
  all_goals constructor <;> intro h <;> cases h

theorem headerValues_signatureInput :
    (signed.applyTo v).headerValues .signatureInput = [signed.inputText] := by
  rw [applyTo, RequestView.headerValues_setHeader, if_neg signatureInput_ne_signature.symm,
    RequestView.headerValues_setHeader, if_pos rfl]

theorem headerValues_signature :
    (signed.applyTo v).headerValues .signature = [signed.signatureText] := by
  rw [applyTo, RequestView.headerValues_setHeader, if_pos rfl]

theorem headerValues_contentDigest :
    (signed.applyTo v).headerValues .contentDigest = [signed.contentDigest] := by
  rw [applyTo, RequestView.headerValues_setHeader, if_neg contentDigest_ne_signature.symm,
    RequestView.headerValues_setHeader, if_neg contentDigest_ne_signatureInput.symm,
    RequestView.headerValues_setHeader, if_pos rfl]

theorem fieldValue_signatureInput :
    (signed.applyTo v).fieldValue .signatureInput = .ok (Text.trim signed.inputText) := by
  rw [applyTo, RequestView.fieldValue_setHeader signatureInput_ne_signature.symm,
    RequestView.fieldValue_setHeader_self]

theorem fieldValue_signature :
    (signed.applyTo v).fieldValue .signature = .ok (Text.trim signed.signatureText) := by
  rw [applyTo, RequestView.fieldValue_setHeader_self]

/-- **Applying signed headers** leaves the values of all components that are not taken from the two
headers with signatures. -/
theorem componentValue_applyTo {id : ComponentId} (hinput : id.fieldName? ≠ some .signatureInput)
    (hsignature : id.fieldName? ≠ some .signature) :
    (signed.applyTo v).componentValue id
      = (v.setHeader .contentDigest signed.contentDigest).componentValue id := by
  rw [applyTo, RequestView.componentValue_setHeader signature_ne_host hsignature,
    RequestView.componentValue_setHeader signatureInput_ne_host hinput]

end SignedHeaders

end MessageSignatures
