import Mathlib.Logic.Relation
import MessageSignatures.Proofs.Signer.Outcome
import MessageSignatures.Proofs.Verifier.OtherSignatures

/-!
# What an answer depends on

A verifier and a signer look at a few parts of a request. Requests with the same parts get the same
answer, be it a success or an error.

* **A verifier** looks at the lines of `signature-input`, `signature` and `content-digest`, at the
  body, and at the components that the selected signature covers (`Verifier.Covers`). Requests that
  have these in common are **alike** (`RequestView.Alike`).
* **Edits** (`RequestView.Edit`) are the changes that a request may go through on its way: fields
  that are out of sight come, go and change, fields trade places, a name or the method changes its
  case, an empty query appears, the host is told twice. Each of them leaves a request alike
  (`RequestView.Edit.alike`), and so do any number of them, forwards and backwards
  (`RequestView.alike_of_eqvGen`).
* **A signer** looks at the body, the head and the configured fields, but not at the digest, which
  it makes itself (`Signer.Indistinct`). Its keys may draw at random, unless they are deterministic
  (`SigningKey.Deterministic`), as all keys are except those for PSS and Ed25519 signatures
  (`SharedKey.deterministic`, `PrivateKey.deterministic`).

`answers_eq_of_alike` puts the three together.
-/

namespace MessageSignatures

/-- **Deterministic key.** What is drawn at random makes no difference to it. -/
structure SigningKey.Deterministic (key : SigningKey) : Prop where
  nonce : ∀ entropy entropy', key.nonce entropy = key.nonce entropy'
  sign : ∀ entropy entropy' message, key.sign entropy message = key.sign entropy' message

theorem SharedKey.deterministic (key : SharedKey) : key.signingKey.Deterministic :=
  ⟨fun _ _ => rfl, fun _ _ _ => rfl⟩

/-- **Private keys** draw the salt of a PSS signature and the noise of an Ed25519 signature, and
nothing else. -/
theorem PrivateKey.deterministic {key : PrivateKey} (hpss : key.alg ≠ .rsaPssSha512)
    (hed25519 : key.alg ≠ .ed25519) : key.signingKey.Deterministic := by
  refine ⟨fun _ _ => rfl, fun entropy entropy' message => ?_⟩
  cases key with
  | rsa padding key =>
    cases padding with
    | pkcs1 => rfl
    | pss => exact absurd rfl hpss
  | ecdsa scheme scalar => rfl
  | ed25519 seed => exact absurd rfl hed25519

/-- A nonce that is given leaves a key as it was. -/
theorem SigningKey.Deterministic.withNonce {key : SigningKey} (h : key.Deterministic)
    (nonce : String) : (key.withNonce nonce).Deterministic :=
  ⟨fun _ _ => rfl, h.sign⟩

namespace RequestView

variable {looked : ComponentId → Prop} {v w u : RequestView}

/-! ### Alike requests -/

/-- **Alike requests**, to a verifier that looks at some components: each of them is resolved to the
same value or with the same fault, and the headers that every verifier reads and the body are the
same. -/
structure Alike (looked : ComponentId → Prop) (v w : RequestView) : Prop where
  signatureInput : w.headerValues .signatureInput = v.headerValues .signatureInput
  signature : w.headerValues .signature = v.headerValues .signature
  contentDigest : w.headerValues .contentDigest = v.headerValues .contentDigest
  body : w.body = v.body
  resolve : ∀ id, looked id → w.resolve id = v.resolve id

theorem Alike.refl (looked : ComponentId → Prop) (v : RequestView) : Alike looked v v :=
  ⟨rfl, rfl, rfl, rfl, fun _ _ => rfl⟩

theorem Alike.symm (h : Alike looked v w) : Alike looked w v :=
  ⟨h.signatureInput.symm, h.signature.symm, h.contentDigest.symm, h.body.symm,
    fun id hid => (h.resolve id hid).symm⟩

theorem Alike.trans (h : Alike looked v w) (h' : Alike looked w u) : Alike looked v u :=
  ⟨h'.signatureInput.trans h.signatureInput, h'.signature.trans h.signature,
    h'.contentDigest.trans h.contentDigest, h'.body.trans h.body,
    fun id hid => (h'.resolve id hid).trans (h.resolve id hid)⟩

theorem resolve_eq_iff {id : ComponentId} :
    w.resolve id = v.resolve id ↔ w.componentValue id = v.componentValue id := by
  -- the identifier is in both results, so only the values can differ
  unfold resolve
  constructor
  · intro h
    cases hv : v.componentValue id with
    | error e =>
      rw [hv] at h
      exact Fallible.map_eq_error.1 h
    | ok x =>
      rw [hv] at h
      obtain ⟨y, hy, heq⟩ := Fallible.map_eq_ok.1 h
      rw [hy, (Component.mk.inj heq).2]
  · intro h
    rw [h]

/-! ### Edits -/

/-- **Out of sight.** No verifier reads the field by itself, and it is not looked at as a component.
The host is looked at as the authority if none was given. -/
structure Unseen (looked : ComponentId → Prop) (v : RequestView) (n : FieldName) : Prop where
  signatureInput : n ≠ .signatureInput
  signature : n ≠ .signature
  contentDigest : n ≠ .contentDigest
  uncovered : ∀ id, looked id → id.fieldName? ≠ some n
  host : n = .host → looked (.derived .authority) → v.explicitAuthority ≠ none

/-- Requests that differ in fields out of sight at most are alike. -/
theorem AgreeOff.alike {ns : List FieldName} (h : v.AgreeOff ns w)
    (hns : ∀ n ∈ ns, Unseen looked v n) : v.Alike looked w := by
  refine ⟨h.headerValues _ fun hn => (hns _ hn).signatureInput rfl,
    h.headerValues _ fun hn => (hns _ hn).signature rfl,
    h.headerValues _ fun hn => (hns _ hn).contentDigest rfl, h.body, fun id hid => ?_⟩
  -- `@authority` is left, which reads a header without being its component
  refine resolve_eq_iff.2 (h.componentValue_of_authority ?_ fun n hn => (hns n hn).uncovered id hid)
  rintro rfl
  by_cases hhost : FieldName.host ∈ ns
  · -- the host may have changed, but another authority was given
    obtain ⟨a, ha⟩ := Option.ne_none_iff_exists'.1 ((hns _ hhost).host rfl hid)
    change (w.explicitAuthority <|> _) = (v.explicitAuthority <|> _)
    rw [h.explicitAuthority, ha]
    rfl
  · exact h.authority hhost

theorem headerValues_congr (h : w.headers = v.headers) (n : FieldName) :
    w.headerValues n = v.headerValues n := by
  unfold headerValues
  rw [h]

/-- Requests with the same fields and body, and with derived components of the same value, are
alike. -/
theorem alike_of_derivedValue (hheaders : w.headers = v.headers)
    (hunreadable : w.unreadable = v.unreadable) (hbody : w.body = v.body)
    (h : ∀ d, w.derivedValue d = v.derivedValue d) : v.Alike looked w := by
  -- with the same headers in place, a field resolves to the same value
  have hvalues := headerValues_congr hheaders
  have hfield (n : FieldName) : w.fieldValue n = v.fieldValue n := by
    unfold fieldValue isUnreadable
    rw [hunreadable, hvalues]
  refine ⟨hvalues _, hvalues _, hvalues _, hbody, fun id _ => resolve_eq_iff.2 ?_⟩
  cases id with
  | derived d => exact h d
  | contentDigest => exact hfield _
  | field n token other => exact hfield n

/-- **Edit** that a verifier takes no notice of. Fields are named by texts, whatever their case. -/
inductive Edit (looked : ComponentId → Prop) : RequestView → RequestView → Prop where
  | append {v : RequestView} {name : String} (value : String)
      (h : Unseen looked v (.ofString name)) : Edit looked v (v.appendHeader (.ofString name) value)
  | set {v : RequestView} {name : String} (value : String)
      (h : Unseen looked v (.ofString name)) : Edit looked v (v.setHeader (.ofString name) value)
  | remove {v : RequestView} {name : String} (h : Unseen looked v (.ofString name)) :
      Edit looked v (v.removeHeader (.ofString name))
  /-- The field gets a value without text. -/
  | hide {v : RequestView} {name : String} (h : Unseen looked v (.ofString name)) :
      Edit looked v (v.appendUnreadable (.ofString name))
  /-- Two neighbours trade places: values of two fields, or two values of a field that is out of
  sight. -/
  | swap {v : RequestView} {before after : List (FieldName × String)}
    {first second : FieldName × String}
      (hv : v.headers = before ++ first :: second :: after)
      (h : first.1 = second.1 → Unseen looked v first.1) :
      Edit looked v { v with headers := before ++ second :: first :: after }
  /-- The name of a field is written in another case. -/
  | rename {v : RequestView} {before after : List (FieldName × String)} {name name' value : String}
      (hv : v.headers = before ++ (.ofString name, value) :: after)
      (h : name'.toLower = name.toLower) :
      Edit looked v { v with headers := before ++ (.ofString name', value) :: after }
  /-- The method is written in another case. -/
  | method {v : RequestView} {method : String} (h : method.toUpper = v.method.toUpper) :
      Edit looked v { v with method }
  /-- A question mark with nothing behind it. -/
  | query {v : RequestView} (h : v.query = none) : Edit looked v { v with query := some "" }
  /-- The host is given as the authority as well. -/
  | authority {v : RequestView} {host authority : String} (hv : v.explicitAuthority = none)
      (hhost : (v.headerValues .host).head? = some host) (h : authority.toLower = host.toLower) :
      Edit looked v { v with explicitAuthority := some authority }

/-- Neighbours that trade places keep the values of every other field, and of both if they have
different names. -/
theorem headerValues_swap {before after : List (FieldName × String)}
    {first second : FieldName × String}
    (hv : v.headers = before ++ first :: second :: after) {n : FieldName}
    (hn : first.1 = second.1 → n ≠ first.1) :
    headerValues { v with headers := before ++ second :: first :: after } n = v.headerValues n := by
  unfold headerValues
  -- the two lists differ in the middle only
  rw [hv, List.filter_append, List.filter_append]
  congr 2
  by_cases hfirst : first.1 = n <;> by_cases hsecond : second.1 = n
  · -- both are of the field that is asked for, against the assumption
    exact absurd hfirst.symm (hn (hfirst.trans hsecond.symm))
  all_goals simp [hfirst, hsecond]

/-- **Step.** An edit leaves a request alike. -/
theorem Edit.alike (h : Edit looked v w) : v.Alike looked w := by
  cases h with
  -- the four calls for one field agree with the view off that field
  | append value h =>
    exact ((AgreeOff.refl _ v).appendHeader (List.mem_singleton_self _) value).alike
      (List.forall_mem_singleton.2 h)
  | set value h =>
    exact ((AgreeOff.refl _ v).setHeader (List.mem_singleton_self _) value).alike
      (List.forall_mem_singleton.2 h)
  | remove h =>
    exact ((AgreeOff.refl _ v).removeHeader (List.mem_singleton_self _)).alike
      (List.forall_mem_singleton.2 h)
  | hide h =>
    exact ((AgreeOff.refl _ v).appendUnreadable (List.mem_singleton_self _)).alike
      (List.forall_mem_singleton.2 h)
  | @swap before after first second hv h =>
    by_cases hname : first.1 = second.1
    · -- both values are of one field, which is out of sight
      have hagree : v.AgreeOff [first.1] { v with headers := before ++ second :: first :: after } :=
        ⟨rfl, rfl, rfl, rfl, rfl,
          fun n hn => headerValues_swap hv fun _ => List.ne_of_not_mem_cons hn, fun _ _ => rfl⟩
      exact hagree.alike (List.forall_mem_singleton.2 (h hname))
    · -- each field keeps its values in their order
      have hagree : v.AgreeOff [] { v with headers := before ++ second :: first :: after } :=
        ⟨rfl, rfl, rfl, rfl, rfl,
          fun n _ => headerValues_swap hv fun heq => absurd heq hname, fun _ _ => rfl⟩
      exact hagree.alike (List.forall_mem_nil _)
  | @rename before after name name' value hv h =>
    -- two spellings of one name are one field, so nothing has changed
    rw [FieldName.ofString_eq_ofString_iff.2 h, ← hv]
    exact .refl looked v
  | method h =>
    refine alike_of_derivedValue rfl rfl rfl fun d => ?_
    cases d with
    -- the method is covered in upper case
    | method => exact congrArg Except.ok h
    | _ => rfl
  | query h =>
    refine alike_of_derivedValue rfl rfl rfl fun d => ?_
    cases d with
    | query =>
      -- an empty query is covered as a missing one is
      change Except.ok ("?" ++ "") = Except.ok ("?" ++ v.query.getD "")
      rw [h]
      rfl
    | _ => rfl
  | @authority host authority hv hhost h =>
    refine alike_of_derivedValue rfl rfl rfl fun d => ?_
    cases d with
    | authority =>
      -- the host was in use as long as no authority was given
      have hauthority : v.authority = some host := by
        rw [RequestView.authority, hv, hhost]
        rfl
      change Except.ok authority.toLower = v.derivedValue .authority
      rw [h, derivedValue, hauthority]
    | _ => rfl

/-- **Run.** So do edits in a row, each made or taken back. -/
theorem alike_of_eqvGen (h : Relation.EqvGen (Edit looked) v w) : v.Alike looked w := by
  induction h with
  | rel v w h => exact h.alike
  | refl v => exact .refl looked v
  | symm v w _ ih => exact ih.symm
  | trans v w u _ _ ih ih' => exact ih.trans ih'

end RequestView

/-! ### Verifying -/

namespace Verifier

variable {r : Verifier} {now : Timestamp} {v w : RequestView}

/-- **Covered component** of the signature that is selected, if one is. -/
def Covers (r : Verifier) (v : RequestView) (id : ComponentId) : Prop :=
  ∃ s, r.Selects v s ∧ id ∈ s.params.covered

theorem declared_congr (h : w.headerValues .signatureInput = v.headerValues .signatureInput) :
    declared w = declared v := by
  unfold declared
  rw [h]

theorem signatureOf_congr (h : w.headerValues .signature = v.headerValues .signature)
    (label : String) : signatureOf w label = signatureOf v label := by
  unfold signatureOf
  rw [h]

/-- **One answer** for requests that are alike in what the selected signature covers. -/
theorem verify_eq_of_alike (h : v.Alike (r.Covers v) w) : r.verify now w = r.verify now v := by
  -- the two ways a request is read: its signatures, then its digest
  have hverified : r.verifySignature now w = r.verifySignature now v := by
    unfold verifySignature
    rw [declared_congr h.signatureInput]
    cases hdeclared : declared v with
    | error e => rfl
    | ok inputs =>
      rw [Fallible.ok_bind, Fallible.ok_bind]
      cases hselect : r.select? inputs with
      | none => rfl
      | some s =>
        -- the entry that is selected is looked at through its components alone
        have hselects : r.Selects v s := selects_iff.2 ⟨inputs, hdeclared, hselect⟩
        have hbase : SignatureBase.build w s.params = SignatureBase.build v s.params :=
          SignatureBase.build_congr fun id hid =>
            RequestView.resolve_eq_iff.1 (h.resolve id ⟨s, hselects, hid⟩)
        simp only [check_congr hbase (signatureOf_congr h.signature s.label)]
  have hdigest : digestMatches w = digestMatches v := by
    unfold digestMatches
    rw [h.contentDigest, h.body]
  rw [verify, verify, hverified, hdigest]

end Verifier

/-! ### Signing -/

namespace Signer

variable {s : Signer} {now : Timestamp} {v w : RequestView} {entropy entropy' : Nat → Entropy}

/-- **Indistinct requests** for a signer. They have one body and one head, and each configured field
is on both or on none, with one value. The digest that they came with is not looked at. -/
structure Indistinct (s : Signer) (v w : RequestView) : Prop where
  body : w.body = v.body
  query : w.resolve (.derived .query) = v.resolve (.derived .query)
  path : w.resolve (.derived .path) = v.resolve (.derived .path)
  method : w.resolve (.derived .method) = v.resolve (.derived .method)
  configured : ∀ id ∈ s.covered, id ≠ .contentDigest → w.resolve id = v.resolve id
  present : ∀ id ∈ s.covered, id ≠ .contentDigest → isPresent w id = isPresent v id

/-- Requests that differ in the digest and in fields that are not configured are indistinct. -/
theorem indistinct_of_agreeOff {ns : List FieldName} (h : v.AgreeOff ns w) (hhost : .host ∉ ns)
    (hns : ∀ id ∈ s.covered, id ≠ .contentDigest → FieldName.ofString id.name ∉ ns) :
    s.Indistinct v w := by
  -- a component that is not of a field in `ns` has the value it had
  have hvalue {id : ComponentId} (hid : ∀ n ∈ ns, id.fieldName? ≠ some n) :
      w.resolve id = v.resolve id :=
    RequestView.resolve_eq_iff.2 (h.componentValue hhost hid)
  refine ⟨h.body, hvalue fun _ _ => nofun, hvalue fun _ _ => nofun, hvalue fun _ _ => nofun,
    fun id hid hdigest => hvalue fun n hn hfield => ?_, fun id hid hdigest => ?_⟩
  · -- a configured component other than the digest
    rw [← ComponentId.ofString_name hfield] at hn
    exact hns id hid hdigest hn
  · -- whether its field is there
    exact h.hasHeader (hns id hid hdigest)

/-- The same components are covered. -/
theorem Indistinct.coveredOn (h : s.Indistinct v w) :
    s.coveredOn (working w) = s.coveredOn (working v) := by
  refine congrArg withHead (List.filter_congr fun id hid => ?_)
  by_cases hdigest : id = .contentDigest
  · rw [hdigest, isPresent_working_contentDigest, isPresent_working_contentDigest]
  · rw [isPresent_working hdigest, isPresent_working hdigest]
    exact h.present id hid hdigest

/-- They have the same values. -/
theorem Indistinct.componentValue (h : s.Indistinct v w) :
    ∀ id ∈ s.coveredOn (working v), (working w).componentValue id
      = (working v).componentValue id := by
  -- the digest that the signer sets is the only field that it changes
  have hkept {id : ComponentId} (hid : id ≠ .contentDigest)
      (hresolve : w.resolve id = v.resolve id) :
      (working w).componentValue id = (working v).componentValue id := by
    rw [componentValue_working hid, componentValue_working hid]
    exact RequestView.resolve_eq_iff.1 hresolve
  intro id hid
  by_cases hdigest : id = .contentDigest
  · -- the digest is made of the body
    rw [hdigest, componentValue_working_contentDigest, componentValue_working_contentDigest, h.body]
  · rcases mem_withHead.1 hid with hhead | hmem
    · -- one of the head components, which are looked at in any case
      simp only [headComponents, List.mem_cons, List.not_mem_nil, or_false] at hhead
      rcases hhead with rfl | rfl | rfl | rfl
      · exact absurd rfl hdigest
      · exact hkept hdigest h.query
      · exact hkept hdigest h.path
      · exact hkept hdigest h.method
    · -- one of the configured
      exact hkept hdigest (h.configured id (List.mem_filter.1 hmem).1 hdigest)

variable {lifetime : Option UInt64} {covered : List ComponentId}

/-- **Step.** A deterministic key does the same where the covered components have the same
values. -/
theorem signOne_congr (hvalues : ∀ id ∈ covered, w.componentValue id = v.componentValue id)
    {entry : (String × SigningKey) × Nat} (hkey : entry.1.2.Deterministic) :
    signOne w lifetime covered now entropy' entry
      = signOne v lifetime covered now entropy entry := by
  -- the parameters are those of the key and the clock, the entropy adds a nonce at most
  have hparams : paramsFor lifetime covered now entry.1.1 entry.1.2 (entropy' entry.2)
      = paramsFor lifetime covered now entry.1.1 entry.1.2 (entropy entry.2) := by
    unfold paramsFor
    rw [hkey.nonce (entropy' entry.2) (entropy entry.2)]
  rw [signOne, signOne, hparams]
  cases hp : paramsFor lifetime covered now entry.1.1 entry.1.2 (entropy entry.2) with
  | error e => rfl
  | ok p =>
    -- with the parameters the same, the base is of the same values
    have hbase : SignatureBase.build w p = SignatureBase.build v p :=
      SignatureBase.build_congr fun id hid => hvalues id ((declares_of_paramsFor hp).covered ▸ hid)
    rw [Fallible.ok_bind, Fallible.ok_bind, hbase]
    cases SignatureBase.build v p with
    | error e => rfl
    | ok b =>
      -- and so is what a deterministic key makes of it
      rw [Fallible.ok_bind, Fallible.ok_bind,
        hkey.sign (entropy' entry.2) (entropy entry.2) b.octets]

/-- **Run.** So do deterministic keys in a row. -/
theorem signAll_congr (hvalues : ∀ id ∈ covered, w.componentValue id = v.componentValue id)
    {keys : List (String × SigningKey)} (hkeys : ∀ entry ∈ keys, entry.2.Deterministic)
    (position : Nat) (taken : List String) :
    signAll w lifetime covered now entropy' keys position taken
      = signAll v lifetime covered now entropy keys position taken := by
  induction keys generalizing position taken with
  | nil => rfl
  | cons entry keys ih =>
    obtain ⟨keyId, key⟩ := entry
    obtain ⟨hkey, hkeys⟩ := List.forall_mem_cons.1 hkeys
    have hfirst : signOne w lifetime covered now entropy' ((keyId, key), position)
        = signOne v lifetime covered now entropy ((keyId, key), position) :=
          signOne_congr hvalues hkey
    -- the labels are chosen from the same list of taken ones, so the rest is by induction
    rw [signAll_cons, signAll_cons, hfirst]
    simp only [ih hkeys]

/-- **One answer** for requests that are indistinct, whatever is drawn at random. -/
theorem sign_eq_of_indistinct (hkeys : ∀ entry ∈ s.keys.entries, entry.2.Deterministic)
    (h : s.Indistinct v w) : s.sign now entropy' w = s.sign now entropy v := by
  have hall :
      signAll (working w) s.lifetime (s.coveredOn (working v)) now entropy' s.keys.entries 0 []
      = signAll (working v) s.lifetime (s.coveredOn (working v)) now entropy s.keys.entries 0 [] :=
    signAll_congr h.componentValue hkeys 0 []
  rw [sign, sign, h.coveredOn, h.body, hall]

end Signer

/-- **What answers depend on.** A verifier gives one answer to requests that are alike in what the
selected signature covers; so it does if the one has become the other by edits that it takes no
notice of. A signer whose keys are deterministic gives one answer to requests that are
indistinct. -/
theorem answers_eq_of_alike (now : Timestamp) (v w : RequestView) :
    (∀ r : Verifier, v.Alike (r.Covers v) w → r.verify now w = r.verify now v)
      ∧ (∀ r : Verifier, Relation.EqvGen (RequestView.Edit (r.Covers v)) v w →
        r.verify now w = r.verify now v)
      ∧ ∀ s : Signer, (∀ entry ∈ s.keys.entries, entry.2.Deterministic) → s.Indistinct v w →
        ∀ entropy entropy', s.sign now entropy' w = s.sign now entropy v := by
  refine ⟨fun r h => Verifier.verify_eq_of_alike h, fun r h => ?_,
    fun s hkeys h entropy entropy' => ?_⟩
  · exact Verifier.verify_eq_of_alike (RequestView.alike_of_eqvGen h)
  · exact Signer.sign_eq_of_indistinct hkeys h

namespace Verifier

namespace PathOnly

/-- Only the path is covered. -/
theorem covers_withDigest {id : ComponentId} (h : verifier.Covers withDigest id) :
    id = .derived .path := by
  obtain ⟨s, hs, hid⟩ := h
  obtain rfl := hs.unique selects_withDigest
  exact List.mem_singleton.1 hid

/-- A field that has nothing to do with the signature. -/
theorem unseen_trace (v : RequestView) :
    RequestView.Unseen (verifier.Covers withDigest) v (.ofString "X-Trace") := by
  have htext : (FieldName.ofString "X-Trace").text = "x-trace" := Text.toLower_eq (by decide)
  have hhost : FieldName.ofString "X-Trace" ≠ .host :=
    FieldName.ne_of_text_ne htext FieldName.text_host (by decide)
  -- the field is neither a header of the signature nor covered, and it is not the host
  refine ⟨FieldName.ne_of_text_ne htext FieldName.text_signatureInput (by decide),
    FieldName.ne_of_text_ne htext FieldName.text_signature (by decide),
    FieldName.ne_of_text_ne htext FieldName.text_contentDigest (by decide), fun id hid => ?_,
    fun h => absurd h hhost⟩
  rw [covers_withDigest hid]
  exact nofun

/-- The signed request with a field that was added and then got a value without text. -/
def traced : RequestView :=
  (withDigest.appendHeader (.ofString "X-Trace") "1").appendUnreadable (.ofString "X-Trace")

/-- With an empty query as well, and with the method in lower case. -/
def travelled : RequestView :=
  { traced with query := some "", method := "get" }

theorem eqvGen_travelled :
    Relation.EqvGen (RequestView.Edit (verifier.Covers withDigest)) withDigest travelled := by
  have hmethod : "get".toUpper = "GET".toUpper := by
    rw [Text.toUpper_eq (s := "get") (t := "GET") (by decide),
      Text.toUpper_eq (s := "GET") (t := "GET") (by decide)]
  -- two edits of the header that is not covered, one of the query and one of the method
  refine .trans _ traced _ (.trans _ _ _ (.rel _ _ (.append "1" (unseen_trace _)))
    (.rel _ _ (.hide (unseen_trace _)))) ?_
  exact .trans _ { traced with query := some "" } _ (.rel _ _ (.query rfl))
    (.rel _ _ (.method hmethod))

/-- The request for another authority, which is not covered. -/
theorem alike_elsewhere :
    withDigest.Alike (verifier.Covers withDigest)
      { withDigest with explicitAuthority := some "example.org" } := by
  have hvalues := RequestView.headerValues_congr
    (w := { withDigest with explicitAuthority := some "example.org" }) (v := withDigest) rfl
  refine ⟨hvalues _, hvalues _, hvalues _, rfl, fun id hid => RequestView.resolve_eq_iff.2 ?_⟩
  rw [covers_withDigest hid]
  -- of the path alone, which is the same
  change Except.ok withDigest.path = Except.ok withDigest.path
  rfl

end PathOnly

end Verifier

open Signer.TwoKeys in
theorem Signer.TwoKeys.deterministic {s : Signer} (hs : config.build = .ok s) :
    ∀ entry ∈ s.keys.entries, entry.2.Deterministic := by
  intro entry hentry
  rw [eq_echo hs entry hentry]
  exact ⟨fun _ _ => rfl, fun _ _ _ => rfl⟩

open Verifier.PathOnly SignatureBase.Reordered in
/-- The signed request is accepted after its journey and for another authority, and a request is
signed alike whatever digest it comes with. -/
theorem answers_eq_of_alike_travelled :
    verifier.verify 1 travelled = .ok "k"
      ∧ verifier.verify 1 { withDigest with explicitAuthority := some "example.org" } = .ok "k"
      ∧ ∃ s signed, Signer.TwoKeys.config.build = .ok s
        ∧ s.sign 100 (fun _ _ => 0) view = .ok signed
        ∧ s.sign 100 (fun _ _ => 1) (view.setHeader .contentDigest "old") = .ok signed := by
  obtain ⟨s, hs⟩ := Signer.TwoKeys.exists_build
  obtain ⟨signed, hsigned⟩ := Signer.TwoKeys.exists_signed hs 100 fun _ _ => 0
  -- the digest is written by the signer, so an old one is overwritten
  have hindistinct : s.Indistinct view (view.setHeader .contentDigest "old") := by
    refine Signer.indistinct_of_agreeOff
      ((RequestView.AgreeOff.refl _ view).setHeader (List.mem_singleton_self _) "old") ?_ ?_
    · exact fun hmem => SignedHeaders.contentDigest_ne_host (List.mem_singleton.1 hmem).symm
    · intro id _ hdigest hmem
      exact ComponentId.ofString_name_ne_contentDigest hdigest (List.mem_singleton.1 hmem)
  refine ⟨?_, ?_, s, signed, hs, hsigned, ?_⟩
  · -- reached by edits of what is not covered
    rw [(answers_eq_of_alike 1 withDigest travelled).2.1 verifier eqvGen_travelled,
      verify_withDigest]
  · -- another authority, which is not covered either
    rw [(answers_eq_of_alike 1 withDigest _).1 verifier alike_elsewhere, verify_withDigest]
  · -- another digest and other random numbers
    rw [(answers_eq_of_alike 100 view _).2.2 s (Signer.TwoKeys.deterministic hs) hindistinct,
      hsigned]

end MessageSignatures
