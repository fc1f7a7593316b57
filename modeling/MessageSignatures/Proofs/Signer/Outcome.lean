import MessageSignatures.Key.Private
import MessageSignatures.Key.Shared
import MessageSignatures.Proofs.Exchange

/-!
# When signing succeeds

Signing goes through the keys in order, and each of them does its part for itself: it declares, it
builds its base and it signs (`Signer.signOne`). The labels are of no consequence for success, so
signing succeeds or fails as these parts do in a row (`Signer.map_signAll`).

* **Declaration.** What was checked when the signer was built need not be checked again: the
  parameters of a key are refused only for a nonce that is not printable (`Signer.paramsFor_eq`).
* **Coverage.** The head, then the configured fields that the request has, each of them once and in
  the order of their first mention (`Signer.exists_coveredOn_eq`).
* **Values.** Everything in the head has a value, and so has every other field that is covered,
  unless it **hides** its value (`Signer.hides`). All bases fail for the first such field or none
  does (`Signer.exists_build_iff`, `Signer.build_eq_error_iff`).
* **Errors.** Signing fails as the first key does that does not sign (`Signer.Fails`). A key of the
  library (`SigningKey.BuiltIn`) never comes with a nonce that is refused.
-/

namespace MessageSignatures

/-! ### Coverage -/

/-- Of the components that are fields, the digest is the only one in the head. -/
theorem mem_headComponents_iff {id : ComponentId} {n : FieldName} (h : id.fieldName? = some n) :
    id ∈ headComponents ↔ id = .contentDigest := by
  refine ⟨fun hid => ?_, fun hid => hid ▸ List.mem_cons_self⟩
  simp only [headComponents, List.mem_cons, List.not_mem_nil, or_false] at hid
  rcases hid with rfl | rfl | rfl | rfl
  · rfl
  all_goals cases h

namespace Signer

variable {c : SignerConfig} {s : Signer} {now : Timestamp} {entropy : Nat → Entropy}
  {v : RequestView}

/-- What a signer covers is taken from fields. -/
theorem exists_fieldName?_of_mem_covered (h : c.build = .ok s) {id : ComponentId}
    (hid : id ∈ s.covered) : ∃ n, id.fieldName? = some n := by
  obtain ⟨name, -, hfield⟩ := exists_name_of_mem_covered h hid
  exact ⟨_, hfield⟩

/-- **The digest is set** on the request that is signed, and nothing else comes or goes. -/
theorem isPresent_working {id : ComponentId} (h : id ≠ .contentDigest) :
    isPresent (working v) id = isPresent v id := by
  have hname := (ComponentId.ofString_name_ne_contentDigest h).symm
  rw [isPresent, isPresent, Bool.eq_iff_iff, RequestView.hasHeader_eq_true_iff,
    RequestView.hasHeader_eq_true_iff, working, RequestView.headerValues_setHeader, if_neg hname,
    RequestView.isUnreadable_setHeader, bne_iff_ne.2 hname, Bool.true_and]

theorem isPresent_working_contentDigest : isPresent (working v) .contentDigest = true :=
  isPresent_of_fieldValue rfl RequestView.fieldValue_setHeader_self

/-- **Coverage.** The head, then the configured fields other than the digest that the request has,
in order and each of them once. -/
theorem exists_coveredOn_eq (h : c.build = .ok s) (v : RequestView) :
    ∃ ids, (if c.covered = [] then defaultCovered else c.covered).mapM ComponentId.ofField = .ok ids
      ∧ s.covered = ids.eraseDups
      ∧ s.coveredOn (working v) = headComponents
        ++ s.covered.filter fun id => id ≠ .contentDigest && isPresent v id := by
  obtain ⟨-, -, hcovered⟩ := SignerConfig.build_eq_ok h
  obtain ⟨ids, hids, hfold⟩ := coverFields_eq_ok.1 hcovered
  -- a component stands in the list once, where it is mentioned first
  rw [foldl_addComponent, List.nil_append, List.filter_eq_self.2 (by simp)] at hfold
  refine ⟨ids, hids, hfold.symm, ?_⟩
  -- the components that are present are added to the head, without those of the head
  rw [coveredOn, withHead, foldl_addComponent, List.filter_filter,
    eraseDups_eq_self (s.covered_nodup.filter _)]
  -- of what is configured, only the digest is in the head
  refine congrArg (headComponents ++ ·) (List.filter_congr fun id hid => ?_)
  obtain ⟨n, hn⟩ := exists_fieldName?_of_mem_covered h hid
  rw [decide_eq_decide.2 (mem_headComponents_iff hn).not]
  by_cases hdigest : id = .contentDigest
  · simp [hdigest]
  · rw [isPresent_working hdigest]

/-! ### Values -/

/-- Components other than the digest keep their values on the request that is signed. -/
theorem componentValue_working {id : ComponentId} (h : id ≠ .contentDigest) :
    (working v).componentValue id = v.componentValue id :=
  RequestView.componentValue_setHeader SignedHeaders.contentDigest_ne_host
    fun hid => h (ComponentId.eq_contentDigest_of_fieldName? hid)

theorem componentValue_working_contentDigest :
    (working v).componentValue .contentDigest = .ok (Text.trim (ContentDigest.compute v.body)) :=
  RequestView.fieldValue_setHeader_self

/-- **Hidden value.** A field other than the digest has a value without text. -/
def hides (v : RequestView) (id : ComponentId) : Bool :=
  id.fieldName?.any fun n => n != .contentDigest && v.isUnreadable n

theorem hides_eq_true_iff {id : ComponentId} :
    hides v id = true ↔ ∃ n, id.fieldName? = some n ∧ n ≠ .contentDigest
      ∧ v.isUnreadable n = true := by
  simp [hides, Option.any_eq_true]

/-- **Readable request** for a signer. No configured field hides a value; the digest is made
anew. -/
def Readable (s : Signer) (v : RequestView) : Prop :=
  ∀ id ∈ s.covered, hides v id = false

/-- **All bases can be built** on a readable request. -/
theorem exists_build_of_readable (h : c.build = .ok s) (hreadable : s.Readable v)
    {p : SignatureParams} (hp : p.covered = s.coveredOn (working v)) :
    ∃ b, SignatureBase.build (working v) p = .ok b := by
  refine exists_build fun id hid => exists_value_of_mem_coveredOn h ?_ (hp ▸ hid)
  intro id hid n hn hdigest
  have hnot := hreadable id hid
  rw [hides, hn, Option.any_some, bne_iff_ne.2 hdigest, Bool.true_and] at hnot
  exact hnot

/-- **No base can be built** if a configured field hides a value: the first one is the fault. -/
theorem build_eq_error_of_find? (h : c.build = .ok s) {id : ComponentId}
    (hid : s.covered.find? (hides v) = some id) {p : SignatureParams}
    (hp : p.covered = s.coveredOn (working v)) :
    SignatureBase.build (working v) p = .error (.unreadableComponent id.name) := by
  -- the component splits the configured ones, and nothing before it hides a value
  obtain ⟨hhides, before, after, hsplit, hbefore⟩ := List.find?_eq_some_iff_append.1 hid
  obtain ⟨n, hn, hdigest, hunreadable⟩ := hides_eq_true_iff.1 hhides
  obtain ⟨ids, -, -, hcovered⟩ := exists_coveredOn_eq h v
  have hpresent : isPresent v id = true := by
    rw [isPresent, ComponentId.ofString_name hn, RequestView.hasHeader_eq_true_iff]
    exact .inr hunreadable
  have hne : id ≠ .contentDigest := by
    rintro rfl
    exact hdigest (Option.some.inj hn).symm
  -- it is covered behind the head and what is configured before it
  rw [hsplit, List.filter_append, List.filter_cons_of_pos (by simp [hne, hpresent]),
    ← List.append_assoc] at hcovered
  refine SignatureBase.build_eq_error.2 ⟨_, id, _, hp.trans hcovered, ?_, ?_⟩
  · -- the head has a value, and so has what is configured before the field
    intro other hother
    rcases List.mem_append.1 hother with hhead | hmem
    · exact exists_value_of_mem_headComponents hhead
    · obtain ⟨hmem, hthere⟩ := List.mem_filter.1 hmem
      have hconfigured : other ∈ s.covered := hsplit ▸ List.mem_append_left _ hmem
      obtain ⟨m, hm⟩ := exists_fieldName?_of_mem_covered h hconfigured
      simp only [ne_eq, Bool.and_eq_true, decide_eq_true_eq] at hthere
      refine exists_value_of_isPresent hm ((isPresent_working hthere.1).trans hthere.2) ?_
      intro hm'
      have hreadable := hbefore other hmem
      rw [hides, hm, Option.any_some, bne_iff_ne.2 hm', Bool.true_and,
        Bool.not_eq_true'] at hreadable
      exact hreadable
  · -- the field itself has a value that is no text
    rw [RequestView.componentValue_eq_fieldValue hn, RequestView.fieldValue, working,
      RequestView.isUnreadable_setHeader, hunreadable, bne_iff_ne.2 hdigest.symm,
      ComponentId.name_eq_text hn]
    rfl

theorem readable_iff : s.Readable v ↔ s.covered.find? (hides v) = none := by
  rw [List.find?_eq_none]
  exact forall₂_congr fun _ _ => Bool.eq_false_iff

/-- **A base is built** exactly on a readable request. -/
theorem exists_build_iff (h : c.build = .ok s) {p : SignatureParams}
    (hp : p.covered = s.coveredOn (working v)) :
    (∃ b, SignatureBase.build (working v) p = .ok b) ↔ s.Readable v := by
  refine ⟨fun ⟨b, hb⟩ => ?_, fun hreadable => exists_build_of_readable h hreadable hp⟩
  rw [readable_iff, Option.eq_none_iff_forall_ne_some]
  intro id hid
  rw [build_eq_error_of_find? h hid hp] at hb
  cases hb

/-- **A base fails** for the first configured field that hides a value, and for nothing else. -/
theorem build_eq_error_iff (h : c.build = .ok s) {p : SignatureParams}
    (hp : p.covered = s.coveredOn (working v)) {e : Error} :
    SignatureBase.build (working v) p = .error e
      ↔ ∃ id, s.covered.find? (hides v) = some id ∧ e = .unreadableComponent id.name := by
  constructor
  · intro he
    -- either no component hides a value, and then there is a base, or the first one is told
    cases hfind : s.covered.find? (hides v) with
    | none =>
      obtain ⟨b, hb⟩ := (exists_build_iff h hp).2 (readable_iff.2 hfind)
      rw [he] at hb
      cases hb
    | some id =>
      rw [build_eq_error_of_find? h hfind hp] at he
      exact ⟨id, rfl, (Except.error.inj he).symm⟩
  · rintro ⟨id, hid, rfl⟩
    exact build_eq_error_of_find? h hid hp

/-! ### One key -/

/-- **What one key does**: it declares, builds its base and signs. There is no label to this. -/
def signOne (v : RequestView) (lifetime : Option UInt64) (covered : List ComponentId)
    (now : Timestamp) (entropy : Nat → Entropy) (entry : (String × SigningKey) × Nat) :
    Except Error (SignatureParams × List UInt8) := do
  let params ← paramsFor lifetime covered now entry.1.1 entry.1.2 (entropy entry.2)
  let base ← SignatureBase.build v params
  let signature ← (entry.1.2.sign (entropy entry.2) base.octets).mapError .signing
  return (params, signature)

variable {lifetime : Option UInt64} {covered : List ComponentId}

/-- **Step.** The first key does its part and gets its label, then the others go on. -/
theorem signAll_cons (keyId : String) (key : SigningKey) (rest : List (String × SigningKey))
    (position : Nat) (taken : List String) :
    signAll v lifetime covered now entropy ((keyId, key) :: rest) position taken = do
      let made ← signOne v lifetime covered now entropy ((keyId, key), position)
      let label := chooseLabel keyId position taken
      let more ← signAll v lifetime covered now entropy rest (position + 1) (label :: taken)
      return ⟨label, made.1, made.2⟩ :: more := by
  rw [signAll, signOne]
  -- both sides take the same steps; a base keeps the parameters that it was built of
  cases paramsFor lifetime covered now keyId key (entropy position) with
  | error e => rfl
  | ok p =>
    rw [Fallible.ok_bind, Fallible.ok_bind]
    cases hb : SignatureBase.build v p with
    | error e => rfl
    | ok b =>
      obtain ⟨rfl, -⟩ := SignatureBase.build_eq_ok.1 hb
      simp only [Fallible.ok_bind, SignatureBase.sign]
      cases key.sign (entropy position) b.octets <;> rfl

/-- **Run.** All keys sign if each of them does; what they make is what each of them makes, and a
failure is that of the first key that fails. -/
theorem map_signAll (keys : List (String × SigningKey)) (position : Nat) (taken : List String) :
    (signAll v lifetime covered now entropy keys position taken).map
        (List.map fun e => (e.params, e.signature))
      = (keys.zipIdx position).mapM (signOne v lifetime covered now entropy) := by
  induction keys generalizing position taken with
  | nil => rfl
  | cons entry keys ih =>
    obtain ⟨keyId, key⟩ := entry
    rw [signAll_cons, List.zipIdx_cons, List.mapM_cons]
    -- the first fault ends both sides
    cases signOne v lifetime covered now entropy ((keyId, key), position) with
    | error e => rfl
    | ok made =>
      rw [Fallible.ok_bind, Fallible.ok_bind,
        ← ih (position + 1) (chooseLabel keyId position taken :: taken)]
      dsimp only
      cases signAll v lifetime covered now entropy keys (position + 1)
        (chooseLabel keyId position taken :: taken) <;> rfl

/-- **Declaration** of a key at its position. -/
def declaration (s : Signer) (now : Timestamp) (entropy : Nat → Entropy) (v : RequestView)
    (entry : (String × SigningKey) × Nat) : SignatureParams where
  created := now
  expires := s.lifetime.map now.after
  nonce := entry.1.2.nonce (entropy entry.2)
  alg := entry.1.2.alg.tag
  keyId := entry.1.1
  covered := s.coveredOn (working v)
  received := none

/-- **Willing key.** Its nonce is printable, if it comes with one, and it signs the base of its
declaration. -/
structure Willing (s : Signer) (now : Timestamp) (entropy : Nat → Entropy) (v : RequestView)
    (entry : (String × SigningKey) × Nat) : Prop where
  nonce : ∀ nonce ∈ entry.1.2.nonce (entropy entry.2), Text.isPrintable nonce = true
  sign : ∀ b, SignatureBase.build (working v) (s.declaration now entropy v entry) = .ok b →
    ∃ signature, entry.1.2.sign (entropy entry.2) b.octets = .ok signature

/-- **Failure of a key.** Its nonce comes first, then the fields that are covered, then the key
itself. -/
inductive Fails (s : Signer) (now : Timestamp) (entropy : Nat → Entropy) (v : RequestView)
    (entry : (String × SigningKey) × Nat) : Error → Prop where
  | nonce {nonce : String} (h : entry.1.2.nonce (entropy entry.2) = some nonce)
      (hnot : Text.isPrintable nonce = false) : Fails s now entropy v entry (.params .invalidNonce)
  | component {id : ComponentId}
      (hnonce : ∀ nonce ∈ entry.1.2.nonce (entropy entry.2), Text.isPrintable nonce = true)
      (hid : s.covered.find? (hides v) = some id) :
      Fails s now entropy v entry (.unreadableComponent id.name)
  | signing {b : SignatureBase} {fault : SigningFault}
      (hnonce : ∀ nonce ∈ entry.1.2.nonce (entropy entry.2), Text.isPrintable nonce = true)
      (hb : SignatureBase.build (working v) (s.declaration now entropy v entry) = .ok b)
      (h : entry.1.2.sign (entropy entry.2) b.octets = .error fault) :
      Fails s now entropy v entry (.signing fault)

/-- What a key does at its position, for a signer and a request. -/
def signAt (s : Signer) (now : Timestamp) (entropy : Nat → Entropy) (v : RequestView)
    (entry : (String × SigningKey) × Nat) : Except Error (SignatureParams × List UInt8) :=
  signOne (working v) s.lifetime (s.coveredOn (working v)) now entropy entry

variable {entry : (String × SigningKey) × Nat}

/-- **The declaration goes through**, or the nonce is not printable. -/
theorem paramsFor_declaration (hentry : entry ∈ s.keys.entries.zipIdx) :
    paramsFor s.lifetime (s.coveredOn (working v)) now entry.1.1 entry.1.2 (entropy entry.2)
      = if (entry.1.2.nonce (entropy entry.2)).all Text.isPrintable then
          .ok (s.declaration now entropy v entry)
        else .error (.params .invalidNonce) := by
  obtain ⟨hne, hprintable⟩ := s.keyId_of_mem (List.fst_mem_of_mem_zipIdx hentry)
  exact paramsFor_eq (nodup_withHead _) hne hprintable

theorem signAt_eq_ok (hentry : entry ∈ s.keys.entries.zipIdx) {p : SignatureParams}
    {signature : List UInt8} :
    s.signAt now entropy v entry = .ok (p, signature)
      ↔ (∀ nonce ∈ entry.1.2.nonce (entropy entry.2), Text.isPrintable nonce = true)
        ∧ p = s.declaration now entropy v entry
        ∧ ∃ b, SignatureBase.build (working v) p = .ok b
          ∧ entry.1.2.sign (entropy entry.2) b.octets = .ok signature := by
  rw [signAt, signOne, paramsFor_declaration hentry]
  -- the nonce is checked first
  split
  · next hnonce =>
    rw [Fallible.ok_bind]
    -- of the two steps that are left, the second one is the signature
    simp only [Fallible.bind_eq_ok, Fallible.mapError_eq_ok]
    constructor
    · rintro ⟨b, hb, x, hx, h⟩
      cases h
      exact ⟨(Option.all_eq_true ..).1 hnonce, rfl, b, hb, hx⟩
    · rintro ⟨-, rfl, b, hb, hx⟩
      exact ⟨b, hb, signature, hx, rfl⟩
  · next hnonce => exact ⟨nofun, fun h => absurd ((Option.all_eq_true ..).2 h.1) hnonce⟩

/-- **A key does its part** exactly if the request is readable and the key is willing. -/
theorem exists_signAt_iff (h : c.build = .ok s) (hentry : entry ∈ s.keys.entries.zipIdx) :
    (∃ made, s.signAt now entropy v entry = .ok made)
      ↔ s.Readable v ∧ s.Willing now entropy v entry := by
  constructor
  -- two bases of the same parameters are one
  · rintro ⟨⟨p, x⟩, hmade⟩
    obtain ⟨hnonce, rfl, b, hb, hx⟩ := (signAt_eq_ok hentry).1 hmade
    refine ⟨(exists_build_iff h rfl).1 ⟨b, hb⟩, hnonce, fun b' hb' => ⟨x, ?_⟩⟩
    obtain rfl : b = b' := Except.ok.inj (hb.symm.trans hb')
    exact hx
  · rintro ⟨hreadable, hnonce, hsign⟩
    obtain ⟨b, hb⟩ := (exists_build_iff h (p := s.declaration now entropy v entry) rfl).2 hreadable
    obtain ⟨x, hx⟩ := hsign b hb
    exact ⟨(_, x), (signAt_eq_ok hentry).2 ⟨hnonce, rfl, b, hb, hx⟩⟩

/-- **A key fails** in one of three ways, each with its own error. -/
theorem signAt_eq_error (h : c.build = .ok s) (hentry : entry ∈ s.keys.entries.zipIdx) {e : Error} :
    s.signAt now entropy v entry = .error e ↔ s.Fails now entropy v entry e := by
  rw [signAt, signOne, paramsFor_declaration hentry]
  by_cases hall : (entry.1.2.nonce (entropy entry.2)).all Text.isPrintable = true
  · have hnonce := (Option.all_eq_true ..).1 hall
    rw [if_pos hall, Fallible.ok_bind, Fallible.bind_eq_error, build_eq_error_iff h rfl]
    constructor
    -- after the nonce, a component or the key can fail
    · rintro (⟨id, hid, rfl⟩ | ⟨b, hb, hsign⟩)
      · exact .component hnonce hid
      · rcases Fallible.bind_eq_error.1 hsign with hsign | ⟨x, -, hpure⟩
        · obtain ⟨fault, hfault, rfl⟩ := Fallible.mapError_eq_error.1 hsign
          exact .signing hnonce hb hfault
        · cases hpure
    · rintro (⟨hsome, hnot⟩ | ⟨-, hid⟩ | ⟨-, hb, hfault⟩)
      · rw [hnonce _ hsome] at hnot
        cases hnot
      · exact .inl ⟨_, hid, rfl⟩
      · exact .inr ⟨_, hb, Fallible.bind_eq_error.2
          (.inl (Fallible.mapError_eq_error.2 ⟨_, hfault, rfl⟩))⟩
  · rw [if_neg hall]
    constructor
    · intro herror
      cases herror
      -- a nonce that is refused is there
      cases hsome : entry.1.2.nonce (entropy entry.2) with
      | none => exact absurd (by rw [hsome]; rfl) hall
      | some nonce =>
        rw [hsome, Option.all_some] at hall
        exact .nonce hsome (Bool.eq_false_iff.2 hall)
    · rintro (⟨-, -⟩ | ⟨hnonce, -⟩ | ⟨hnonce, -, -⟩)
      · rfl
      all_goals exact absurd ((Option.all_eq_true ..).2 hnonce) hall

/-! ### All keys -/

/-- **Signing** as what the keys do in a row. -/
theorem map_sign (s : Signer) (now : Timestamp) (entropy : Nat → Entropy) (v : RequestView) :
    (s.sign now entropy v).map
        (fun signed => signed.signatures.map fun e => (e.params, e.signature))
      = s.keys.entries.zipIdx.mapM (s.signAt now entropy v) := by
  have hall :
      (signAll (working v) s.lifetime (s.coveredOn (working v)) now entropy s.keys.entries 0 []).map
        (List.map fun e => (e.params, e.signature))
      = s.keys.entries.zipIdx.mapM (s.signAt now entropy v) := map_signAll s.keys.entries 0 []
  rw [sign, ← hall]
  -- what is left out of the result is made without fail
  cases signAll (working v) s.lifetime (s.coveredOn (working v)) now entropy s.keys.entries 0 []
    <;> rfl

/-- **Success.** A signer that was built signs a request exactly if the request is readable and all
of its keys are willing. -/
theorem exists_sign_iff (h : c.build = .ok s) (now : Timestamp) (entropy : Nat → Entropy)
    (v : RequestView) :
    (∃ signed, s.sign now entropy v = .ok signed)
      ↔ s.Readable v ∧ ∀ entry ∈ s.keys.entries.zipIdx, s.Willing now entropy v entry := by
  have hmap := map_sign s now entropy v
  constructor
  · rintro ⟨signed, hsigned⟩
    rw [hsigned] at hmap
    have hall : ∀ entry ∈ s.keys.entries.zipIdx, s.Readable v ∧ s.Willing now entropy v entry := by
      intro entry hentry
      obtain ⟨made, -, hmade⟩ :=
        Fallible.exists_right_of_mem (Fallible.mapM_eq_ok.1 hmap.symm) hentry
      exact (exists_signAt_iff h hentry).1 ⟨made, hmade⟩
    -- there is a key, and it built a base
    obtain ⟨entry, hentry⟩ := List.exists_mem_of_ne_nil s.keys.entries.zipIdx
      (mt List.zipIdx_eq_nil_iff.1 s.keys_ne_nil)
    exact ⟨(hall entry hentry).1, fun entry hentry => (hall entry hentry).2⟩
  · rintro ⟨hreadable, hwilling⟩
    obtain ⟨made, hmade⟩ := Fallible.exists_mapM fun entry hentry =>
      (exists_signAt_iff h hentry).2 ⟨hreadable, hwilling entry hentry⟩
    rw [hmade] at hmap
    obtain ⟨signed, hsigned, -⟩ := Fallible.map_eq_ok.1 hmap
    exact ⟨signed, hsigned⟩

/-- **Failure.** The error is that of the first key that does not do its part. -/
theorem sign_eq_error_iff (h : c.build = .ok s) (now : Timestamp) (entropy : Nat → Entropy)
    (v : RequestView) (e : Error) :
    s.sign now entropy v = .error e ↔ ∃ before entry after,
      s.keys.entries.zipIdx = before ++ entry :: after
        ∧ (∀ other ∈ before, s.Readable v ∧ s.Willing now entropy v other)
        ∧ s.Fails now entropy v entry e := by
  rw [← Fallible.map_eq_error
      (f := fun signed => signed.signatures.map fun e => (e.params, e.signature)),
    map_sign, Fallible.mapM_eq_error]
  -- where the first fault stands, all before it have signed
  refine exists_congr fun before => exists_congr fun entry => exists_congr fun after =>
    and_congr_right fun hsplit => and_congr (forall₂_congr fun other hother => ?_) ?_
  · exact exists_signAt_iff h (hsplit ▸ List.mem_append_left _ hother)
  · exact signAt_eq_error h (hsplit ▸ List.mem_append_right _ List.mem_cons_self)

/-- **What each key makes** when signing succeeds, in the order of the keys. -/
theorem declared_of_sign {signed : SignedHeaders} (h : s.sign now entropy v = .ok signed) :
    List.Forall₂ (fun entry e => e.params = s.declaration now entropy v entry
        ∧ ∃ b, SignatureBase.build (working v) e.params = .ok b
          ∧ entry.1.2.sign (entropy entry.2) b.octets = .ok e.signature)
      s.keys.entries.zipIdx signed.signatures := by
  refine Fallible.forall₂_imp_of_mem (signedBy_of_sign h) fun entry hentry e he => ⟨?_, he.signed⟩
  -- what is declared depends on the nonce, and this one has been accepted
  have hparams := he.params
  rw [paramsFor_declaration hentry] at hparams
  split at hparams
  · exact (Except.ok.inj hparams).symm
  · cases hparams

end Signer

/-- **Keys of the library**, with or without fresh nonces. -/
inductive SigningKey.BuiltIn : SigningKey → Prop where
  | shared (key : SharedKey) : BuiltIn key.signingKey
  | asymmetric (key : PrivateKey) : BuiltIn key.signingKey
  | withRandomNonce {key : SigningKey} (h : BuiltIn key) : BuiltIn key.withRandomNonce

/-- A nonce of the library is base64. -/
theorem SigningKey.BuiltIn.isPrintable_nonce {key : SigningKey} (h : key.BuiltIn)
    (entropy : Entropy) :
    ∀ nonce ∈ key.nonce entropy, Text.isPrintable nonce = true := by
  intro nonce hnonce
  cases h with
  | shared key => cases hnonce
  | asymmetric key => cases hnonce
  | withRandomNonce h =>
    obtain rfl := Option.some.inj hnonce
    exact StructuredField.isPrintable_base64 _

namespace Signer

variable {c : SignerConfig} {s : Signer} {now : Timestamp} {entropy : Nat → Entropy}
  {v : RequestView}
  {entry : (String × SigningKey) × Nat} {e : Error}

/-- **Absence** is no reason to fail. -/
theorem Fails.ne_missingComponent (h : s.Fails now entropy v entry e) (name : String) :
    e ≠ .missingComponent name := by
  rintro rfl
  cases h

/-- A key of the library fails for a field or in the computation. -/
theorem Fails.of_builtIn (h : s.Fails now entropy v entry e) (hkey : entry.1.2.BuiltIn) :
    (∃ id ∈ s.covered, hides v id = true ∧ e = .unreadableComponent id.name)
      ∨ ∃ fault, e = .signing fault := by
  -- a key that is built in has a nonce that is printable or none, so this is not its fault
  cases h with
  | nonce hsome hnot =>
    rw [hkey.isPrintable_nonce _ _ hsome] at hnot
    cases hnot
  | component hnonce hid =>
    exact .inl ⟨_, List.mem_of_find?_eq_some hid, List.find?_some hid, rfl⟩
  | signing hnonce hb hfault => exact .inr ⟨_, rfl⟩

/-- **The outcome of signing**, for a signer that was built.

* It succeeds exactly if no configured field other than the digest has a value without text, every
  nonce is printable, and every key signs its base.
* There is then one signature for each key, in order. All of them begin now and cover the head and
  the configured fields that the request has, each of them once.
* Otherwise the error is that of the first key that fails: for its nonce, else for the first hidden
  field, else its own. It never is that something is absent; and with keys of the library it is for
  a field or from the computation. -/
theorem outcome_of_sign (h : c.build = .ok s) (now : Timestamp) (entropy : Nat → Entropy)
    (v : RequestView) :
    ((∃ signed, s.sign now entropy v = .ok signed)
        ↔ s.Readable v ∧ ∀ entry ∈ s.keys.entries.zipIdx, s.Willing now entropy v entry)
      ∧ (∀ signed, s.sign now entropy v = .ok signed →
        List.Forall₂ (fun entry e => e.params = s.declaration now entropy v entry
            ∧ ∃ b, SignatureBase.build (working v) e.params = .ok b
              ∧ entry.1.2.sign (entropy entry.2) b.octets = .ok e.signature)
          s.keys.entries.zipIdx signed.signatures
        ∧ ∃ ids, (if c.covered = [] then defaultCovered else c.covered).mapM ComponentId.ofField
            = .ok ids
          ∧ ∀ e ∈ signed.signatures, e.params.created = now
            ∧ e.params.covered = headComponents
              ++ ids.eraseDups.filter fun id => id ≠ .contentDigest && isPresent v id)
      ∧ (∀ e, s.sign now entropy v = .error e ↔ ∃ before entry after,
        s.keys.entries.zipIdx = before ++ entry :: after
          ∧ (∀ other ∈ before, s.Readable v ∧ s.Willing now entropy v other)
          ∧ s.Fails now entropy v entry e)
      ∧ (∀ name, s.sign now entropy v ≠ .error (.missingComponent name))
      ∧ ((∀ entry ∈ s.keys.entries, entry.2.BuiltIn) → ∀ e, s.sign now entropy v = .error e →
        (∃ id ∈ s.covered, hides v id = true ∧ e = .unreadableComponent id.name)
          ∨ ∃ fault, e = .signing fault) := by
  refine ⟨exists_sign_iff h now entropy v, fun signed hsigned => ?_,
    sign_eq_error_iff h now entropy v, fun name herror => ?_, fun hkeys e herror => ?_⟩
  · have hmade := declared_of_sign hsigned
    obtain ⟨ids, hids, hcovered, hcoverage⟩ := exists_coveredOn_eq h v
    refine ⟨hmade, ids, hids, fun e he => ?_⟩
    -- each signature goes back to a key, and its parameters to the declaration of that key
    obtain ⟨entry, -, hparams, -⟩ := Fallible.exists_left_of_mem hmade he
    rw [hparams, ← hcovered]
    exact ⟨rfl, hcoverage⟩
  · obtain ⟨before, entry, after, -, -, hfails⟩ := (sign_eq_error_iff h now entropy v _).1 herror
    exact hfails.ne_missingComponent name rfl
  · -- the first fault is that of one key, which is built in
    obtain ⟨before, entry, after, hsplit, -, hfails⟩ :=
      (sign_eq_error_iff h now entropy v e).1 herror
    have hentry : entry ∈ s.keys.entries.zipIdx :=
      hsplit ▸ List.mem_append_right _ List.mem_cons_self
    exact hfails.of_builtIn (hkeys entry.1 (List.fst_mem_of_mem_zipIdx hentry))

/-! ### A request without most things -/

namespace Bare

open SignatureBase.Reordered (view)

/-- A shared key. -/
def secret : SigningKey :=
  (SharedKey.mk [1, 2, 3]).signingKey

/-- A signer with the key twice, once with fresh nonces. -/
def config : SignerConfig where
  keys := [("a", secret.withRandomNonce), ("b", secret)]

/-- A request with a field that hides a value. It has no query, no authority and no other field. -/
def obscured (name : String) : RequestView :=
  view.appendUnreadable (.ofString name)

theorem hasKeys : config.HasKeys :=
  ⟨List.cons_ne_nil _ _, by decide, by decide, by decide⟩

theorem exists_build : ∃ s, config.build = .ok s :=
  SignerConfig.exists_build_iff.2 ⟨hasKeys, List.forall_mem_nil _⟩

theorem builtIn_secret : secret.BuiltIn :=
  .shared _

/-- Both keys are willing, whatever the request. -/
theorem willing (hs : config.build = .ok s) (now : Timestamp) (entropy : Nat → Entropy)
    (v : RequestView) :
    ∀ entry ∈ s.keys.entries.zipIdx, s.Willing now entropy v entry := by
  rw [(SignerConfig.build_eq_ok hs).1]
  intro entry hentry
  -- either key is the shared one
  have hkey : entry.1.2 = secret.withRandomNonce ∨ entry.1.2 = secret := by
    have hmem := List.fst_mem_of_mem_zipIdx hentry
    simp only [config, List.mem_cons, List.not_mem_nil, or_false] at hmem
    rcases hmem with h | h
    · exact .inl (congrArg Prod.snd h)
    · exact .inr (congrArg Prod.snd h)
  constructor
  · rcases hkey with h | h <;> rw [h]
    · exact builtIn_secret.withRandomNonce.isPrintable_nonce _
    · exact builtIn_secret.isPrintable_nonce _
  · intro b _
    rcases hkey with h | h <;> rw [h] <;> exact ⟨_, rfl⟩

theorem isUnreadable_obscured {name : String} {n : FieldName} :
    (obscured name).isUnreadable n = true ↔ .ofString name = n := by
  rw [obscured, RequestView.isUnreadable_appendUnreadable]
  simp [view, RequestView.isUnreadable]

theorem readable_obscured_digest : s.Readable (obscured "content-digest") := by
  intro id _
  rw [← Bool.not_eq_true, hides_eq_true_iff]
  rintro ⟨n, -, hdigest, hunreadable⟩
  exact hdigest (isUnreadable_obscured.1 hunreadable).symm

/-- The field that is covered unless others are configured. -/
theorem find?_obscured_type (hs : config.build = .ok s) :
    ∃ id, s.covered.find? (hides (obscured "content-type")) = some id
      ∧ id.name = "content-type" := by
  have hdefault : "content-type" ∈ defaultCovered := by decide
  have htext := text_ofString_of_mem_defaultCovered hdefault
  have hdigest : FieldName.ofString "content-type" ≠ .contentDigest :=
    FieldName.ne_of_text_ne htext FieldName.text_contentDigest (by decide)
  obtain ⟨ids, hids, hcovered, -⟩ := exists_coveredOn_eq hs view
  obtain ⟨id, hid, hread⟩ := Fallible.exists_right_of_mem (Fallible.mapM_eq_ok.1 hids) hdefault
  have hhides : hides (obscured "content-type") id = true :=
    hides_eq_true_iff.2 ⟨_, ComponentId.fieldName?_of_ofField hread, hdigest,
      isUnreadable_obscured.2 rfl⟩
  obtain ⟨found, hfound⟩ := Option.isSome_iff_exists.1
    (List.find?_isSome.2 ⟨id, hcovered ▸ List.mem_eraseDups.2 hid, hhides⟩)
  -- the first component that hides a value may not be this one, but it has the same name
  refine ⟨found, hfound, ?_⟩
  obtain ⟨n, hn, -, hunreadable⟩ := hides_eq_true_iff.1 (List.find?_some hfound)
  rw [ComponentId.name_eq_text hn, ← isUnreadable_obscured.1 hunreadable]
  exact htext

end Bare

open Bare SignatureBase.Reordered in
/-- A digest that hides its value does not stand in the way, nor does all that the request lacks; a
field that hides its value does, and the first key tells. -/
theorem outcome_of_sign_bare :
    ∃ s, config.build = .ok s
      ∧ (∃ signed, s.sign 100 (fun _ _ => 7) (obscured "content-digest") = .ok signed)
      ∧ s.sign 100 (fun _ _ => 7) (obscured "content-type")
        = .error (.unreadableComponent "content-type") := by
  obtain ⟨s, hs⟩ := Bare.exists_build
  have hkeys := (SignerConfig.build_eq_ok hs).1
  refine ⟨s, hs, ?_, ?_⟩
  · exact (outcome_of_sign hs 100 _ _).1.2 ⟨readable_obscured_digest, willing hs 100 _ _⟩
  · -- no key precedes the first one, and it fails at the component
    obtain ⟨id, hid, hname⟩ := find?_obscured_type hs
    have hnonce := (willing hs 100 (fun _ _ => 7) (obscured "content-type") (("a", _), 0)
      (by rw [hkeys]; exact List.mem_cons_self)).nonce
    have hfails : s.Fails 100 (fun _ _ => 7) (obscured "content-type")
        (("a", secret.withRandomNonce), 0) (.unreadableComponent id.name) := .component hnonce hid
    rw [hname] at hfails
    exact ((outcome_of_sign hs 100 _ _).2.2.1 _).2 ⟨[], _, [(("b", secret), 1)],
      by rw [hkeys]; rfl, List.forall_mem_nil _, hfails⟩

end Signer

end MessageSignatures
