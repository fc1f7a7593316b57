import MessageSignatures.Proofs.Signature.Emission
import MessageSignatures.Proofs.Signer
import MessageSignatures.Proofs.Verifier

/-!
# Signing a request and verifying it

A request that was signed is verified by another party, which knows some of the keys. What comes out
depends on three things only: on the keys that are known, on the order in which the signer has them,
and on the time (`outcome`).

The proof follows the stages of the verifier.

* **Selection** finds the signature of the first key that is known (`select?_of_madeBy`).
* **The base** is rebuilt as it was signed: the two headers with signatures are not covered, so
  putting them on the request changes no covered value (`componentValue_of_mem_coveredOn`), and what
  was made for signing is signed as it is written (`build_signed`).
* **The check** therefore depends on the time alone (`check_signed`), and the digest is that of the
  body.
-/

namespace MessageSignatures

/-- **Matching keys.** They have one algorithm, and the verifying key accepts what the signing key
makes. -/
structure VerifyingKey.Matches (k : VerifyingKey) (key : SigningKey) : Prop where
  alg : k.alg = key.alg
  accepts : ∀ entropy message signature, key.sign entropy message = .ok signature →
    k.accepts message signature = true

/-- Whether a verifier knows a key of a signer, given the algorithm that the signer declares. -/
def Verifier.knows (r : Verifier) (entry : String × SigningKey) : Bool :=
  (r.keyFor? entry.1 entry.2.alg.tag).isSome

namespace Signer

variable {s : Signer} {r : Verifier} {created now : Timestamp} {entropy : Nat → Entropy}
  {v w : RequestView} {signed : SignedHeaders}

/-- **Outcome** of verifying what a signer signed: the id of the first key that is known, unless it
is too early or too late. -/
def outcome (s : Signer) (r : Verifier) (created now : Timestamp) : Except Error String :=
  match s.keys.entries.find? r.knows with
  | none => .error .unknownKeyId
  | some entry =>
    if now < created then .error .notYetValid
    else if (s.lifetime.map created.after).any (· < now) then .error .expired
    else .ok entry.1

/-! ### Selection -/

/-- The parameters that a verifier finds, under their labels. -/
def inputs (es : List LabelledSignature) : List (String × SignatureParams) :=
  es.map fun e => (e.label, e.params.asReceived)

/-- **Selection** among the signatures of a list of keys: that of the first key that is known, if
there is one. -/
theorem select?_of_madeBy {lifetime : Option UInt64} {covered : List ComponentId}
    {keys : List (String × SigningKey)} {es : List LabelledSignature}
    (h : List.Forall₂ (MadeBy w lifetime covered created) keys es) :
    (keys.find? r.knows = none ∧ r.select? (inputs es) = none)
      ∨ ∃ entry ∈ keys, ∃ e ∈ es, ∃ k, MadeBy w lifetime covered created entry e
        ∧ keys.find? r.knows = some entry ∧ r.keyFor? entry.1 entry.2.alg.tag = some k
        ∧ r.select? (inputs es) = some ⟨e.label, e.params.asReceived, k⟩ := by
  induction h with
  | nil => exact .inl ⟨rfl, rfl⟩
  -- what was emitted for the key names it, so the verifier looks it up under the same name
  | @cons entry e keys es hentry _ ih =>
    have hparams : r.keyFor? e.params.keyId e.params.alg = r.keyFor? entry.1 entry.2.alg.tag := by
      rw [hentry.declares.keyId, hentry.declares.alg]
    rw [List.find?_cons]
    cases hk : r.keyFor? entry.1 entry.2.alg.tag with
    -- the key is known, and both searches end here
    | some k =>
      have hknows : r.knows entry = true := by rw [Verifier.knows, hk]; rfl
      have hselect : r.select? (inputs (e :: es)) = some ⟨e.label, e.params.asReceived, k⟩ :=
        Verifier.select?_cons_of_some (hparams.trans hk)
      rw [hknows]
      exact .inr ⟨entry, List.mem_cons_self, e, List.mem_cons_self, k, hentry, rfl, hk, hselect⟩
    -- both go on with the other keys
    | none =>
      have hknows : r.knows entry = false := by rw [Verifier.knows, hk]; rfl
      have hselect : r.select? (inputs (e :: es)) = r.select? (inputs es) :=
        Verifier.select?_cons_of_none (hparams.trans hk)
      rw [hknows, hselect]
      rcases ih with hnone | ⟨entry', hentry', e', he', k, hmade, hfind, hk', hselect'⟩
      · exact .inl hnone
      · exact .inr ⟨entry', List.mem_cons_of_mem _ hentry', e', List.mem_cons_of_mem _ he',
          k, hmade, hfind, hk', hselect'⟩

/-! ### The base, built again -/

/-- **Signed as it is written.** What a reader rebuilds of a signature, on any request with the
covered values, is what the key signed. -/
theorem build_signed {lifetime : Option UInt64} {covered : List ComponentId}
    {entry : String × SigningKey} {e : LabelledSignature}
    (he : MadeBy w lifetime covered created entry e)
    (h : ∀ id ∈ covered, v.componentValue id = w.componentValue id) :
    ∃ b entropy, SignatureBase.build v e.params.asReceived = .ok b
      ∧ entry.2.sign entropy b.octets = .ok e.signature := by
  obtain ⟨b, entropy, hb, hsign⟩ := he.signed
  have htext : e.params.baseText = e.params.text := by
    rw [SignatureParams.baseText, he.declares.received, Option.getD_none]
  -- the values are as they were, so the base is
  refine ⟨_, entropy,
    SignatureBase.build_of_componentValue_eq (SignatureBase.build_asReceived hb) ?_, ?_⟩
  · -- every component that the signature covers
    intro id hid
    exact h id (he.declares.covered ▸ hid)
  · -- the parameters are printed as they were when the base was signed
    rw [(SignatureBase.octets_asReceived hb).2 htext]
    exact hsign

/-- Of what signed headers change on a request, the digest was there when it was signed. -/
theorem componentValue_applyTo_of_sign (hsign : s.sign created entropy v = .ok signed)
    {id : ComponentId} (hinput : id.fieldName? ≠ some .signatureInput)
    (hsignature : id.fieldName? ≠ some .signature) :
    (signed.applyTo v).componentValue id = (working v).componentValue id := by
  rw [SignedHeaders.componentValue_applyTo signed v hinput hsignature, (madeBy_of_sign hsign).1]
  rfl

/-- **Covered values stay.** A signer that is not configured for the headers with signatures covers
nothing that it changes by adding them. -/
theorem componentValue_of_mem_coveredOn {c : SignerConfig} (hbuild : c.build = .ok s)
    (hnames : ∀ name ∈ c.covered, FieldName.ofString (Text.trim name) ≠ .signature
      ∧ FieldName.ofString (Text.trim name) ≠ .signatureInput)
    (hsign : s.sign created entropy v = .ok signed) {id : ComponentId}
    (hid : id ∈ s.coveredOn (working v)) :
    (signed.applyTo v).componentValue id = (working v).componentValue id := by
  -- the two headers of the signature are all that the signer replaces unseen
  have hfield : id.fieldName? ≠ some .signatureInput ∧ id.fieldName? ≠ some .signature := by
    rcases mem_withHead.1 hid with hhead | hmem
    · exact SignedHeaders.fieldName?_ne_of_mem_headComponents hhead
    · exact fieldName?_ne_of_mem_covered hbuild hnames (List.mem_filter.1 hmem).1
  exact componentValue_applyTo_of_sign hsign hfield.1 hfield.2

/-! ### The check -/

/-- **Checking** a signature of a signed request with a matching key is checking its time. -/
theorem check_signed {lifetime : Option UInt64} {covered : List ComponentId}
    {entry : String × SigningKey} {e : LabelledSignature} {k : VerifyingKey}
    (he : MadeBy w lifetime covered created entry e)
    (h : ∀ id ∈ covered, v.componentValue id = w.componentValue id) (hk : k.Matches entry.2)
    (hsignature : Verifier.signatureOf v e.label = .ok e.signature) :
    Verifier.check now v ⟨e.label, e.params.asReceived, k⟩ = e.params.checkFreshness now := by
  obtain ⟨b, entropy, hb, hsign⟩ := build_signed he h
  -- the base is the one that was signed, so the time is all that can be wrong
  cases hfresh : e.params.checkFreshness now with
  | ok u =>
    refine Verifier.check_eq_ok.2 ⟨?_, hfresh, b, e.signature, hb, hsignature,
      hk.accepts entropy b.octets e.signature hsign⟩
    -- the key has the algorithm that is declared
    exact he.declares.alg.trans (congrArg Algorithm.tag hk.alg.symm)
  | error fault =>
    have halg : ¬ e.params.asReceived.alg ≠ k.alg.tag :=
      not_not.2 (he.declares.alg.trans (congrArg Algorithm.tag hk.alg.symm))
    have hfresh' : e.params.asReceived.checkFreshness now = .error fault := hfresh
    unfold Verifier.check
    rw [if_neg halg, hfresh']
    rfl

theorem checkFreshness_of_declares {lifetime : Option UInt64} {covered : List ComponentId}
    {keyId : String} {key : SigningKey} {p : SignatureParams}
    (hp : Declares lifetime covered created keyId key p) :
    p.checkFreshness now
      = if now < created then .error .notYetValid
        else if (lifetime.map created.after).any (· < now) then .error .expired else .ok () := by
  unfold SignatureParams.checkFreshness
  rw [hp.created, hp.expires]
  cases lifetime with
  | none => rfl
  | some seconds =>
    -- only a lifetime that is given has an end
    simp only [Option.map_some, Option.any_some, decide_eq_true_eq]

/-- The digest of a signed request is that of its body. -/
theorem digestMatches_signed (hsign : s.sign created entropy v = .ok signed) :
    Verifier.digestMatches (signed.applyTo v) = true := by
  have hbody : (signed.applyTo v).body = v.body := rfl
  unfold Verifier.digestMatches
  rw [SignedHeaders.headerValues_contentDigest, (madeBy_of_sign hsign).1, hbody]
  simp only [String.intercalate_singleton]
  exact ContentDigest.verify_compute v.body

/-! ### The outcome -/

/-- **Any request** with the headers of a signed one, the covered values and a digest that matches
comes to the outcome, if the keys match. -/
theorem verify_eq_outcome (hsign : s.sign created entropy v = .ok signed)
    (htimely : s.Timely created)
    (hkeys : ∀ entry ∈ s.keys.entries, ∀ k, r.keyFor? entry.1 entry.2.alg.tag = some k →
      k.Matches entry.2)
    (hinput : w.headerValues .signatureInput = [signed.inputText])
    (hsignature : w.headerValues .signature = [signed.signatureText])
    (hvalues : ∀ id ∈ s.coveredOn (working v), w.componentValue id = (working v).componentValue id)
    (hdigest : Verifier.digestMatches w = true) : r.verify now w = outcome s r created now := by
  have hwritable := writable_of_sign hsign htimely
  have hdeclared : Verifier.declared w = .ok (inputs signed.signatures) :=
    Verifier.declared_of_headerValues hwritable (signatures_ne_nil hsign) hinput
  unfold outcome Verifier.verify Verifier.verifySignature
  rw [hdeclared, Fallible.ok_bind]
  -- the verifier selects by key ids, in the order of the keys of the signer
  rcases select?_of_madeBy (madeBy_of_sign hsign).2 with
    ⟨hfind, hselect⟩ | ⟨entry, hentry, e, he, k, hmade, hfind, hk, hselect⟩
  · -- no key of the signer is known
    rw [hselect, hfind]
    rfl
  · have hcheck : Verifier.check now w ⟨e.label, e.params.asReceived, k⟩
        = e.params.checkFreshness now :=
      check_signed hmade hvalues (hkeys entry hentry k hk)
        (Verifier.signatureOf_of_headerValues hwritable he hsignature)
    have hkeyId : e.params.asReceived.keyId = entry.1 := hmade.declares.keyId
    -- what is left is to compare the order of the two questions, time first and digest last
    rw [hselect, hfind]
    simp only [hcheck, checkFreshness_of_declares hmade.declares, hdigest, hkeyId]
    split
    · rfl
    · split <;> rfl

/-- **Signing and verifying.** On a signed request, a verifier whose keys match comes to the
outcome. -/
theorem verify_signRequest {c : SignerConfig} {v' : RequestView} (hbuild : c.build = .ok s)
    (hnames : ∀ name ∈ c.covered, FieldName.ofString (Text.trim name) ≠ .signature
      ∧ FieldName.ofString (Text.trim name) ≠ .signatureInput)
    (htimely : s.Timely created)
    (hkeys : ∀ entry ∈ s.keys.entries, ∀ k, r.keyFor? entry.1 entry.2.alg.tag = some k →
      k.Matches entry.2)
    (hsign : s.signRequest created entropy v = .ok v') :
    r.verify now v' = outcome s r created now := by
  obtain ⟨signed, hsigned, rfl⟩ := signRequest_eq_ok.1 hsign
  exact verify_eq_outcome hsigned htimely hkeys (SignedHeaders.headerValues_signatureInput signed v)
    (SignedHeaders.headerValues_signature signed v)
    (fun id hid => componentValue_of_mem_coveredOn hbuild hnames hsigned hid)
    (digestMatches_signed hsigned)

/-- **A signer whose keys sign anything** signs every request on which all values that it covers can
be read. The digest is not one of them, since it is made anew. -/
theorem exists_sign_of_echo {c : SignerConfig} (hbuild : c.build = .ok s)
    (hecho : ∀ entry ∈ s.keys.entries, entry.2 = SignatureBase.Reordered.echo)
    (hreadable : ∀ id ∈ s.covered, ∀ n, id.fieldName? = some n → n ≠ .contentDigest →
      v.isUnreadable n = false)
    (now : Timestamp) (entropy : Nat → Entropy) : ∃ signed, s.sign now entropy v = .ok signed := by
  refine exists_sign hbuild ?_ ?_ hreadable now entropy
  · intro entry hentry entropy nonce hnonce
    rw [hecho entry hentry] at hnonce
    cases hnonce
  · intro entry hentry entropy message
    rw [hecho entry hentry]
    exact ⟨message, rfl⟩

/-! ### Two keys, one of them known -/

namespace TwoKeys

open SignatureBase.Reordered (echo echoed view)

/-- A signer with two keys and a lifetime of a minute. -/
def config : SignerConfig where
  keys := [("a", echo), ("b", echo)]
  lifetime := some 60

/-- A verifier that knows the second key. -/
def verifier : Verifier :=
  ⟨⟨⟨[("b", echoed)], by simp⟩, by simp [OrderedMap.keys]⟩, none⟩

theorem matches_echo : echoed.Matches echo := by
  refine ⟨rfl, ?_⟩
  intro entropy message signature h
  obtain rfl : message = signature := Except.ok.inj h
  exact SignatureBase.Reordered.accepts_echoed message

theorem hasKeys : config.HasKeys :=
  ⟨List.cons_ne_nil _ _, by decide, by decide, by decide⟩

theorem exists_build : ∃ s, config.build = .ok s :=
  SignerConfig.exists_build_iff.2 ⟨hasKeys, List.forall_mem_nil _⟩

variable {s : Signer}

theorem eq_echo (hs : config.build = .ok s) : ∀ entry ∈ s.keys.entries, entry.2 = echo := by
  rw [(SignerConfig.build_eq_ok hs).1]
  intro entry hentry
  simp only [config, List.mem_cons, List.not_mem_nil, or_false] at hentry
  rcases hentry with rfl | rfl <;> rfl

theorem exists_signed (hs : config.build = .ok s) (now : Timestamp) (entropy : Nat → Entropy) :
    ∃ signed, s.sign now entropy view = .ok signed :=
  exists_sign_of_echo hs (eq_echo hs) (fun _ _ _ _ _ => rfl) now entropy

theorem timely (hs : config.build = .ok s) : s.Timely 100 := by
  refine ⟨by decide, ?_⟩
  rw [(SignerConfig.build_eq_ok hs).2.1]
  intro seconds hseconds
  obtain rfl := Option.some.inj hseconds
  decide

/-- The verifier has no other key than the one that accepts what it is given. -/
theorem eq_echoed {keyId alg : String} {k : VerifyingKey}
    (h : verifier.keyFor? keyId alg = some k) : k = echoed := by
  have hlookup : [("b", echoed)].lookup keyId = some k := by
    rw [← h]
    change _ = ([("b", echoed)].lookup keyId <|> none)
    cases [("b", echoed)].lookup keyId <;> rfl
  rw [List.lookup_cons] at hlookup
  split at hlookup
  · exact (Option.some.inj hlookup).symm
  · cases hlookup

theorem matches_known (hs : config.build = .ok s) :
    ∀ entry ∈ s.keys.entries, ∀ k, verifier.keyFor? entry.1 entry.2.alg.tag = some k →
      k.Matches entry.2 := by
  intro entry hentry k hk
  rw [eq_echo hs entry hentry, eq_echoed hk]
  exact matches_echo

theorem outcome_eq (hs : config.build = .ok s) : outcome s verifier 100 120 = .ok "b" := by
  obtain ⟨hkeys, hlifetime, -⟩ := SignerConfig.build_eq_ok hs
  rw [outcome, hkeys, hlifetime]
  rfl

end TwoKeys

open TwoKeys SignatureBase.Reordered in
/-- The signature of the first key is passed over, and the second one is in time. -/
theorem verify_signRequest_two_keys :
    ∃ s v', config.build = .ok s ∧ s.signRequest 100 (fun _ _ => 0) view = .ok v'
      ∧ verifier.verify 120 v' = .ok "b" := by
  obtain ⟨s, hs⟩ := TwoKeys.exists_build
  obtain ⟨signed, hsigned⟩ := exists_signed hs 100 fun _ _ => 0
  -- the request is the view with the signed headers put in
  have hsign : s.signRequest 100 (fun _ _ => 0) view = .ok (signed.applyTo view) :=
    signRequest_eq_ok.2 ⟨signed, hsigned, rfl⟩
  refine ⟨s, _, hs, hsign, ?_⟩
  rw [verify_signRequest hs (fun _ h => absurd h List.not_mem_nil) (timely hs)
    (matches_known hs) hsign, outcome_eq hs]

end Signer

end MessageSignatures
