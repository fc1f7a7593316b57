import MessageSignatures.Http.Service
import MessageSignatures.Proofs.Http.Introspection

/-!
# What layers hand on

A layer answers a request itself or hands one on to the service behind it. Which of the two it does,
and what it hands on, is told by recording the requests that reach the service (`Service.recorded`):
the record is part of the state, so it also tells how often the service is called.

* **Verifying** (`Service.call_verifying`). A request that is accepted is handed on once, with the
  id of the key noted on it; any other is not handed on, and all of them get the same answer.
* **Signing, then verifying** (`Service.call_signing_verifying`). A request that goes through both
  layers arrives with the three headers of its signatures and the id of the first key that the
  verifier knows. The only way not to arrive is a fault in signing.

Both are stated for a service with effects in any lawful monad. What the service answers, and what
else it does, is left as it is.
-/

namespace MessageSignatures

namespace Http

namespace Request

/-- **Accepted request.** Its body can be read, and a verifier accepts its view. -/
def AcceptedBy (request : Request) (r : Verifier) (now : Timestamp) (body : List UInt8)
    (keyId : String) : Prop :=
  request.body.read = .ok body ∧ r.verify now (request.view body) = .ok keyId

/-- **Verified request.** The request as it came, with the id of the key noted on it in place of any
that was, and its body known as a whole. -/
def verified (request : Request) (body : List UInt8) (keyId : String) : Request :=
  { request with body := .ofOctets body, verifiedKeyId := some keyId }

end Request

namespace Service

variable {m : Type → Type} [Monad m] {ε : Type}

/-- **Recording** the requests that a service is called with. -/
def recorded (inner : Service m ε) : Service (StateT (List Request) m) ε where
  ready := StateT.lift inner.ready
  call request := do
    modify (· ++ [request])
    StateT.lift (inner.call request)

variable [LawfulMonad m]

theorem run_call_recorded (inner : Service m ε) (request : Request) (log : List Request) :
    (inner.recorded.call request).run log
      = (fun answer => (answer, log ++ [request])) <$> inner.call request := by
  simp [recorded]

/-! ### The verifying layer -/

section Verifying

variable (r : Verifier) (now : Timestamp) (inner : Service m ε) {request : Request}

theorem run_call_verifying_of_accepted {body : List UInt8} {keyId : String}
    (h : request.AcceptedBy r now body keyId) (log : List Request) :
    ((inner.recorded.verifying r now).call request).run log
      = (fun answer => (answer, log ++ [request.verified body keyId]))
        <$> inner.call (request.verified body keyId) := by
  have hverify := Request.verify_eq_ok.2 ⟨body, h.1, h.2, rfl⟩
  simp only [verifying, hverify]
  exact run_call_recorded inner (request.verified body keyId) log

omit [LawfulMonad m] in
theorem run_call_verifying_of_not_accepted (h : ¬ ∃ body keyId, request.AcceptedBy r now body keyId)
    (log : List Request) :
    ((inner.recorded.verifying r now).call request).run log = pure (.ok rejection, log) := by
  -- with no acceptance the request cannot have come out verified
  cases hverify : request.verify r now with
  | error e =>
    simp only [verifying, hverify]
    rfl
  | ok verified =>
    obtain ⟨body, hbody, hkeyId, -⟩ := Request.verify_eq_ok.1 hverify
    exact absurd ⟨body, _, hbody, hkeyId⟩ h

/-- **A verifying layer** hands a request on exactly if it is accepted, and then once, as it came
and with the id of the key noted on it; what the service answers is the answer. To all others it
answers alike: that a signature is required, as plain text and with the status of a bad request. -/
theorem call_verifying (request : Request) :
    ((∃ body keyId, request.AcceptedBy r now body keyId
        ∧ ∀ log, ((inner.recorded.verifying r now).call request).run log
          = (fun answer => (answer, log ++ [request.verified body keyId]))
            <$> inner.call (request.verified body keyId))
      ∨ (¬ ∃ body keyId, request.AcceptedBy r now body keyId)
        ∧ ∀ log, ((inner.recorded.verifying r now).call request).run log
          = pure (.ok rejection, log))
    ∧ (∀ other : Request, (¬ ∃ body keyId, request.AcceptedBy r now body keyId) →
      (¬ ∃ body keyId, other.AcceptedBy r now body keyId) →
      ∀ log, ((inner.recorded.verifying r now).call request).run log
        = ((inner.recorded.verifying r now).call other).run log)
    ∧ rejection.status = 400
    ∧ rejection.headers = [(.ofString "content-type", Text.utf8 "text/plain")]
    ∧ rejection.body = Text.utf8 "invalid required signature" := by
  refine ⟨?_, fun other hrequest hother log => ?_, rfl, rfl, rfl⟩
  · -- the request is accepted with a body and a key id, or it is not
    by_cases h : ∃ body keyId, request.AcceptedBy r now body keyId
    · obtain ⟨body, keyId, haccepted⟩ := h
      exact .inl ⟨body, keyId, haccepted, run_call_verifying_of_accepted r now inner haccepted⟩
    · exact .inr ⟨h, run_call_verifying_of_not_accepted r now inner h⟩
  · -- two refused requests are answered by the same constant
    rw [run_call_verifying_of_not_accepted r now inner hrequest,
      run_call_verifying_of_not_accepted r now inner hother]

/-! ### A service that greets -/

/-- A service that answers with the id of the key that it finds noted. -/
def greeter : Service Id Empty where
  ready := pure (.ok ())
  call request := pure (.ok ⟨200, [], Text.utf8 (request.verifiedKeyId.getD "")⟩)

open Verifier.PathOnly in
/-- A request without parameters of a signature is not accepted. -/
theorem not_acceptedBy_stale :
    ¬ ∃ body keyId, Request.Stale.request.AcceptedBy verifier 1 body keyId := by
  rintro ⟨body, keyId, -, hverify⟩
  -- it would have to declare a signature
  obtain ⟨s, ⟨⟨params, before, after, hreads, -⟩, -⟩, -⟩ :=
    Verifier.verifySignature_eq_ok_iff_valid.1 (Verifier.verify_eq_ok.1 hverify).1
  refine hreads.present ?_
  rw [headerValues_view, Request.Stale.request, Headers.valuesOf_cons, Headers.valuesOf_cons,
    Headers.valuesOf_cons, if_neg SignedHeaders.contentDigest_ne_signatureInput,
    if_neg SignedHeaders.signatureInput_ne_signature.symm,
    if_neg SignedHeaders.signatureInput_ne_signature.symm]
  rfl

open Verifier.PathOnly in
/-- Who has signed is greeted, and who has not is rejected. -/
theorem call_verifying_greeter :
    ((greeter.recorded.verifying verifier 1).call (Request.Lines.request [])).run []
        = (.ok ⟨200, [], Text.utf8 "k"⟩, [(Request.Lines.request []).verified [] "k"])
      ∧ ((greeter.recorded.verifying verifier 1).call Request.Stale.request).run []
        = (.ok rejection, []) := by
  constructor
  · -- the request with no other signature lines is verified under `k`
    have hverify : (Request.Lines.request []).verify verifier 1
        = .ok (Request.Lines.request [], "k") :=
      Request.Lines.verify_request nofun
    obtain ⟨body, hbody, hkeyId, -⟩ := Request.verify_eq_ok.1 hverify
    rcases (call_verifying verifier 1 greeter (Request.Lines.request [])).1 with
      ⟨body', keyId, ⟨hread, haccepted⟩, hrun⟩ | ⟨hnot, -⟩
    · obtain rfl : [] = body' := Except.ok.inj ((Body.read_ofOctets []).symm.trans hread)
      obtain rfl : [] = body := Except.ok.inj ((Body.read_ofOctets []).symm.trans hbody)
      obtain rfl : "k" = keyId := Except.ok.inj (hkeyId.symm.trans haccepted)
      exact hrun []
    · exact absurd ⟨body, "k", hbody, hkeyId⟩ hnot
  · -- the other has no signature at all
    rcases (call_verifying verifier 1 greeter Request.Stale.request).1 with
      ⟨body, keyId, haccepted, -⟩ | ⟨-, hrun⟩
    · exact absurd ⟨body, keyId, haccepted⟩ not_acceptedBy_stale
    · exact hrun []

end Verifying

/-! ### The signing layer -/

omit [LawfulMonad m] in
theorem call_signing_of_error (inner : Service m ε) {request : Request} {s : Signer}
    {now : Timestamp}
    {entropy : Nat → Entropy} {e : Error} (h : request.sign s now entropy = .error e) :
    (inner.signing s now entropy).call request = pure (.error (.signing e)) := by
  simp only [signing, h]

theorem call_signing_of_ok (inner : Service m ε) {request signed : Request} {s : Signer}
    {now : Timestamp} {entropy : Nat → Entropy} (h : request.sign s now entropy = .ok signed) :
    (inner.signing s now entropy).call request
      = (fun answer => answer.mapError .inner) <$> inner.call signed := by
  simp only [signing, h]
  exact bind_pure_comp _ _

/-! ### Signing, then verifying -/

section Signing

variable {c : SignerConfig} {s : Signer} {r : Verifier} {created now : Timestamp}
  {entropy : Nat → Entropy}
  {request : Request} {body : List UInt8} {signed : SignedHeaders} {entry : String × SigningKey}

/-- In the time of validity, the outcome is the first key that is known. -/
theorem outcome_of_current (hfind : s.keys.entries.find? r.knows = some entry)
    (hbegun : created ≤ now) (hlasts : ∀ seconds ∈ s.lifetime, now ≤ created.after seconds) :
    Signer.outcome s r created now = .ok entry.1 := by
  -- no end of the lifetime lies before the clock
  have hexpired : ¬ (s.lifetime.map created.after).any (· < now) = true := by
    rw [Option.any_map, Option.any_eq_true]
    rintro ⟨seconds, hseconds, hlt⟩
    exact UInt64.not_lt.2 (hlasts seconds hseconds) (of_decide_eq_true hlt)
  rw [Signer.outcome, hfind]
  simp only
  rw [if_neg (UInt64.not_lt.2 hbegun), if_neg hexpired]

/-- **A signed request is accepted** by a verifier with matching keys. -/
theorem acceptedBy_withSigned (hbuild : c.build = .ok s)
    (hnames : ∀ name ∈ c.covered, FieldName.ofString (Text.trim name) ≠ .signature
      ∧ FieldName.ofString (Text.trim name) ≠ .signatureInput)
    (htimely : s.Timely created)
    (hkeys : ∀ entry ∈ s.keys.entries, ∀ k, r.keyFor? entry.1 entry.2.alg.tag = some k →
      k.Matches entry.2)
    (hsign : s.sign created entropy (request.view body) = .ok signed)
    (houtcome : Signer.outcome s r created now = .ok entry.1) :
    (request.withSigned body signed).AcceptedBy r now body entry.1 := by
  -- the sent request has the view of the applied headers, so the core result carries over
  have hagree := Request.agreeOff_view_withSigned hsign
  refine ⟨Body.read_ofOctets body, ?_⟩
  rw [← houtcome]
  refine Signer.verify_eq_outcome hsign htimely hkeys ?_ ?_ (fun id hid => ?_) ?_
  · rw [hagree.headerValues _ List.not_mem_nil, SignedHeaders.headerValues_signatureInput]
  · rw [hagree.headerValues _ List.not_mem_nil, SignedHeaders.headerValues_signature]
  · rw [hagree.componentValue List.not_mem_nil fun _ hn => absurd hn List.not_mem_nil]
    exact Signer.componentValue_of_mem_coveredOn hbuild hnames hsign hid
  · rw [Verifier.digestMatches_congr hagree List.not_mem_nil]
    exact Signer.digestMatches_signed hsign

/-- **A signing layer over a verifying layer.** Either the request cannot be signed, and the service
is not called; or it is called once, with the signed request and the id of the first key that the
verifier knows, and what it answers is the answer. -/
theorem call_signing_verifying (hbuild : c.build = .ok s)
    (hnames : ∀ name ∈ c.covered, FieldName.ofString (Text.trim name) ≠ .signature
      ∧ FieldName.ofString (Text.trim name) ≠ .signatureInput)
    (htimely : s.Timely created)
    (hkeys : ∀ entry ∈ s.keys.entries, ∀ k, r.keyFor? entry.1 entry.2.alg.tag = some k →
      k.Matches entry.2)
    (hknown : ∃ entry ∈ s.keys.entries, r.knows entry = true)
    (hbegun : created ≤ now) (hlasts : ∀ seconds ∈ s.lifetime, now ≤ created.after seconds)
    (hread : request.body.read = .ok body) (entropy : Nat → Entropy) (inner : Service m ε) :
    (∃ fault, s.sign created entropy (request.view body) = .error fault
        ∧ ∀ log, (((inner.recorded.verifying r now).signing s created entropy).call request).run log
          = pure (.error (.signing (.signature fault)), log))
      ∨ ∃ signed entry, s.sign created entropy (request.view body) = .ok signed
        ∧ s.keys.entries.find? r.knows = some entry
        ∧ ∀ log, (((inner.recorded.verifying r now).signing s created entropy).call request).run log
          = (fun answer => (answer.mapError .inner,
              log ++ [(request.withSigned body signed).verified body entry.1]))
            <$> inner.call ((request.withSigned body signed).verified body entry.1) := by
  -- signing fails before anything is sent, or the signed request is verified
  cases hsign : s.sign created entropy (request.view body) with
  | error fault =>
    have hfault := (Request.sign_eq_error hread).2 ⟨fault, hsign, rfl⟩
    refine .inl ⟨fault, rfl, fun log => ?_⟩
    rw [call_signing_of_error _ hfault]
    rfl
  | ok signed =>
    obtain ⟨entry, hfind⟩ : ∃ entry, s.keys.entries.find? r.knows = some entry := by
      obtain ⟨entry, hentry, hknows⟩ := hknown
      exact Option.isSome_iff_exists.1 (List.find?_isSome.2 ⟨entry, hentry, hknows⟩)
    have hsigned := (Request.sign_eq_ok hread).2 ⟨signed, hsign, rfl⟩
    have haccepted := acceptedBy_withSigned hbuild hnames htimely hkeys hsign
      (outcome_of_current hfind hbegun hlasts)
    refine .inr ⟨signed, entry, rfl, hfind, fun log => ?_⟩
    -- the signing layer only marks the errors in the answer of the verifying layer
    rw [call_signing_of_ok _ hsigned, StateT.run_map,
      run_call_verifying_of_accepted r now inner haccepted, Functor.map_map]

/-! ### Two keys, one of them known -/

open Signer.TwoKeys

theorem exists_known {s : Signer} (hs : config.build = .ok s) :
    ∃ entry ∈ s.keys.entries, verifier.knows entry = true := by
  rw [(SignerConfig.build_eq_ok hs).1]
  exact ⟨("b", SignatureBase.Reordered.echo), List.mem_cons_of_mem _ List.mem_cons_self, rfl⟩

/-- Behind both layers, the second of two keys is greeted; the id that was noted before is gone. -/
theorem call_signing_verifying_stale :
    ∃ s request, config.build = .ok s
      ∧ (((greeter.recorded.verifying verifier 120).signing s 100 (fun _ _ => 0)).call
          Request.Stale.request).run [] = (.ok ⟨200, [], Text.utf8 "b"⟩, [request])
      ∧ request.verifiedKeyId = some "b" ∧ request.method = "POST" := by
  obtain ⟨s, hs⟩ := exists_build
  obtain ⟨hkeys, hlifetime, -⟩ := SignerConfig.build_eq_ok hs
  have hlasts : ∀ seconds ∈ s.lifetime, (120 : Timestamp) ≤ Timestamp.after 100 seconds := by
    rw [hlifetime]
    intro seconds hseconds
    obtain rfl := Option.some.inj hseconds
    decide
  rcases call_signing_verifying hs (fun _ h => absurd h List.not_mem_nil) (timely hs)
    (matches_known hs) (exists_known hs) (by decide) hlasts Request.Stale.read_request
    (fun _ _ => 0) greeter with ⟨fault, hfault, -⟩ | ⟨signed, entry, hsigned, hfind, hrun⟩
  · obtain ⟨signed, hsigned⟩ := Request.Stale.exists_signed_request hs 100 fun _ _ => 0
    cases hfault.symm.trans hsigned
  · rw [hkeys] at hfind
    obtain rfl : ("b", SignatureBase.Reordered.echo) = entry := Option.some.inj hfind
    exact ⟨s, _, hs, hrun [], rfl, rfl⟩

end Signing

end Service

end Http

end MessageSignatures
