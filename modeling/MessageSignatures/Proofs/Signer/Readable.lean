import MessageSignatures.Proofs.Exchange

/-!
# Reading what a signer made

A signer puts two headers on a request. Can they be read again?

* **The `signature` header** can: under the label of each signature stand the octets that its key
  made.
* **The `signature-input` header** can if the points in time are integers of a structured field,
  which go up to fifteen digits (`Signer.Timely`). A clock goes further. All signatures declare the
  same points in time, so past that the whole header is lost
  (`Signer.parseSignatureInput_eq_error`), and signing has succeeded all the same.

`Signer.parse_of_sign` puts the two together with what the keys declare and make.
-/

namespace MessageSignatures

namespace Signer

variable {s : Signer} {now : Timestamp} {entropy : Nat → Entropy} {v : RequestView}
  {signed : SignedHeaders}

/-- **A header that is lost.** No reader gets anything from the parameters if the points in time
cannot be written. -/
theorem parseSignatureInput_eq_error (h : s.sign now entropy v = .ok signed)
    (hnot : ¬ s.Timely now) :
    parseSignatureInput signed.inputText
      = .error (.malformedHeader .undecodableSignatureInput) := by
  -- all signatures declare the same points in time, so any of them spoils the header
  obtain ⟨e, he⟩ : ∃ e, e ∈ signed.signatures := List.exists_mem_of_ne_nil _ (signatures_ne_nil h)
  obtain ⟨entry, -, hentry⟩ := Fallible.exists_left_of_mem (madeBy_of_sign h).2 he
  have hlarge : ¬ e.params.Timely := fun htimely => hnot (hentry.declares.timely_iff.1 htimely)
  exact LabelledSignature.parseSignatureInput_of_not_timely (printable_of_sign h) he hlarge

/-- **What a signer made is read** as each key declared and made it, under one label for each key
and in the order of the keys: the signatures always, and the parameters exactly if the points in
time can be written. -/
theorem parse_of_sign (h : s.sign now entropy v = .ok signed) :
    List.Forall₂ (SignedBy (working v) s.lifetime (s.coveredOn (working v)) now entropy)
        s.keys.entries.zipIdx signed.signatures
      ∧ (∃ m, parseSignatures signed.signatureText = .ok m
        ∧ m.entries = signed.signatures.map fun e => (e.label, e.signature))
      ∧ (s.Timely now → ∃ m, parseSignatureInput signed.inputText = .ok m
        ∧ m.entries = signed.signatures.map fun e => (e.label, e.params.asReceived))
      ∧ (¬ s.Timely now → parseSignatureInput signed.inputText
        = .error (.malformedHeader .undecodableSignatureInput)) := by
  refine ⟨signedBy_of_sign h, ?_, ?_, parseSignatureInput_eq_error h⟩
  · exact LabelledSignature.parseSignatures_signatureText (printable_of_sign h)
  · intro htimely
    exact LabelledSignature.parseSignatureInput_inputText (writable_of_sign h htimely)

open TwoKeys SignatureBase.Reordered in
/-- Both signatures of a signer with two keys are read, with the octets that the keys made. -/
theorem parse_of_sign_two_keys :
    ∃ s signed, config.build = .ok s ∧ s.sign 100 (fun _ _ => 0) view = .ok signed
      ∧ (∃ m, parseSignatures signed.signatureText = .ok m
        ∧ m.entries = signed.signatures.map fun e => (e.label, e.signature))
      ∧ ∃ m, parseSignatureInput signed.inputText = .ok m
        ∧ m.entries = signed.signatures.map fun e => (e.label, e.params.asReceived) := by
  obtain ⟨s, hs⟩ := TwoKeys.exists_build
  obtain ⟨signed, hsigned⟩ := exists_signed hs 100 fun _ _ => 0
  obtain ⟨-, hsignatures, hinputs, -⟩ := parse_of_sign hsigned
  exact ⟨s, signed, hs, hsigned, hsignatures, hinputs (timely hs)⟩

open TwoKeys SignatureBase.Reordered in
/-- **A signer may make what no reader reads.** With sixteen digits in the clock, signing
succeeds. -/
theorem not_parseSignatureInput_of_sign :
    ¬ ∀ (c : SignerConfig) (s : Signer) (now : Timestamp) (entropy : Nat → Entropy)
      (v : RequestView) (signed : SignedHeaders), c.build = .ok s →
        s.sign now entropy v = .ok signed →
        ∃ m, parseSignatureInput signed.inputText = .ok m := by
  intro h
  obtain ⟨s, hs⟩ := TwoKeys.exists_build
  obtain ⟨signed, hsigned⟩ := exists_signed hs 1000000000000000 fun _ _ => 0
  have hnot : ¬ s.Timely 1000000000000000 := fun htimely => absurd htimely.created (by decide)
  obtain ⟨m, hm⟩ := h config s _ _ view signed hs hsigned
  rw [parseSignatureInput_eq_error hsigned hnot] at hm
  cases hm

end Signer

end MessageSignatures
