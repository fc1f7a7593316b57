import MessageSignatures.Proofs.Verifier.BodyDigest

/-!
# The digest that is signed

A signature that covers the digest of the body covers the value of its field, which is made of the
trimmed lines; a verifier compares the body with the lines as they came. Both are the same digest
(`verify_signed_digest`): on a request that is accepted, the value that stands in the signature base
is itself accepted for the body.

White space in the lines may well change what is read from them, since a string may begin on one
line and end on the next (`Spanning`). A digest is no string, and it does not change.
-/

namespace MessageSignatures

open StructuredField (BareItem Item Member)

namespace Verifier

variable {r : Verifier} {v : RequestView} {now : Timestamp} {keyId : String} {s : Selection}

/-- **The digest that is signed is the digest that is checked.** If a request is accepted for a
signature that covers the digest, then the base over which the key accepted the signature has a line
with the digest, and on every such line stands a value that is accepted for the body. -/
theorem verify_signed_digest (h : r.verify now v = .ok keyId) (hs : r.Selects v s)
    (hcovered : .contentDigest ∈ s.params.covered) :
    ∃ b signature, SignatureBase.build v s.params = .ok b ∧ Carries v s.label signature
      ∧ s.key.accepts b.octets signature = true
      ∧ (∃ c ∈ b.components, c.id = .contentDigest)
      ∧ ∀ c ∈ b.components, c.id = .contentDigest →
          c.value = ", ".intercalate ((v.headerValues .contentDigest).map Text.trim)
            ∧ ContentDigest.verify v.body c.value = true := by
  obtain ⟨hverified, hmatch⟩ := verify_eq_ok.1 h
  -- the signature that was checked is the one selected
  obtain ⟨s', hs', hvalid, -⟩ := verifySignature_eq_ok_iff_valid.1 hverified
  obtain rfl : s' = s := hs'.unique hs
  obtain ⟨b, signature, hb, hcarries, haccepts⟩ := hvalid.signed
  have hcomponents := (SignatureBase.build_eq_ok.1 hb).2
  refine ⟨b, signature, hb, hcarries, haccepts, ?_, ?_⟩
  · -- a component was resolved for each identifier
    obtain ⟨c, hc, hid, -⟩ := Fallible.exists_right_of_mem hcomponents hcovered
    exact ⟨c, hc, hid⟩
  · intro c hc hdigest
    obtain ⟨id, -, hid, hvalue⟩ := Fallible.exists_left_of_mem hcomponents hc
    have hfield : v.fieldValue .contentDigest = .ok c.value := by
      rw [← hid, hdigest] at hvalue
      exact hvalue
    exact ⟨(RequestView.intercalate_trim_of_fieldValue hfield).2.symm,
      verify_fieldValue_of_digestMatches hmatch hfield⟩

/-! ### A string on two lines -/

namespace Spanning

open SignatureBase.Reordered (echoed fresh obtained_fresh timely_fresh)

/-- A line on which a string begins. -/
def first : String :=
  "a=\"x "

/-- The line on which it ends, with the digest behind it. -/
def second : String :=
  " y\", " ++ ContentDigest.compute []

/-- A signature that covers the digest. -/
def params : SignatureParams :=
  { fresh with covered := [.contentDigest] }

/-- Its base on a request with these lines. -/
def base : SignatureBase :=
  ⟨[⟨.contentDigest, ", ".intercalate ([first, second].map Text.trim)⟩], params⟩

/-- The signature. -/
def signature : LabelledSignature :=
  ⟨"sig", params, base.octets⟩

/-- The request. -/
def view : RequestView where
  method := "GET"
  path := "/"
  headers := [(.signatureInput, signature.inputText), (.signature, signature.signatureText),
    (.contentDigest, first), (.contentDigest, second)]

theorem headerValues_view :
    view.headerValues .signatureInput = [signature.inputText]
      ∧ view.headerValues .signature = [signature.signatureText]
      ∧ view.headerValues .contentDigest = [first, second] := by
  simp [RequestView.headerValues, view, SignedHeaders.contentDigest_ne_signatureInput,
    SignedHeaders.contentDigest_ne_signatureInput.symm, SignedHeaders.contentDigest_ne_signature,
    SignedHeaders.contentDigest_ne_signature.symm, SignedHeaders.signatureInput_ne_signature,
    SignedHeaders.signatureInput_ne_signature.symm]

theorem writable_spanning : LabelledSignature.Writable [signature] := by
  obtain ⟨-, hnonce, halg, hkeyId⟩ := obtained_fresh.writable
  have hlabel : StructuredField.isKey signature.label = true := by decide
  exact LabelledSignature.writable_singleton hlabel
    ⟨List.nodup_singleton _, hnonce, halg, hkeyId⟩ ⟨timely_fresh.created, timely_fresh.expires⟩

/-- The signature as it is selected. -/
def selection : Selection :=
  ⟨"sig", params.asReceived, echoed⟩

theorem selects_view : PathOnly.verifier.Selects view selection :=
  selects_of_written writable_spanning PathOnly.keyFor?_k headerValues_view.1

theorem build_view : SignatureBase.build view params = .ok base := by
  have hvalue : view.componentValue .contentDigest
      = .ok (", ".intercalate ([first, second].map Text.trim)) := by
    change view.fieldValue .contentDigest = _
    unfold RequestView.fieldValue
    rw [headerValues_view.2.2]
    rfl
  exact SignatureBase.build_eq_ok.2 ⟨rfl, .cons ⟨rfl, hvalue⟩ .nil⟩

/-- The lines hold the digest of the body, which is empty, behind another member. -/
theorem verify_lines : ContentDigest.verify [] (", ".intercalate [first, second]) = true := by
  have hcanonical : (Member.item ⟨.string "x ,  y", OrderedMap.empty⟩).Canonical := by
    have hprintable : Text.isPrintable "x ,  y" = true := by decide
    exact StructuredField.Item.all_empty ⟨hprintable, nofun⟩
  have hes : ∀ e ∈ [("a", Member.item ⟨.string "x ,  y", OrderedMap.empty⟩),
      (ContentDigest.key, ContentDigest.digestMember [])],
      StructuredField.isKey e.1 = true ∧ e.2.Canonical :=
    List.forall_mem_cons.2 ⟨⟨(by decide : StructuredField.isKey "a" = true), hcanonical⟩,
      List.forall_mem_singleton.2
        ⟨ContentDigest.isKey_key, ContentDigest.canonical_digestMember []⟩⟩
  -- the two lines meet inside of the string
  have htext : ", ".intercalate [first, second]
      = StructuredField.dictionaryText [("a", Member.item ⟨.string "x ,  y", OrderedMap.empty⟩),
        (ContentDigest.key, ContentDigest.digestMember [])] := by
    have hfirst : first ++ ", " ++ " y\", " = "a" ++ "=" ++ "\"x ,  y\"" ++ ", " := by decide
    have hstring : (Member.item ⟨.string "x ,  y", OrderedMap.empty⟩).text = "\"x ,  y\"" := by
      decide
    rw [StructuredField.dictionaryText, List.map_cons, List.map_singleton,
      String.intercalate_cons_cons, String.intercalate_cons_cons, String.intercalate_singleton,
      String.intercalate_singleton, hstring, ← hfirst, ContentDigest.text_digestMember, second,
      ContentDigest.compute]
    simp only [String.append_assoc]
  rw [htext]
  exact ContentDigest.verify_eq_true_iff.2 ⟨_, OrderedMap.empty,
    StructuredField.parseDictionary_dictionaryText hes (by decide),
    List.mem_cons_of_mem _ List.mem_cons_self⟩

theorem verify_view : PathOnly.verifier.verify 1 view = .ok "k" := by
  obtain ⟨hinput, hsignature, hdigest⟩ := headerValues_view
  have hverified : PathOnly.verifier.verifySignature 1 view = .ok "k" :=
    verifySignature_of_written writable_spanning rfl PathOnly.keyFor?_k rfl rfl hinput hsignature
      build_view (SignatureBase.Reordered.accepts_echoed _)
  refine verify_eq_ok.2 ⟨hverified, ?_⟩
  unfold digestMatches
  rw [hdigest]
  exact verify_lines

end Spanning

open Spanning in
/-- What is signed of the digest is not the text that was checked, and is accepted as well. -/
theorem verify_signed_digest_spanning :
    PathOnly.verifier.verify 1 view = .ok "k"
      ∧ ∃ value, value ≠ ", ".intercalate (view.headerValues .contentDigest)
        ∧ ContentDigest.verify view.body value = true := by
  have hcovered : ComponentId.contentDigest ∈ selection.params.covered := List.mem_singleton_self _
  obtain ⟨b, -, -, -, -, ⟨c, hc, hid⟩, hdigests⟩ :=
    verify_signed_digest verify_view selects_view hcovered
  obtain ⟨hvalue, haccepted⟩ := hdigests c hc hid
  have htrim : Text.trim first = "a=\"x" := by decide
  -- the space behind `x` is gone, whatever the second line holds
  have hspace (t u : String) : Text.trim first ++ ", " ++ t ≠ first ++ ", " ++ u := by
    rw [htrim]
    intro heq
    have hchar := congrArg (fun s => s.toList[4]?) heq
    simp [first] at hchar
  refine ⟨verify_view, c.value, ?_, haccepted⟩
  rw [hvalue, headerValues_view.2.2, List.map_cons, List.map_singleton,
    String.intercalate_cons_cons,
    String.intercalate_cons_cons, String.intercalate_singleton, String.intercalate_singleton]
  exact hspace _ _

end Verifier

end MessageSignatures
