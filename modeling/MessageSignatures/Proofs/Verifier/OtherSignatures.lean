import MessageSignatures.Proofs.Component.Sources
import MessageSignatures.Proofs.Verifier.BodyDigest

/-!
# Other signatures than the one that is checked

A request may carry many signatures, and a verifier checks one of them. What of the others can
change its answer?

* **Apart from two headers.** A component has the same value on requests that agree off other fields
  than the one it is taken from (`RequestView.AgreeOff.componentValue`), so a check comes out the
  same on requests that agree off the headers with signatures and have the same member under its
  label (`verify_congr`).
* **One selection** (`verify_eq_of_selected`). If the same signature is selected, the answer is the
  same, whatever stands before it with unknown keys, behind it with known ones, and under other
  labels of the other header.
* **Members that are appended** behind a known signature do not change what is selected. But all
  members are read before one is selected, and a member that cannot be read spoils the header: the
  answer stays exactly if every appended member declares parameters, and else the first that does
  not is the fault (`verify_of_appended`).
-/

namespace MessageSignatures

open StructuredField (BareItem Member Dictionary)

namespace RequestView

variable {v : RequestView}

/-- A header without lines has the empty text. -/
theorem fieldText_of_nil {n : FieldName} (h : v.headerValues n = []) : v.fieldText n = "" := by
  rw [fieldText, h]
  rfl

end RequestView

/-- Requests that give every covered component the same value, or the same fault, have the same
base. -/
theorem SignatureBase.build_congr {v w : RequestView} {p : SignatureParams}
    (h : ∀ id ∈ p.covered, w.componentValue id = v.componentValue id) : build w p = build v p := by
  -- the components are resolved one by one
  have hresolve {ids : List ComponentId}
      (h : ∀ id ∈ ids, w.componentValue id = v.componentValue id) :
      ids.mapM w.resolve = ids.mapM v.resolve := by
    induction ids with
    | nil => rfl
    | cons id ids ih =>
      obtain ⟨hid, hids⟩ := List.forall_mem_cons.1 h
      rw [List.mapM_cons, List.mapM_cons, ih hids, RequestView.resolve, RequestView.resolve, hid]
  rw [build, build, hresolve h]

namespace Verifier

variable {r : Verifier} {now : Timestamp} {v w : RequestView} {s : Selection} {d d' : Dictionary}

/-! ### The signature that is checked -/

/-- The signature under a label is what its member holds, if there is one. A header without lines is
read as the empty dictionary, and there is no signature either way. -/
theorem signatureOf_of_parseDictionary
    (hd : StructuredField.parseDictionary (v.fieldText .signature) = some d) (label : String) :
    signatureOf v label
      = (d.get? label).elim (.error .missingSignature) (signatureOctets label) := by
  by_cases hlines : v.headerValues .signature = []
  · -- without lines the dictionary is empty
    rw [RequestView.fieldText_of_nil hlines] at hd
    obtain rfl : OrderedMap.empty = d := Option.some.inj hd
    rw [signatureOf, hlines]
    rfl
  · rw [signatureOf_of_present hlines, parseSignature, hd]
    dsimp only
    cases d.get? label <;> rfl

/-- **A check** looks at the covered components and at the member under one label. -/
theorem check_congr (hbase : SignatureBase.build w s.params = SignatureBase.build v s.params)
    (hsignature : signatureOf w s.label = signatureOf v s.label) :
    check now w s = check now v s := by
  unfold check
  rw [hbase, hsignature]

/-- Verifying a signature is checking what is selected. -/
theorem verifySignature_of_selects (h : r.Selects v s) :
    r.verifySignature now v = (check now v s).map fun _ => s.params.keyId := by
  obtain ⟨inputs, hdeclared, hselect⟩ := selects_iff.1 h
  unfold verifySignature
  rw [hdeclared, Fallible.ok_bind, hselect]
  change (check now v s >>= fun _ => pure s.params.keyId) = _
  cases check now v s <;> rfl

theorem digestMatches_congr {ns : List FieldName} (h : v.AgreeOff ns w)
    (hdigest : .contentDigest ∉ ns) : digestMatches w = digestMatches v := by
  unfold digestMatches
  rw [h.headerValues _ hdigest, h.body]

/-- **One selection, one answer.** Two requests on which the same signature is selected get the same
answer, if they agree off fields that it does not cover, and in its octets. -/
theorem verify_congr {ns : List FieldName} (h : v.AgreeOff ns w) (hhost : .host ∉ ns)
    (hdigest : .contentDigest ∉ ns) (hv : r.Selects v s) (hw : r.Selects w s)
    (hcovered : ∀ id ∈ s.params.covered, ∀ n ∈ ns, id.fieldName? ≠ some n)
    (hsignature : signatureOf w s.label = signatureOf v s.label) :
    r.verifySignature now w = r.verifySignature now v ∧ r.verify now w = r.verify now v := by
  have hbase : SignatureBase.build w s.params = SignatureBase.build v s.params :=
    SignatureBase.build_congr fun id hid => h.componentValue hhost (hcovered id hid)
  -- the check looks at the base and at the octets, which are the same
  have hverified : r.verifySignature now w = r.verifySignature now v := by
    rw [verifySignature_of_selects hv, verifySignature_of_selects hw, check_congr hbase hsignature]
  refine ⟨hverified, ?_⟩
  rw [verify, verify, hverified, digestMatches_congr h hdigest]

/-- A signature that is read behind others with unknown keys is selected. -/
theorem Selects.of_entries {inputs : OrderedMap SignatureParams}
    {before after : List (String × SignatureParams)} (hknown : r.HasKey s.params s.key)
    (hread : parseSignatureInput (v.fieldText .signatureInput) = .ok inputs)
    (hentries : inputs.entries = before ++ (s.label, s.params) :: after)
    (hbefore : ∀ e ∈ before, ∀ key, ¬ r.HasKey e.2 key) : r.Selects v s := by
  have hpresent : v.headerValues .signatureInput ≠ [] := by
    intro hnil
    -- without lines nothing would be read, not even the signature
    have hempty : parseSignatureInput "" = .ok OrderedMap.empty := rfl
    rw [RequestView.fieldText_of_nil hnil, hempty] at hread
    obtain rfl := Except.ok.inj hread
    exact absurd hentries.symm (List.append_ne_nil_of_right_ne_nil _ (List.cons_ne_nil _ _))
  -- the label stands where it stood, behind signatures of unknown keys
  exact ⟨⟨inputs, before, after, ⟨hpresent, hread⟩, hentries, hbefore⟩, hknown⟩

/-- **Only the selected signature matters.** Take a request on which a signature is selected that
covers neither of the headers with signatures, and replace these two headers by any others, such
that the signature is still read and those before it still have unknown keys, and such that the
dictionaries of octets have the same member under its label, if any. The answer stays as it was, be
it acceptance or an error. -/
theorem verify_eq_of_selected (hagree : v.AgreeOff [.signatureInput, .signature] w)
    (hselected : r.Selects v s)
    (hcovered : ∀ id ∈ s.params.covered,
      id.fieldName? ≠ some .signatureInput ∧ id.fieldName? ≠ some .signature)
    {inputs : OrderedMap SignatureParams} {before after : List (String × SignatureParams)}
    (hread : parseSignatureInput (w.fieldText .signatureInput) = .ok inputs)
    (hentries : inputs.entries = before ++ (s.label, s.params) :: after)
    (hbefore : ∀ e ∈ before, ∀ key, ¬ r.HasKey e.2 key)
    (hd : StructuredField.parseDictionary (v.fieldText .signature) = some d)
    (hd' : StructuredField.parseDictionary (w.fieldText .signature) = some d')
    (hmember : d'.get? s.label = d.get? s.label) :
    r.verifySignature now w = r.verifySignature now v ∧ r.verify now w = r.verify now v := by
  have hstill : r.Selects w s := .of_entries hselected.known hread hentries hbefore
  have hsignature : signatureOf w s.label = signatureOf v s.label := by
    rw [signatureOf_of_parseDictionary hd, signatureOf_of_parseDictionary hd', hmember]
  refine verify_congr hagree ?_ ?_ hselected hstill ?_ hsignature
  · simp [SignedHeaders.signatureInput_ne_host.symm, SignedHeaders.signature_ne_host.symm]
  · simp [SignedHeaders.contentDigest_ne_signatureInput, SignedHeaders.contentDigest_ne_signature]
  · -- no covered field is replaced
    intro id hid n hn
    obtain ⟨hinput, hsig⟩ := hcovered id hid
    rcases List.mem_pair.1 hn with rfl | rfl
    · exact hinput
    · exact hsig

/-! ### Members that are appended -/

section Appended

variable {more : List (String × Member)}

/-- **Appended members** are read after those before them, all or none. -/
theorem parseSignatureInput_append {t t' : String} {inputs : OrderedMap SignatureParams}
    (hd : StructuredField.parseDictionary t = some d)
    (hd' : StructuredField.parseDictionary t' = some d') (hmore : d'.entries = d.entries ++ more)
    (hread : parseSignatureInput t = .ok inputs) :
    (∀ qs, more.mapM (fun e => SignatureParams.ofMember e.2) = .ok qs →
        ∃ inputs' after, parseSignatureInput t' = .ok inputs'
          ∧ inputs'.entries = inputs.entries ++ after)
      ∧ ∀ fault, more.mapM (fun e => SignatureParams.ofMember e.2) = .error fault →
        parseSignatureInput t' = .error (.malformedHeader fault) := by
  unfold parseSignatureInput at hread ⊢
  rw [hd] at hread
  rw [hd']
  obtain ⟨happend, hfault⟩ := OrderedMap.traverse_append (Fallible.mapError_eq_ok.1 hread) hmore
  -- a traversal reads the same members and keeps their labels
  have htraverse : OrderedMap.traverseEntries (fun _ m => SignatureParams.ofMember m) more
      = (more.mapM fun e => SignatureParams.ofMember e.2).map
        (List.zipWith (fun e q => (e.1, q)) more) := by
    rw [OrderedMap.traverseEntries_eq_mapM]
    exact Fallible.mapM_map more
  constructor
  · -- what is read more is added behind
    intro qs hqs
    rw [hqs] at htraverse
    obtain ⟨inputs', hinputs', hentries⟩ := happend _ htraverse
    exact ⟨inputs', _, Fallible.mapError_eq_ok.2 hinputs', hentries⟩
  · -- what cannot be read is the fault of the whole
    intro fault herr
    rw [herr] at htraverse
    exact Fallible.mapError_eq_error.2 ⟨fault, hfault fault htraverse, rfl⟩

variable (hagree : v.AgreeOff [.signatureInput] w) (hselected : r.Selects v s)
  (hd : StructuredField.parseDictionary (v.fieldText .signatureInput) = some d)
  (hd' : StructuredField.parseDictionary (w.fieldText .signatureInput) = some d')
  (hmore : d'.entries = d.entries ++ more)

include hagree hselected hd hd' hmore

/-- Behind a known signature that does not cover the header it stands in, members that can be read
change nothing. -/
theorem verify_eq_of_appended
    (hcovered : ∀ id ∈ s.params.covered, id.fieldName? ≠ some .signatureInput)
    {qs : List SignatureParams} (hqs : more.mapM (fun e => SignatureParams.ofMember e.2) = .ok qs) :
    r.verifySignature now w = r.verifySignature now v ∧ r.verify now w = r.verify now v := by
  obtain ⟨inputs, before, after, hread, hentries, hbefore⟩ := hselected.first
  obtain ⟨inputs', behind, hread', hentries'⟩ :=
    (parseSignatureInput_append hd hd' hmore hread.parsed).1 qs hqs
  have hstill : r.Selects w s := by
    -- what is added stands behind the selected signature, so nothing new comes before it
    have hbehind : inputs'.entries = before ++ (s.label, s.params) :: (after ++ behind) := by
      rw [hentries', hentries, List.append_assoc, List.cons_append]
    exact .of_entries hselected.known hread' hbehind hbefore
  have hsignature : signatureOf w s.label = signatureOf v s.label := by
    unfold signatureOf
    rw [hagree.headerValues _ (by simp [SignedHeaders.signatureInput_ne_signature.symm])]
  -- only the header of parameters has changed
  refine verify_congr hagree ?_ ?_ hselected hstill ?_ hsignature
  · simp [SignedHeaders.signatureInput_ne_host.symm]
  · simp [SignedHeaders.contentDigest_ne_signatureInput]
  · intro id hid n hn
    obtain rfl := List.mem_singleton.1 hn
    exact hcovered id hid

omit hagree in
/-- A member that cannot be read spoils the header, wherever it stands in it. -/
theorem verify_eq_error_of_appended {fault : HeaderFault}
    (hfault : more.mapM (fun e => SignatureParams.ofMember e.2) = .error fault) :
    r.verify now w = .error (.malformedHeader fault) := by
  obtain ⟨inputs, before, after, hread, hentries, -⟩ := hselected.first
  have hread' := (parseSignatureInput_append hd hd' hmore hread.parsed).2 fault hfault
  have hpresent : w.headerValues .signatureInput ≠ [] := by
    intro hnil
    -- without lines there would be no member, and none that cannot be read
    rw [RequestView.fieldText_of_nil hnil] at hd'
    obtain rfl : OrderedMap.empty = d' := Option.some.inj hd'
    obtain ⟨-, rfl⟩ := List.append_eq_nil_iff.1 hmore.symm
    cases hfault
  -- a fault in reading what is declared is the first of all
  exact verify_eq_error.2
    (.inl
      (verifySignature_eq_error.2 (.inl (declared_eq_error.2 (.inr (.inl ⟨hpresent, hread'⟩))))))

end Appended

/-- **Signatures behind the one that is checked.** Append members to the `signature-input` header of
a request on which a known signature is selected that does not cover this header. If every one of
them declares parameters, the answer stays as it was; otherwise the request is refused for the first
that does not. -/
theorem verify_of_appended (hagree : v.AgreeOff [.signatureInput] w) (hselected : r.Selects v s)
    (hcovered : ∀ id ∈ s.params.covered, id.fieldName? ≠ some .signatureInput)
    (hd : StructuredField.parseDictionary (v.fieldText .signatureInput) = some d)
    (hd' : StructuredField.parseDictionary (w.fieldText .signatureInput) = some d')
    {more : List (String × Member)} (hmore : d'.entries = d.entries ++ more) :
    (∀ qs, more.mapM (fun e => SignatureParams.ofMember e.2) = .ok qs →
        r.verify now w = r.verify now v)
      ∧ ∀ fault, more.mapM (fun e => SignatureParams.ofMember e.2) = .error fault →
        r.verify now w = .error (.malformedHeader fault) := by
  constructor
  · intro qs hqs
    exact (verify_eq_of_appended hagree hselected hd hd' hmore hcovered hqs).2
  · intro fault hfault
    exact verify_eq_error_of_appended hselected hd hd' hmore hfault

/-! ### Requests with other signatures -/

namespace PathOnly

open SignatureBase.Reordered (echoed fresh freshBase obtained_fresh timely_fresh)

theorem headerValues_withDigest :
    withDigest.headerValues .signatureInput = [signature.inputText]
      ∧ withDigest.headerValues .signature = [signature.signatureText] := by
  obtain ⟨hinput, hsignature, -⟩ := headerValues_signed
  rw [withDigest, RequestView.headerValues_appendHeader, RequestView.headerValues_appendHeader,
    if_neg SignedHeaders.contentDigest_ne_signatureInput,
    if_neg SignedHeaders.contentDigest_ne_signature]
  exact ⟨hinput, hsignature⟩

/-- The signature as it is selected. -/
def selection : Selection :=
  ⟨"sig", fresh.asReceived, echoed⟩

theorem selects_withDigest : verifier.Selects withDigest selection :=
  selects_of_written writable_signature keyFor?_k headerValues_withDigest.1

theorem covered_selection :
    ∀ id ∈ selection.params.covered,
      id.fieldName? ≠ some .signatureInput ∧ id.fieldName? ≠ some .signature := by
  intro id hid
  obtain rfl := List.mem_singleton.1 hid
  exact ⟨nofun, nofun⟩

/-- A signature with a key that is not known. -/
def stranger : LabelledSignature :=
  ⟨"old", { fresh with keyId := "x" }, []⟩

/-- Another signature with the key that is known. -/
def later : LabelledSignature :=
  ⟨"sig2", fresh, []⟩

/-- The member that holds its octets, which are none. -/
def corrupt : String × Member :=
  ("old", .item ⟨.token "corrupt", OrderedMap.empty⟩)

/-- The signature between two others, on two lines, and with a corrupt one before its octets. -/
def crowded : RequestView :=
  ((withDigest.setHeader .signatureInput stranger.inputText).appendHeader .signatureInput
      (signature.inputText ++ ", " ++ later.inputText)).setHeader .signature
    (StructuredField.dictionaryText [corrupt, signature.signatureEntry])

theorem agreeOff_crowded : withDigest.AgreeOff [.signatureInput, .signature] crowded := by
  have hinput : FieldName.signatureInput ∈ [FieldName.signatureInput, .signature] := by simp
  have hsignature : FieldName.signature ∈ [FieldName.signatureInput, .signature] := by simp
  exact (((RequestView.AgreeOff.refl _ _).setHeader hinput _).appendHeader hinput _).setHeader
    hsignature _

theorem writable_crowded : LabelledSignature.Writable [stranger, signature, later] := by
  have hfresh : fresh.Writable := obtained_fresh.writable
  have hstranger : stranger.params.Writable :=
    ⟨hfresh.nodup, hfresh.nonce, hfresh.alg, by decide⟩
  have htimely : stranger.params.Timely := ⟨timely_fresh.created, timely_fresh.expires⟩
  -- labels, writable parameters and times, for one signature after the other
  refine ⟨by decide, by decide, ?_, ?_⟩ <;> intro e he <;>
    simp only [List.mem_cons, List.not_mem_nil, or_false] at he <;> rcases he with rfl | rfl | rfl
  · exact hstranger
  · exact hfresh
  · exact hfresh
  · exact htimely
  · exact timely_fresh
  · exact timely_fresh

theorem fieldText_crowded :
    crowded.fieldText .signatureInput
        = ", ".intercalate ([stranger, signature, later].map LabelledSignature.inputText)
      ∧ crowded.fieldText .signature
        = StructuredField.dictionaryText [corrupt, signature.signatureEntry] := by
  -- the lines of each header as they were set
  have hinput : crowded.headerValues .signatureInput
      = [stranger.inputText, signature.inputText ++ ", " ++ later.inputText] := by
    rw [crowded, RequestView.headerValues_setHeader,
      if_neg SignedHeaders.signatureInput_ne_signature.symm, RequestView.headerValues_appendHeader,
      if_pos rfl, RequestView.headerValues_setHeader, if_pos rfl]
    rfl
  have hsignature : crowded.headerValues .signature
      = [StructuredField.dictionaryText [corrupt, signature.signatureEntry]] := by
    rw [crowded, RequestView.headerValues_setHeader, if_pos rfl]
  rw [RequestView.fieldText, RequestView.fieldText, hinput, hsignature]
  -- where the lines end makes no difference to the text that they make together
  simp only [List.map_cons, List.map_nil, String.intercalate_cons_cons,
    String.intercalate_singleton, String.append_assoc, and_self]

theorem parseDictionary_crowded :
    ∃ d, StructuredField.parseDictionary (crowded.fieldText .signature) = some d
      ∧ d.entries = [corrupt, signature.signatureEntry] := by
  have hcorrupt : corrupt.2.Canonical := by
    have htoken : StructuredField.isToken "corrupt" = true := by decide
    exact StructuredField.Item.all_empty ⟨htoken, nofun⟩
  have hcanonical : ∀ e ∈ [corrupt, signature.signatureEntry],
      StructuredField.isKey e.1 = true ∧ e.2.Canonical :=
    List.forall_mem_cons.2 ⟨⟨(by decide : StructuredField.isKey "old" = true), hcorrupt⟩,
      LabelledSignature.canonical_signatureEntry writable_signature.printable⟩
  rw [fieldText_crowded.2]
  exact ⟨_, StructuredField.parseDictionary_dictionaryText hcanonical (by decide), rfl⟩

end PathOnly

open PathOnly in
/-- Between others, the signature is still the one that is checked. -/
theorem verify_eq_of_selected_crowded :
    verifier.verifySignature 1 crowded = verifier.verifySignature 1 withDigest
      ∧ verifier.verify 1 crowded = .ok "k" := by
  obtain ⟨inputs, hread, hentries⟩ :=
    LabelledSignature.parseSignatureInput_inputText writable_crowded
  obtain ⟨d, hd, hdentries⟩ :=
    LabelledSignature.parseDictionary_signatureText writable_signature.printable
  obtain ⟨d', hd', hdentries'⟩ := parseDictionary_crowded
  -- the only signature in front has an unknown key
  have hunknown : ∀ e ∈ [("old", stranger.params.asReceived)],
      ∀ key, ¬ verifier.HasKey e.2 key := by
    intro e he
    obtain rfl := List.mem_singleton.1 he
    exact keyFor?_eq_none.1 rfl
  have hfield : withDigest.fieldText .signature
      = ", ".intercalate ([signature].map LabelledSignature.signatureText) := by
    rw [RequestView.fieldText, headerValues_withDigest.2]
    rfl
  -- the octets are found under the label in both dictionaries
  have hmember : d'.get? "sig" = d.get? "sig" := by
    have hfound : d.get? "sig" = some signature.signatureEntry.2 :=
      OrderedMap.get?_of_mem (by rw [hdentries]; exact List.mem_cons_self)
    rw [hfound]
    exact OrderedMap.get?_of_mem
      (by rw [hdentries']; exact List.mem_cons_of_mem _ List.mem_cons_self)
  rw [← fieldText_crowded.1] at hread
  rw [← hfield] at hd
  obtain ⟨hverified, hverify⟩ : verifier.verifySignature 1 crowded
        = verifier.verifySignature 1 withDigest
      ∧ verifier.verify 1 crowded = verifier.verify 1 withDigest :=
    verify_eq_of_selected agreeOff_crowded selects_withDigest covered_selection hread hentries
      hunknown hd hd' hmember
  exact ⟨hverified, hverify.trans verify_withDigest⟩

namespace PathOnly

/-- A signature by the stranger that covers a derived component which is not known here. -/
def foreign : Member :=
  .innerList [⟨.string "@target-uri", OrderedMap.empty⟩]
    ⟨stranger.params.declarations, stranger.params.nodup_declarations⟩

/-- The request with this signature behind its own. -/
def withForeign : RequestView :=
  withDigest.appendHeader .signatureInput ("other=" ++ foreign.text)

theorem agreeOff_withForeign : withDigest.AgreeOff [.signatureInput] withForeign :=
  (RequestView.AgreeOff.refl _ _).appendHeader (List.mem_singleton_self _) _

theorem canonical_foreign : foreign.Canonical := by
  have hname : Text.isPrintable "@target-uri" = true := by decide
  have hmem : stranger ∈ [stranger, signature, later] := List.mem_cons_self
  have hparameters := (SignatureParams.canonical_member (writable_crowded.writable _ hmem)
    (writable_crowded.timely _ hmem)).2
  refine ⟨List.forall_mem_singleton.2 ?_, hparameters⟩
  exact StructuredField.Item.all_empty ⟨hname, nofun⟩

theorem mapM_foreign :
    [("other", foreign)].mapM (fun e => SignatureParams.ofMember e.2)
      = .error (.component (.unknownDerived "@target-uri")) := rfl

/-- The dictionaries before and after. -/
theorem parseDictionary_withForeign :
    ∃ d d', StructuredField.parseDictionary (withDigest.fieldText .signatureInput) = some d
      ∧ StructuredField.parseDictionary (withForeign.fieldText .signatureInput) = some d'
      ∧ d'.entries = d.entries ++ [("other", foreign)] := by
  have hcanonical := LabelledSignature.canonical_inputEntry writable_signature
  have hboth : ∀ e ∈ [signature.inputEntry, ("other", foreign)],
      StructuredField.isKey e.1 = true ∧ e.2.Canonical :=
    List.forall_mem_cons.2 ⟨hcanonical _ List.mem_cons_self, List.forall_mem_singleton.2
      ⟨(by decide : StructuredField.isKey "other" = true), canonical_foreign⟩⟩
  have htext : withDigest.fieldText .signatureInput
      = StructuredField.dictionaryText [signature.inputEntry] := by
    rw [RequestView.fieldText, headerValues_withDigest.1]
    exact (LabelledSignature.dictionaryText_inputEntry [signature]).symm
  have htext' : withForeign.fieldText .signatureInput
      = StructuredField.dictionaryText [signature.inputEntry, ("other", foreign)] := by
    rw [RequestView.fieldText, withForeign, RequestView.headerValues_appendHeader, if_pos rfl,
      headerValues_withDigest.1]
    simp [StructuredField.dictionaryText, LabelledSignature.inputEntry, LabelledSignature.inputText,
      SignatureParams.text_member, String.intercalate_cons_cons]
  rw [htext, htext']
  exact ⟨_, _, StructuredField.parseDictionary_dictionaryText hcanonical (by decide),
    StructuredField.parseDictionary_dictionaryText hboth (by decide), rfl⟩

end PathOnly

open PathOnly in
/-- A signature that does not declare parameters is looked at, and the request is refused for it. -/
theorem verify_of_appended_foreign :
    verifier.verify 1 withDigest = .ok "k"
      ∧ verifier.verify 1 withForeign
        = .error (.malformedHeader (.component (.unknownDerived "@target-uri"))) := by
  obtain ⟨d, d', hd, hd', hmore⟩ := parseDictionary_withForeign
  refine ⟨verify_withDigest, (verify_of_appended agreeOff_withForeign selects_withDigest ?_ hd hd'
    hmore).2 _ mapM_foreign⟩
  exact fun id hid => (covered_selection id hid).1

open PathOnly in
/-- **Later signatures are looked at.** Appending one behind the signature that is checked may
change the answer. -/
theorem not_verify_of_appended :
    ¬ ∀ (r : Verifier) (now : Timestamp) (v w : RequestView) (s : Selection) (d d' : Dictionary)
      (label : String) (m : Member), v.AgreeOff [.signatureInput] w → r.Selects v s →
      (∀ id ∈ s.params.covered,
        id.fieldName? ≠ some .signatureInput ∧ id.fieldName? ≠ some .signature) →
      StructuredField.parseDictionary (v.fieldText .signatureInput) = some d →
      StructuredField.parseDictionary (w.fieldText .signatureInput) = some d' →
      d'.entries = d.entries ++ [(label, m)] → r.verify now w = r.verify now v := by
  intro h
  obtain ⟨d, d', hd, hd', hmore⟩ := parseDictionary_withForeign
  have hsame := h verifier 1 withDigest withForeign selection d d' "other" foreign
    agreeOff_withForeign selects_withDigest covered_selection hd hd' hmore
  have hrefused : verifier.verify 1 withForeign
      = .error (.malformedHeader (.component (.unknownDerived "@target-uri"))) :=
    verify_eq_error_of_appended selects_withDigest hd hd' hmore mapM_foreign
  rw [hrefused, verify_withDigest] at hsame
  cases hsame

end Verifier

end MessageSignatures
