import MessageSignatures.Proofs.Signature.Declaration
import MessageSignatures.Proofs.StructuredField.Normal

/-!
# What is signed of parameters tells what they declare

Parameters are signed as a text, and a text **denotes** parameters if reading it gives the same
declarations and the same text to be signed (`SignatureParams.Denotes`). Parameters can be written
in two ways, and each is read as them:

* the **canonical text**, which is written from the declarations (`Obtained.denotes_text`);
* the **signed text** (`Obtained.denotes_baseText`), which for parameters that were read is that of
  their member. The member need not be canonical, so what is read from its text is its normal form,
  which declares the same (`ofMember_normal`).

Setters keep the received text and the declarations together, since each of them drops the text or
leaves everything as it is (`Obtained.apply`, `Obtained.run`). So two parameters of which the same
is signed declare the same (`sameDeclarations_of_baseText_eq`).
-/

namespace MessageSignatures

open StructuredField (BareItem Item Member Parameters)

namespace SignatureParams

variable {p q : SignatureParams}

/-- **Same declarations.** Parameters that differ in the received text at most. -/
structure SameDeclarations (p q : SignatureParams) : Prop where
  created : q.created = p.created
  expires : q.expires = p.expires
  nonce : q.nonce = p.nonce
  alg : q.alg = p.alg
  keyId : q.keyId = p.keyId
  covered : q.covered = p.covered

/-- The received text is no declaration. -/
theorem sameDeclarations_received (p : SignatureParams) (received : Option String) :
    SameDeclarations p { p with received } :=
  ⟨rfl, rfl, rfl, rfl, rfl, rfl⟩

theorem SameDeclarations.symm (h : SameDeclarations p q) : SameDeclarations q p :=
  ⟨h.created.symm, h.expires.symm, h.nonce.symm, h.alg.symm, h.keyId.symm, h.covered.symm⟩

theorem SameDeclarations.trans {r : SignatureParams} (h : SameDeclarations p q)
    (h' : SameDeclarations q r) : SameDeclarations p r :=
  ⟨h'.created.trans h.created, h'.expires.trans h.expires, h'.nonce.trans h.nonce,
    h'.alg.trans h.alg, h'.keyId.trans h.keyId, h'.covered.trans h.covered⟩

/-- **Denotation.** A text denotes parameters if it is read as parameters with the same
declarations, of which the text itself is signed. -/
def Denotes (s : String) (p : SignatureParams) : Prop :=
  ∃ q, parse s = .ok q ∧ SameDeclarations p q ∧ q.baseText = s

/-! ### Setters in a row -/

/-- **Setter.** A change to what is declared. -/
inductive Setter where
  | expires (t : Timestamp)
  | expiresAfter (seconds : UInt64)
  | nonce (nonce : String)

/-- The parameters after a change. One that fails leaves them as they are. -/
def Setter.apply (p : SignatureParams) : Setter → SignatureParams
  | expires t => p.setExpires t
  | expiresAfter seconds => p.setExpiresAfter seconds
  | nonce n =>
    match p.setNonce n with
    | .ok q => q
    | .error _ => p

theorem Obtained.apply (hp : p.Obtained) (change : Setter) : (change.apply p).Obtained := by
  cases change with
  | expires t => exact hp.setExpires t
  | expiresAfter seconds => exact hp.setExpiresAfter seconds
  | nonce n =>
    -- a nonce that cannot be written is refused, and the parameters stay as they were
    simp only [Setter.apply]
    split
    · next hq => exact hp.setNonce hq
    · exact hp

/-- **Run.** What any changes make of parameters can be obtained as well. -/
theorem Obtained.run (hp : p.Obtained) (changes : List Setter) :
    (changes.foldl Setter.apply p).Obtained := by
  induction changes generalizing p with
  | nil => exact hp
  | cons change changes ih => exact ih (hp.apply change)

/-! ### The normal form of a member -/

/-- Declarations are points in time and strings, and these are normal. -/
theorem Declared.add_normal (d : Declared) (name : String) (b : BareItem) :
    d.add name b.normal = d.add name b := by
  have htime (name : String) : readTimestamp name b.normal = readTimestamp name b := by
    cases b <;> rfl
  have hstring (name : String) : readString name b.normal = readString name b := by
    cases b <;> rfl
  simp only [Declared.add, htime, hstring]

theorem foldlM_normal (ps : Parameters) (d : Declared) :
    (ps.map BareItem.normal).entries.foldlM (fun d e => Declared.add d e.1 e.2) d
      = ps.entries.foldlM (fun d e => Declared.add d e.1 e.2) d := by
  simp only [OrderedMap.map, List.foldlM_map, Declared.add_normal]

/-- **The normal form declares the same**, and its text is the same too. -/
theorem ofMember_normal {m : Member} (h : ofMember m = .ok p) : ofMember m.normal = .ok p := by
  cases m with
  | item i => cases h
  | innerList items ps =>
    -- every item stands for a component, so it is a plain string
    have hitems : items.map (Item.map BareItem.normal) = items := by
      simp only [ofMember] at h
      obtain ⟨covered, hcovered, -⟩ := Fallible.bind_eq_ok.1 h
      have hall := Fallible.mapM_eq_ok.1 (Fallible.mapError_eq_ok.1 hcovered)
      refine (List.map_congr_left fun i hi => ?_).trans (List.map_id items)
      obtain ⟨id, -, hid⟩ := Fallible.exists_right_of_mem hall hi
      obtain ⟨s, rfl⟩ := ComponentId.exists_string_of_ofItem hid
      rfl
    -- the text is that of the member, in which a decimal stands in its normal form
    have htext : (Member.innerList items (ps.map BareItem.normal)).text
        = (Member.innerList items ps).text := by
      rw [Member.text, Member.text, StructuredField.parametersText_normal]
    rw [Member.normal, Member.map, hitems]
    simp only [ofMember, foldlM_normal, htext] at h ⊢
    exact h

/-- Parameters that were read from a member are read from its text. -/
theorem parse_text_of_ofMember {m : Member} (hm : m.WellFormed) (h : ofMember m = .ok p) :
    parse m.text = .ok p := by
  rw [parse, StructuredField.parseList_text hm]
  exact Fallible.mapError_eq_ok.2 (ofMember_normal h)

/-! ### Texts that denote parameters -/

/-- **The canonical text** denotes the parameters it is written from. -/
theorem Obtained.denotes_text (hp : p.Obtained) (ht : p.Timely) : Denotes p.text p := by
  refine ⟨{ p with received := some p.text }, ?_, sameDeclarations_received p _, rfl⟩
  rw [SignatureParams.parse, ← text_member,
    StructuredField.parseList_text_of_canonical (canonical_member hp.writable ht), text_member]
  exact Fallible.mapError_eq_ok.2 (ofMember_member hp.writable.nodup)

/-- **The signed text** denotes the parameters it is signed for. -/
theorem Obtained.denotes_baseText (hp : p.Obtained) (ht : p.Timely) : Denotes p.baseText p := by
  obtain ⟨-, hreceived | ⟨m, hm, hread⟩⟩ := hp.writable_and
  · have hbase : p.baseText = p.text := by rw [baseText, hreceived, Option.getD_none]
    rw [hbase]
    exact hp.denotes_text ht
  · -- what was read from a member is signed as the member, and read from its text without a change
    have hbase : p.baseText = m.text := by
      rw [baseText, (ofMember_eq_ok hm hread).2.1, Option.getD_some]
    exact ⟨p, hbase ▸ parse_text_of_ofMember hm hread, sameDeclarations_received p _, rfl⟩

/-- **What is signed tells what is declared**, as long as it can be read. -/
theorem sameDeclarations_of_baseText_eq (hp : p.Obtained) (hq : q.Obtained) (hpt : p.Timely)
    (hqt : q.Timely) (h : p.baseText = q.baseText) : SameDeclarations p q := by
  obtain ⟨r, hr, hpr, -⟩ := hp.denotes_baseText hpt
  obtain ⟨r', hr', hqr, -⟩ := hq.denotes_baseText hqt
  rw [h, hr', Except.ok.injEq] at hr
  subst hr
  exact hpr.trans hqr.symm

/-- **Both texts denote the parameters.** However parameters were come by, and whatever setters were
called on them, with success or without: the text that is signed of them and their canonical text
are read as the same declarations, and are signed again as they are. -/
theorem denotes_of_setters (hp : p.Obtained) (changes : List Setter)
    (ht : (changes.foldl Setter.apply p).Timely) :
    Denotes (changes.foldl Setter.apply p).baseText (changes.foldl Setter.apply p)
      ∧ Denotes (changes.foldl Setter.apply p).text (changes.foldl Setter.apply p) := by
  have hq : (changes.foldl Setter.apply p).Obtained := hp.run changes
  exact ⟨hq.denotes_baseText ht, hq.denotes_text ht⟩

/-! ### Parameters with a decimal that is not normal -/

namespace Decimals

/-- A text with a declaration that this library does not know. -/
def sent : String :=
  "(\"@path\");x=1.00;created=1;keyid=\"k\";alg=\"a\""

/-- The parameters that are read from it. -/
def parameters : SignatureParams :=
  ⟨1, none, none, "a", "k", [.derived .path],
    some "(\"@path\");x=1.0;created=1;keyid=\"k\";alg=\"a\""⟩

theorem parse_sent : SignatureParams.parse sent = .ok parameters := rfl

/-- A nonce that cannot be declared leaves them as they are. -/
theorem foldl_lineFeed : [Setter.nonce "\n"].foldl Setter.apply parameters = parameters := rfl

end Decimals

open Decimals in
/-- What is signed of these parameters is not the text that they were read from, and denotes
them. -/
theorem denotes_of_setters_decimals :
    parameters.baseText ≠ sent ∧ Denotes parameters.baseText parameters
      ∧ Denotes parameters.text parameters := by
  have htimely : parameters.Timely := ⟨by decide, nofun⟩
  have hboth := denotes_of_setters (.parse parse_sent) [Setter.nonce "\n"] htimely
  rw [foldl_lineFeed] at hboth
  exact ⟨by decide, hboth⟩

end SignatureParams

end MessageSignatures
