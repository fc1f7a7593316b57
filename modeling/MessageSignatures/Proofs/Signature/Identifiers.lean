import MessageSignatures.Proofs.Component.Names
import MessageSignatures.Proofs.Signature.Denotation
import MessageSignatures.Proofs.Signature.Unambiguous

/-!
# The names in the lines of a base

A base names every covered component twice: at the beginning of its line, and in the list that the
last line holds. Where the parameters were read, the list is the one that came, and the lines are
written from the components that its names stand for. White space around a name does not count when
it is read, and neither does case. So the lines have the **normal form** of each name
(`ComponentId.normalName`), and they have the names of the list only if these are normal
(`SignatureBase.identifiers_of_entry`).

A signature over the base is then about lines that do not fit the list, which no signer that writes
both of them alike has made (`SignatureBase.Capital`).
-/

namespace MessageSignatures

open StructuredField (BareItem Item Member escape quoted)

/-! ### Names of components -/

namespace ComponentId

theorem map_name_eq {names : List String} {ids : List ComponentId}
    (h : List.Forall₂ (fun s id => ofItem (listed s) = .ok id) names ids) :
    ids.map name = names.map normalName := by
  induction h with
  | nil => rfl
  | cons hid _ ih => rw [List.map_cons, List.map_cons, ih, name_of_ofItem hid]

/-- **Lines and list** name components alike exactly if the names of the list are normal. -/
theorem map_text_eq_iff {names : List String} {ids : List ComponentId}
    (hnames : ∀ s ∈ names, Text.isPrintable s = true)
    (h : List.Forall₂ (fun s id => ofItem (listed s) = .ok id) names ids) :
    ids.map text = names.map quoted ↔ ∀ s ∈ names, normalName s = s := by
  induction h with
  | nil => simp
  | @cons s id names ids hid _ ih =>
    -- an identifier is written in its normal name
    obtain ⟨hs, hnames⟩ := List.forall_mem_cons.1 hnames
    rw [List.map_cons, List.map_cons, List.cons.injEq, ih hnames, List.forall_mem_cons,
      text_eq_quoted, StructuredField.quoted_inj id.isPrintable_name hs, name_of_ofItem hid]

end ComponentId

/-! ### Names in a base -/

/-- **The signed text** of parameters that were read is that of a list of names, and it is read as
this list again. -/
theorem SignatureParams.exists_signedNames {t label : String} {inputs : OrderedMap SignatureParams}
    {p : SignatureParams} (h : parseSignatureInput t = .ok inputs)
    (hp : (label, p) ∈ inputs.entries) :
    ∃ names ps, p.baseText = (Member.innerList (names.map ComponentId.listed) ps).text
      ∧ StructuredField.parseList p.baseText
        = some [.innerList (names.map ComponentId.listed) ps]
      ∧ (∀ s ∈ names, Text.isPrintable s = true)
      ∧ List.Forall₂ (fun s id => ComponentId.ofItem (ComponentId.listed s) = .ok id)
        names p.covered := by
  obtain ⟨m, hm, hread⟩ := exists_member_of_entry h hp
  have hcanonical := Member.canonical_normal hm
  have hwf : m.normal.WellFormed := hcanonical.mono fun _ hb => hb.1
  obtain ⟨-, hreceived, items, ps, hmember, hcovered⟩ := ofMember_eq_ok hwf (ofMember_normal hread)
  obtain ⟨names, rfl, hnames⟩ := ComponentId.exists_names hcovered
  have hbase : p.baseText = m.normal.text := by rw [baseText, hreceived, Option.getD_some]
  have hlist := StructuredField.parseList_text_of_canonical hcanonical
  -- the names are strings of the member that was read
  rw [hmember] at hbase hlist hwf
  refine ⟨names, ps, hbase, hbase ▸ hlist, fun s hs => ?_, hnames⟩
  exact (hwf.1 _ (List.mem_map_of_mem hs)).1

namespace SignatureBase

variable {v : RequestView} {p : SignatureParams} {b : SignatureBase}

/-- The lines of a base are those of what is covered. -/
theorem map_id_of_build (h : build v p = .ok b) : b.components.map Component.id = p.covered := by
  have hids : List.Forall₂ (· = ·) p.covered (b.components.map Component.id) :=
    List.forall₂_map_right_iff.2 ((build_eq_ok.1 h).2.imp fun id k hk => hk.1.symm)
  rw [List.forall₂_eq_eq_eq] at hids
  exact hids.symm

/-- **Identifiers.** For parameters that were read from a header, the last line of a base is read as
a list of names. The lines before it begin with the normal form of these names, in order; and these
beginnings are, byte for byte, what the list holds exactly if all of its names are normal. -/
theorem identifiers_of_entry {t label : String} {inputs : OrderedMap SignatureParams}
    (h : parseSignatureInput t = .ok inputs) (hp : (label, p) ∈ inputs.entries)
    (hb : build v p = .ok b) :
    ∃ (names : List String) (ps : StructuredField.Parameters),
      b.text = String.join (b.components.map fun k => k.id.text ++ ": " ++ k.value ++ "\n")
        ++ ("\"@signature-params\": " ++ ("(" ++ " ".intercalate (names.map quoted) ++ ")"
          ++ StructuredField.parametersText ps))
      ∧ StructuredField.parseList b.params.baseText
        = some [.innerList (names.map ComponentId.listed) ps]
      ∧ b.components.map (fun k => k.id.name) = names.map ComponentId.normalName
      ∧ (b.components.map (fun k => k.id.text) = names.map quoted
        ↔ ∀ name ∈ names, ComponentId.normalName name = name) := by
  obtain ⟨names, ps, hbase, hlist, hprintable, hnames⟩ := SignatureParams.exists_signedNames h hp
  -- the last line is that of the member, from its brackets to its parameters
  have hparams : b.params = p := (build_eq_ok.1 hb).1
  have hids := map_id_of_build hb
  have hitems : (names.map ComponentId.listed).map Item.text = names.map quoted := by
    rw [List.map_map]
    exact List.map_congr_left fun s _ => ComponentId.text_listed s
  have htext : p.baseText = "(" ++ " ".intercalate (names.map quoted) ++ ")"
      ++ StructuredField.parametersText ps := by
    rw [hbase, Member.text, hitems]
  refine ⟨names, ps, ?_, hparams ▸ hlist, ?_, ?_⟩
  · rw [← htext, ← hparams]
    rfl
  · have hread : p.covered.map ComponentId.name = names.map ComponentId.normalName :=
      ComponentId.map_name_eq hnames
    rw [← hread, ← hids, List.map_map]
    rfl
  · -- the names of both lines are equal if each is its own normal name
    have hiff := ComponentId.map_text_eq_iff hprintable hnames
    rw [← hids, List.map_map] at hiff
    exact hiff

/-! ### A name with capitals -/

namespace Capital

/-- A header whose list has a name with capitals. -/
def input : String :=
  "sig=(\"Content-Type\");created=1;alg=\"hmac-sha256\";keyid=\"k\""

/-- The member of the header. -/
def member : Member :=
  .innerList [ComponentId.listed "Content-Type"]
    ⟨[("created", .integer 1), ("alg", .string "hmac-sha256"), ("keyid", .string "k")], by decide⟩

/-- The field that the name stands for. -/
def contentType : FieldName := ⟨"content-type", Text.toLower_eq (by decide)⟩

/-- The component of the field. -/
def id : ComponentId :=
  .field contentType (by decide) (Forgery.ne_contentDigest (by decide))

/-- The parameters of the member. -/
def parameters : SignatureParams :=
  ⟨1, none, none, "hmac-sha256", "k", [id], some member.text⟩

/-- What is read from the header. -/
def inputs : OrderedMap SignatureParams :=
  ⟨[("sig", parameters)], by decide⟩

/-- A request with the field. -/
def view : RequestView where
  method := "GET"
  path := "/"
  headers := [(contentType, "a")]

/-- Its base. -/
def base : SignatureBase :=
  ⟨[⟨id, "a"⟩], parameters⟩

theorem ofItem_listed : ComponentId.ofItem (ComponentId.listed "Content-Type") = .ok id := by
  have htrim : Text.trim "Content-Type" = "Content-Type" := rfl
  have hname : FieldName.ofString "Content-Type" = contentType := by
    rw [FieldName.mk.injEq]
    exact Text.toLower_eq (by decide)
  have hother : contentType ≠ .contentDigest := Forgery.ne_contentDigest (by decide)
  change ComponentId.ofField "Content-Type" = _
  simp only [ComponentId.ofField, htrim, hname]
  exact (dif_neg hother).trans (dif_pos (by decide))

theorem ofMember_member : SignatureParams.ofMember member = .ok parameters := by
  have hitems : ([ComponentId.listed "Content-Type"].mapM ComponentId.ofItem).mapError
      HeaderFault.component = .ok [id] :=
    Fallible.mapError_eq_ok.2 (Fallible.mapM_eq_ok.2 (.cons ofItem_listed .nil))
  rw [member]
  simp only [SignatureParams.ofMember]
  rw [hitems]
  rfl

theorem parse_input : parseSignatureInput input = .ok inputs := by
  have hread : StructuredField.parseDictionary input = some ⟨[("sig", member)], by decide⟩ := rfl
  unfold parseSignatureInput
  rw [hread]
  exact Fallible.mapError_eq_ok.2
    (OrderedMap.traverse_eq_ok_iff.2 (.cons ⟨rfl, ofMember_member⟩ .nil))

theorem build_view : build view parameters = .ok base := rfl

theorem parseList_baseText : StructuredField.parseList base.params.baseText = some [member] := rfl

end Capital

open Capital in
/-- The line has the normal name, which is not the one of the list. -/
theorem identifiers_of_entry_capital :
    base.components.map (fun k => k.id.name) = [ComponentId.normalName "Content-Type"]
      ∧ base.components.map (fun k => k.id.text) ≠ [quoted "Content-Type"] := by
  obtain ⟨names, ps, -, hlist, hnames, hiff⟩ :=
    identifiers_of_entry parse_input List.mem_cons_self build_view
  have hone : names = ["Content-Type"] := by
    rw [parseList_baseText, member, Option.some.injEq, List.cons.injEq,
      Member.innerList.injEq] at hlist
    obtain ⟨s, hs, hlisted⟩ := List.map_eq_singleton_iff.1 hlist.1.1.symm
    rw [hs, BareItem.string.inj (Item.mk.inj hlisted).1]
  rw [hone] at hnames hiff
  refine ⟨hnames, fun h => ?_⟩
  have hnormal := hiff.1 h "Content-Type" List.mem_cons_self
  have hlower : ComponentId.normalName "Content-Type" = "content-type" :=
    Text.toLower_eq (by decide)
  rw [hlower] at hnormal
  exact absurd hnormal (by decide)

open Capital in
/-- **A base may name a component in two ways.** -/
theorem not_identifiers_of_entry :
    ¬ ∀ (t label : String) (inputs : OrderedMap SignatureParams) (p : SignatureParams)
      (v : RequestView)
      (b : SignatureBase), parseSignatureInput t = .ok inputs → (label, p) ∈ inputs.entries →
        build v p = .ok b → ∀ items ps, StructuredField.parseList b.params.baseText
          = some [.innerList items ps] →
          b.components.map (fun k => k.id.text) = items.map Item.text := by
  intro h
  have heq :=
    h input "sig" inputs parameters view base parse_input List.mem_cons_self build_view _ _
    parseList_baseText
  exact absurd heq (by decide)

end SignatureBase

end MessageSignatures
