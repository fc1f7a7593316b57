import MessageSignatures.Http.Request
import MessageSignatures.Proofs.Text
import MessageSignatures.Proofs.Verifier.OtherSignatures

/-!
# The view of an HTTP request

A view is made of a request header by header (`viewHeader`). What it says of a field depends on the
values of that field alone: those that are texts, in order, and whether there are others
(`headerValues_view`, `isUnreadable_view`). So the headers of a request and those of its view stay
in step:

* requests that differ in some fields at most have views that do (`agreeOff_view`);
* setting a field of a request to a printable text sets it in the view (`agreeOff_view_set`), since
  a printable text is a header value that is read as it was written (`HeaderValue.text?_utf8`).

The order of headers with different names is not part of this: two views that agree in the values of
every field are one to signers and verifiers.
-/

namespace MessageSignatures

namespace Http

/-! ### Header values of printable texts -/

namespace HeaderValue

variable {s : String}

theorem toNat_of_isPrintableChar {c : Char} (h : Text.isPrintableChar c = true) :
    (UInt8.ofNat c.toNat).toNat = c.toNat := by
  have hcode := Text.isPrintableChar_iff.1 h
  exact UInt8.toNat_ofNat_of_lt' (Nat.lt_of_le_of_lt hcode.2 (by decide))

theorem isVisible_of_isPrintableChar {c : Char} (h : Text.isPrintableChar c = true) :
    isVisible (UInt8.ofNat c.toNat) = true := by
  have hcode := Text.isPrintableChar_iff.1 h
  rw [isVisible, Bool.or_eq_true, Bool.and_eq_true, decide_eq_true_eq, decide_eq_true_eq,
    UInt8.le_iff_toNat_le, UInt8.lt_iff_toNat_lt, toNat_of_isPrintableChar h]
  exact .inr ⟨hcode.1, Nat.lt_succ_of_le hcode.2⟩

theorem all_isVisible_utf8 (h : Text.isPrintable s = true) :
    (Text.utf8 s).all isVisible = true := by
  rw [Text.utf8_of_isPrintable h, List.all_map]
  exact List.all_eq_true.2 fun c hc => isVisible_of_isPrintableChar (List.all_eq_true.1 h c hc)

/-- **A printable text** is a header value. -/
theorem ofText?_of_isPrintable (h : Text.isPrintable s = true) : ofText? s = some (Text.utf8 s) :=
  if_pos (all_isVisible_utf8 h)

/-- It is read as it was written. -/
theorem text?_utf8 (h : Text.isPrintable s = true) : text? (Text.utf8 s) = some s := by
  -- a printable character is its own code
  have hchar : ∀ c ∈ s.toList, Char.ofNat (UInt8.ofNat c.toNat).toNat = c := by
    intro c hc
    rw [toNat_of_isPrintableChar (List.all_eq_true.1 h c hc), Char.ofNat_toNat]
  rw [text?, if_pos (all_isVisible_utf8 h), Text.utf8_of_isPrintable h, List.map_map]
  have hmap : s.toList.map (fun c => Char.ofNat (UInt8.ofNat c.toNat).toNat) = s.toList.map id :=
    List.map_congr_left hchar
  exact congrArg some
    (String.toList_inj.1 ((String.toList_ofList ..).trans (hmap.trans (List.map_id _))))

/-- Values are all read, or none is. -/
theorem mapM_text? (values : List HeaderValue) :
    values.mapM text?
      = if values.any (fun value => value.text?.isNone) then none
        else some (values.filterMap text?) := by
  induction values with
  | nil => rfl
  | cons value values ih =>
    rw [List.mapM_cons, ih, List.any_cons, List.filterMap_cons]
    -- one value that cannot be read spoils the traversal
    cases value.text? with
    | none => rfl
    | some text =>
      simp only [Option.isNone_some, Bool.false_or]
      split <;> rfl

end HeaderValue

/-! ### What a view says of a field -/

theorem Headers.valuesOf_cons (name : FieldName) (value : HeaderValue) (hs : Headers)
    (n : FieldName) :
    Headers.valuesOf ((name, value) :: hs) n
      = if name = n then value :: hs.valuesOf n else hs.valuesOf n := by
  unfold Headers.valuesOf
  by_cases hname : name = n <;> simp [hname]

theorem Headers.has_eq_true {hs : Headers} {n : FieldName} :
    hs.has n = true ↔ hs.valuesOf n ≠ [] := by
  induction hs with
  | nil => exact ⟨nofun, fun h => absurd rfl h⟩
  | cons header hs ih =>
    obtain ⟨name, value⟩ := header
    rw [Headers.valuesOf_cons]
    unfold has at ih ⊢
    -- the first header counts if it is of the field, and else the others decide
    by_cases h : name = n
    · rw [if_pos h, List.any_cons, beq_iff_eq.2 h, Bool.true_or]
      exact ⟨fun _ => List.cons_ne_nil _ _, fun _ => rfl⟩
    · rw [if_neg h, List.any_cons, beq_eq_false_iff_ne.2 h, Bool.false_or, ih]

section View

variable {r r' : Request} {body : List UInt8} {ns : List FieldName}

theorem headerValues_viewHeader (v : RequestView) (name : FieldName) (value : HeaderValue)
    (n : FieldName) :
    (viewHeader v (name, value)).headerValues n
      = v.headerValues n ++ (if name = n then value.text?.toList else []) := by
  unfold viewHeader
  cases value.text? with
  | some text =>
    rw [RequestView.headerValues_appendHeader]
    split <;> simp
  | none => simp

theorem isUnreadable_viewHeader (v : RequestView) (name : FieldName) (value : HeaderValue)
    (n : FieldName) :
    (viewHeader v (name, value)).isUnreadable n
      = (v.isUnreadable n || name == n && value.text?.isNone) := by
  unfold viewHeader
  cases value.text? with
  | some text => simp
  | none =>
    rw [RequestView.isUnreadable_appendUnreadable, Option.isNone_none, Bool.and_true, Bool.or_comm]

/-- Headers add their texts to those that are there. -/
theorem headerValues_foldl_viewHeader (hs : Headers) (v : RequestView) (n : FieldName) :
    (hs.foldl viewHeader v).headerValues n
      = v.headerValues n ++ (hs.valuesOf n).filterMap HeaderValue.text? := by
  induction hs generalizing v with
  | nil => exact (List.append_nil _).symm
  | cons header hs ih =>
    obtain ⟨name, value⟩ := header
    rw [List.foldl_cons, ih, headerValues_viewHeader, Headers.valuesOf_cons]
    split
    · -- a header of the field, which adds its text or nothing
      cases htext : value.text? <;> simp [htext]
    · simp

/-- Headers without text are added to those that are recorded. -/
theorem isUnreadable_foldl_viewHeader (hs : Headers) (v : RequestView) (n : FieldName) :
    (hs.foldl viewHeader v).isUnreadable n
      = (v.isUnreadable n || (hs.valuesOf n).any fun value => value.text?.isNone) := by
  induction hs generalizing v with
  | nil => exact (Bool.or_false _).symm
  | cons header hs ih =>
    obtain ⟨name, value⟩ := header
    rw [List.foldl_cons, ih, isUnreadable_viewHeader, Headers.valuesOf_cons]
    split
    · next hname => rw [beq_iff_eq.2 hname, Bool.true_and, List.any_cons, Bool.or_assoc]
    · next hname => rw [beq_eq_false_iff_ne.2 hname, Bool.false_and, Bool.or_false]

/-- Headers add nothing but headers. -/
theorem foldl_viewHeader_eq (hs : Headers) (v : RequestView) :
    ∃ headers unreadable, hs.foldl viewHeader v = { v with headers, unreadable } := by
  induction hs generalizing v with
  | nil => exact ⟨v.headers, v.unreadable, rfl⟩
  | cons header hs ih =>
    -- one header changes one of the two lists at most
    obtain ⟨headers, unreadable, heq⟩ : ∃ headers unreadable,
        viewHeader v header = { v with headers, unreadable } := by
      unfold viewHeader
      split
      · exact ⟨_, v.unreadable, rfl⟩
      · unfold RequestView.appendUnreadable
        split
        · exact ⟨v.headers, v.unreadable, rfl⟩
        · exact ⟨v.headers, _, rfl⟩
    rw [List.foldl_cons, heq]
    exact ih _

/-- **The texts of a field** are its values that can be read. -/
theorem headerValues_view (r : Request) (body : List UInt8) (n : FieldName) :
    (r.view body).headerValues n = (r.headers.valuesOf n).filterMap HeaderValue.text? :=
  headerValues_foldl_viewHeader r.headers _ n

/-- **A field is recorded** if it has a value that cannot be read. -/
theorem isUnreadable_view (r : Request) (body : List UInt8) (n : FieldName) :
    (r.view body).isUnreadable n = (r.headers.valuesOf n).any fun value => value.text?.isNone :=
  isUnreadable_foldl_viewHeader r.headers _ n

theorem isUnreadable_view_eq_true {n : FieldName} :
    (r.view body).isUnreadable n = true ↔ ∃ value ∈ r.headers.valuesOf n, value.text? = none := by
  rw [isUnreadable_view, List.any_eq_true]
  exact exists_congr fun value => and_congr_right fun _ => Option.isNone_iff_eq_none

/-- A field with a text in the view is on the request. -/
theorem has_of_headerValues {n : FieldName} (h : (r.view body).headerValues n ≠ []) :
    r.headers.has n = true := by
  refine Headers.has_eq_true.2 fun hnil => h ?_
  rw [headerValues_view, hnil]
  rfl

/-- All else is taken over. -/
theorem view_eq (r : Request) (body : List UInt8) :
    ∃ headers unreadable, r.view body =
      { method := r.method, path := r.uri.path, query := r.uri.query
        explicitAuthority := r.uri.server.map Server.authority, headers, unreadable, body } :=
  foldl_viewHeader_eq r.headers _

@[simp] theorem body_view (r : Request) (body : List UInt8) : (r.view body).body = body := by
  obtain ⟨headers, unreadable, hview⟩ := view_eq r body
  rw [hview]

/-! ### Views in step -/

/-- **Frame.** Requests that differ in some fields at most have views that do. -/
theorem agreeOff_view (hmethod : r'.method = r.method) (huri : r'.uri = r.uri)
    (hvalues : ∀ n ∉ ns, r'.headers.valuesOf n = r.headers.valuesOf n) :
    (r.view body).AgreeOff ns (r'.view body) := by
  obtain ⟨headers, unreadable, hview⟩ := view_eq r body
  obtain ⟨headers', unreadable', hview'⟩ := view_eq r' body
  -- only the headers can tell the two views apart
  refine ⟨?_, ?_, ?_, ?_, ?_, fun n hn => ?_, fun n hn => ?_⟩
  · rw [hview, hview', hmethod]
  · rw [hview, hview', huri]
  · rw [hview, hview', huri]
  · rw [hview, hview', huri]
  · rw [hview, hview']
  · rw [headerValues_view, headerValues_view, hvalues n hn]
  · rw [isUnreadable_view, isUnreadable_view, hvalues n hn]

/-- **Setting a field** of a request to a printable text sets it in the view. -/
theorem agreeOff_view_set {v : RequestView} (h : v.AgreeOff [] (r.view body)) (n : FieldName)
    {s : String} (hs : Text.isPrintable s = true) :
    (v.setHeader n s).AgreeOff []
      ({ r with headers := r.headers.set n (Text.utf8 s) }.view body) := by
  let r' : Request := { r with headers := r.headers.set n (Text.utf8 s) }
  -- elsewhere both sides are as before
  have hframe : (r.view body).AgreeOff [n] (r'.view body) := by
    refine agreeOff_view rfl rfl fun m hm => ?_
    exact (Headers.valuesOf_set ..).trans (if_neg fun hn => hm (List.mem_singleton.2 hn.symm))
  have hself : r'.headers.valuesOf n = [Text.utf8 s] :=
    (Headers.valuesOf_set ..).trans (if_pos rfl)
  refine ⟨hframe.method.trans h.method, hframe.path.trans h.path, hframe.query.trans h.query,
    hframe.explicitAuthority.trans h.explicitAuthority, hframe.body.trans h.body, fun m _ => ?_,
    fun m _ => ?_⟩
  · rw [RequestView.headerValues_setHeader]
    split
    · next hm =>
      rw [← hm, headerValues_view, hself, List.filterMap_cons, HeaderValue.text?_utf8 hs]
      rfl
    · next hm =>
      rw [hframe.headerValues m (by simpa using Ne.symm hm), h.headerValues m List.not_mem_nil]
  · -- the new value can be read, so nothing marks the field
    rw [RequestView.isUnreadable_setHeader]
    by_cases hm : n = m
    · rw [← hm, isUnreadable_view, hself, List.any_cons, HeaderValue.text?_utf8 hs]
      simp
    · rw [hframe.isUnreadable m (by simpa using Ne.symm hm), h.isUnreadable m List.not_mem_nil,
        bne_iff_ne.2 hm, Bool.true_and]

end View

end Http

end MessageSignatures
