import MessageSignatures.Proofs.Text
import MessageSignatures.RequestView
import Mathlib.Data.List.Induction

/-!
# The header fields of a view

A program puts the fields of a view together by calls, each of which names a field in whatever case
(`RequestView.Call`). What the fields are then is told by the calls alone, without the view that
keeps them (`RequestView.multimap`):

* the values of a field are those that were given to it **since it was last reset**, which is what
  setting and removing it do (`RequestView.sinceReset`);
* a field has an unreadable value if one was recorded since then;
* the pairs that are listed are those that **survive**: no later call resets their field
  (`RequestView.surviving`).

Each call tells what it adds and what it resets, and so each of the three has a lemma for a call at
the end of the history (`RequestView.sinceReset_concat`, `RequestView.surviving_concat`) and one for
a call on a view (`RequestView.Call.headerValues_apply` and its like).

A call changes no part of a request but the field that it names (`RequestView.AgreeOff`). The
authority is no part of its own: if none was given, the host stands for it, and calls for the host
change both (`RequestView.not_authority_eq`).
-/

namespace MessageSignatures

namespace RequestView

/-! ### Agreement off some fields -/

/-- **Agreement off some fields.** Two requests that differ in these fields at most, be it in their
readable values or in the record of unreadable ones. -/
structure AgreeOff (ns : List FieldName) (v w : RequestView) : Prop where
  method : w.method = v.method
  path : w.path = v.path
  query : w.query = v.query
  explicitAuthority : w.explicitAuthority = v.explicitAuthority
  body : w.body = v.body
  headerValues : ∀ n ∉ ns, w.headerValues n = v.headerValues n
  isUnreadable : ∀ n ∉ ns, w.isUnreadable n = v.isUnreadable n

variable {ns : List FieldName} {v w : RequestView}

theorem AgreeOff.refl (ns : List FieldName) (v : RequestView) : AgreeOff ns v v :=
  ⟨rfl, rfl, rfl, rfl, rfl, fun _ _ => rfl, fun _ _ => rfl⟩

/-- **Frame.** Setting one of the fields keeps the agreement off them. -/
theorem AgreeOff.setHeader (h : AgreeOff ns v w) {n : FieldName} (hn : n ∈ ns) (value : String) :
    AgreeOff ns v (w.setHeader n value) := by
  refine ⟨h.method, h.path, h.query, h.explicitAuthority, h.body, fun m hm => ?_, fun m hm => ?_⟩
  · rw [headerValues_setHeader, if_neg (ne_of_mem_of_not_mem hn hm), h.headerValues m hm]
  · rw [isUnreadable_setHeader, bne_iff_ne.2 (ne_of_mem_of_not_mem hn hm), Bool.true_and,
      h.isUnreadable m hm]

/-- So does appending to one of them. -/
theorem AgreeOff.appendHeader (h : AgreeOff ns v w) {n : FieldName} (hn : n ∈ ns) (value : String) :
    AgreeOff ns v (w.appendHeader n value) := by
  refine ⟨h.method, h.path, h.query, h.explicitAuthority, h.body, fun m hm => ?_, h.isUnreadable⟩
  rw [headerValues_appendHeader, if_neg (ne_of_mem_of_not_mem hn hm), h.headerValues m hm]

/-- So does removing one of them, -/
theorem AgreeOff.removeHeader (h : AgreeOff ns v w) {n : FieldName} (hn : n ∈ ns) :
    AgreeOff ns v (w.removeHeader n) := by
  refine ⟨h.method, h.path, h.query, h.explicitAuthority, h.body, fun m hm => ?_, fun m hm => ?_⟩
  · rw [headerValues_removeHeader, if_neg (ne_of_mem_of_not_mem hn hm), h.headerValues m hm]
  · rw [isUnreadable_removeHeader, bne_iff_ne.2 (ne_of_mem_of_not_mem hn hm), Bool.true_and,
      h.isUnreadable m hm]

/-- and recording that one of them has a value without text. -/
theorem AgreeOff.appendUnreadable (h : AgreeOff ns v w) {n : FieldName} (hn : n ∈ ns) :
    AgreeOff ns v (w.appendUnreadable n) := by
  -- a field that is marked already is not marked again, and all else is kept in both cases
  have hparts : (w.appendUnreadable n).method = w.method ∧ (w.appendUnreadable n).path = w.path
      ∧ (w.appendUnreadable n).query = w.query
      ∧ (w.appendUnreadable n).explicitAuthority = w.explicitAuthority
      ∧ (w.appendUnreadable n).body = w.body := by
    unfold RequestView.appendUnreadable
    split <;> exact ⟨rfl, rfl, rfl, rfl, rfl⟩
  obtain ⟨hmethod, hpath, hquery, hauthority, hbody⟩ := hparts
  refine ⟨hmethod.trans h.method, hpath.trans h.path, hquery.trans h.query,
    hauthority.trans h.explicitAuthority, hbody.trans h.body, fun m hm => ?_, fun m hm => ?_⟩
  · rw [headerValues_appendUnreadable, h.headerValues m hm]
  · rw [isUnreadable_appendUnreadable, beq_false_of_ne (ne_of_mem_of_not_mem hn hm), Bool.false_or,
      h.isUnreadable m hm]

theorem AgreeOff.hasHeader (h : AgreeOff ns v w) {n : FieldName} (hn : n ∉ ns) :
    w.hasHeader n = v.hasHeader n := by
  rw [Bool.eq_iff_iff, hasHeader_eq_true_iff, hasHeader_eq_true_iff, h.headerValues n hn,
    h.isUnreadable n hn]

theorem AgreeOff.authority (h : AgreeOff ns v w) (hhost : .host ∉ ns) :
    w.authority = v.authority := by
  rw [RequestView.authority, RequestView.authority, h.explicitAuthority, h.headerValues _ hhost]

/-! ### Calls -/

/-- The pairs of name and value that are listed. -/
def pairs (v : RequestView) : List (String × String) :=
  v.headers.map fun h => (h.1.text, h.2)

/-- **Call** that changes the fields of a view. It names a field by a text, whatever its case. -/
inductive Call where
  | append (name value : String)
  | appendUnreadable (name : String)
  | set (name value : String)
  | remove (name : String)
deriving DecidableEq, Repr

namespace Call

/-- The text by which a call names its field. -/
def name : Call → String
  | append name _ => name
  | appendUnreadable name => name
  | set name _ => name
  | remove name => name

/-- What a call makes of a view. -/
def apply (v : RequestView) : Call → RequestView
  | append name value => v.appendHeader (.ofString name) value
  | appendUnreadable name => v.appendUnreadable (.ofString name)
  | set name value => v.setHeader (.ofString name) value
  | remove name => v.removeHeader (.ofString name)

/-- Whether a call is for a field. Names are compared whatever their case. -/
def isFor (field : String) (c : Call) : Bool :=
  c.name.toLower == field.toLower

/-- Whether a call drops what its field had before. -/
def isReset : Call → Bool
  | append _ _ => false
  | appendUnreadable _ => false
  | set _ _ => true
  | remove _ => true

/-- The value that a call adds to its field. -/
def value? : Call → Option String
  | append _ value => some value
  | appendUnreadable _ => none
  | set _ value => some value
  | remove _ => none

/-- Whether a call records an unreadable value of its field. -/
def isMark : Call → Bool
  | append _ _ => false
  | appendUnreadable _ => true
  | set _ _ => false
  | remove _ => false

/-- Whether a call drops what a field had before. -/
def resets (field : String) (c : Call) : Bool :=
  c.isFor field && c.isReset

/-- The value that a call adds to a field. -/
def given (field : String) (c : Call) : Option String :=
  if c.isFor field then c.value? else none

/-- Whether a call records an unreadable value of a field. -/
def marks (field : String) (c : Call) : Bool :=
  c.isFor field && c.isMark

/-- The pair that a call adds, with the name in lower case. -/
def entry? (c : Call) : Option (String × String) :=
  c.value?.map fun value => (c.name.toLower, value)

theorem isFor_iff {field : String} {c : Call} :
    c.isFor field = true ↔ FieldName.ofString c.name = .ofString field := by
  rw [isFor, beq_iff_eq, FieldName.ofString_eq_ofString_iff]

/-- **Frame.** A call changes no other field and no other part of a view. -/
theorem agreeOff_apply (v : RequestView) (c : Call) :
    v.AgreeOff [.ofString c.name] (c.apply v) := by
  have hmem : FieldName.ofString c.name ∈ [FieldName.ofString c.name] := List.mem_singleton_self _
  cases c with
  | append name value => exact (AgreeOff.refl _ v).appendHeader hmem value
  | appendUnreadable name => exact (AgreeOff.refl _ v).appendUnreadable hmem
  | set name value => exact (AgreeOff.refl _ v).setHeader hmem value
  | remove name => exact (AgreeOff.refl _ v).removeHeader hmem

variable {field : String} {c : Call}

theorem ofString_not_mem (h : ¬ c.isFor field = true) :
    FieldName.ofString field ∉ [FieldName.ofString c.name] := by
  intro hmem
  exact h (isFor_iff.2 (List.mem_singleton.1 hmem).symm)

/-- **Step.** The values of a field are dropped, if the call resets it, and the value that is given
comes behind them. -/
theorem headerValues_apply (v : RequestView) (c : Call) (field : String) :
    (c.apply v).headerValues (.ofString field)
      = (if c.resets field then [] else v.headerValues (.ofString field))
        ++ (c.given field).toList := by
  by_cases hfor : c.isFor field = true
  · -- both names stand for one field, so each of the four calls is told by its own lemma
    have hname := isFor_iff.1 hfor
    rw [resets, given, hfor, Bool.true_and, if_pos rfl, ← hname]
    cases c with
    | append name value => exact (headerValues_appendHeader v _ _ value).trans (if_pos rfl)
    | appendUnreadable name =>
      exact (headerValues_appendUnreadable v _ _).trans (List.append_nil _).symm
    | set name value => exact (headerValues_setHeader v _ _ value).trans (if_pos rfl)
    | remove name => exact (headerValues_removeHeader v _ _).trans (if_pos rfl)
  · -- a call for another field changes nothing here
    rw [(agreeOff_apply v c).headerValues _ (ofString_not_mem hfor), resets, given,
      Bool.eq_false_iff.2 hfor, Bool.false_and, if_neg Bool.false_ne_true,
      if_neg Bool.false_ne_true]
    exact (List.append_nil _).symm

/-- The record of unreadable values is dropped in the same way. -/
theorem isUnreadable_apply (v : RequestView) (c : Call) (field : String) :
    (c.apply v).isUnreadable (.ofString field)
      = (!c.resets field && v.isUnreadable (.ofString field) || c.marks field) := by
  -- whether the field is resettable matters for a call that names it only
  by_cases hfor : c.isFor field = true
  · have hname := isFor_iff.1 hfor
    rw [resets, marks, hfor, Bool.true_and, Bool.true_and, ← hname]
    cases c with
    | append name value => exact (Bool.or_false _).symm
    | appendUnreadable name =>
      show (v.appendUnreadable (.ofString name)).isUnreadable (.ofString name) = _
      rw [isUnreadable_appendUnreadable, beq_self_eq_true]
      exact (Bool.or_true _).symm
    | set name value =>
      show (v.setHeader (.ofString name) value).isUnreadable (.ofString name) = _
      rw [isUnreadable_setHeader, bne_self_eq_false]
      rfl
    | remove name =>
      show (v.removeHeader (.ofString name)).isUnreadable (.ofString name) = _
      rw [isUnreadable_removeHeader, bne_self_eq_false]
      rfl
  · -- all other calls leave the mark of the field where it was
    rw [(agreeOff_apply v c).isUnreadable _ (ofString_not_mem hfor), resets, marks,
      Bool.eq_false_iff.2 hfor, Bool.false_and, Bool.false_and, Bool.or_false]
    rfl

/-- The pairs of a field that is reset are dropped, and the new pair comes behind all others. -/
theorem pairs_apply (v : RequestView) (c : Call) :
    (c.apply v).pairs = v.pairs.filter (fun p => !c.resets p.1) ++ c.entry?.toList := by
  -- a call that resets nothing drops no pair
  have hkept {c : Call} (hc : c.isReset = false) : v.pairs.filter (fun p => !c.resets p.1)
      = v.pairs := by
    refine List.filter_eq_self.2 fun p _ => ?_
    rw [resets, hc, Bool.and_false]
    rfl
  -- the names that are kept are those that the call does not name
  have hdropped {c : Call} (hc : c.isReset = true) :
      (v.removeHeader (.ofString c.name)).pairs = v.pairs.filter fun p => !c.resets p.1 := by
    rw [pairs, pairs, removeHeader, List.filter_map]
    refine congrArg _ (List.filter_congr fun h _ => ?_)
    have hfor : c.isFor h.1.text = (h.1 == .ofString c.name) := by
      rw [Bool.eq_iff_iff, isFor_iff, beq_iff_eq, FieldName.ofString_text]
      exact eq_comm
    show (!(h.1 == .ofString c.name)) = !c.resets h.1.text
    rw [resets, hfor, hc, Bool.and_true]
  cases c with
  | append name value =>
    rw [hkept rfl]
    exact List.map_append
  | appendUnreadable name =>
    rw [hkept rfl]
    show (v.appendUnreadable (.ofString name)).pairs = v.pairs ++ []
    rw [List.append_nil, pairs, pairs, RequestView.appendUnreadable]
    split <;> rfl
  | set name value =>
    rw [← hdropped rfl]
    exact List.map_append
  | remove name =>
    rw [← hdropped rfl]
    exact (List.append_nil _).symm

theorem resets_toLower (field : String) (c : Call) : c.resets field.toLower = c.resets field := by
  have hlower : field.toLower.toLower = field.toLower := (FieldName.ofString field).lower
  rw [resets, resets, isFor, isFor, hlower]

/-- The pair of a call is dropped if its field is reset. -/
theorem filter_entry? (c d : Call) :
    d.entry?.toList.filter (fun p => !c.resets p.1)
      = if c.resets d.name then [] else d.entry?.toList := by
  unfold entry?
  -- a call that hides or removes a field brings no pair with it
  cases d.value? with
  | none => exact (ite_self _).symm
  | some value =>
    show List.filter _ [(d.name.toLower, value)] = _
    rw [List.filter_cons, List.filter_nil, resets_toLower]
    cases c.resets d.name <;> rfl

end Call

/-! ### Histories -/

/-- The view after some calls. -/
def after (v : RequestView) (calls : List Call) : RequestView :=
  calls.foldl Call.apply v

theorem after_concat (v : RequestView) (calls : List Call) (c : Call) :
    v.after (calls ++ [c]) = c.apply (v.after calls) := by
  rw [after, List.foldl_append]
  rfl

/-- **Since the last reset.** The calls from the last one on that resets a field, or all of them if
none does. -/
def sinceReset (field : String) : List Call → List Call
  | [] => []
  | c :: calls => if calls.any (Call.resets field) then sinceReset field calls else c :: calls

/-- **Surviving pairs.** What no later call resets, in order. -/
def surviving : List Call → List (String × String)
  | [] => []
  | c :: calls =>
    (if calls.any (Call.resets c.name) then [] else c.entry?.toList) ++ surviving calls

theorem sinceReset_concat (field : String) (calls : List Call) (c : Call) :
    sinceReset field (calls ++ [c])
      = if c.resets field then [c] else sinceReset field calls ++ [c] := by
  -- the definition goes by the first call, the last one is behind all calls of the induction
  induction calls with
  | nil => exact (ite_self _).symm
  | cons d calls ih =>
    rw [List.cons_append, sinceReset, sinceReset, List.any_append, ih]
    by_cases hc : c.resets field = true
    · -- the last call is the last that resets the field
      have hlast : (calls.any (Call.resets field) || [c].any (Call.resets field)) = true := by
        rw [List.any_cons, hc, Bool.true_or, Bool.or_true]
      rw [if_pos hlast, if_pos hc, if_pos hc]
    · -- it resets nothing, so the tail begins where it began
      have hlast : (calls.any (Call.resets field) || [c].any (Call.resets field))
          = calls.any (Call.resets field) := by
        rw [List.any_cons, Bool.eq_false_iff.2 hc, List.any_nil, Bool.or_false, Bool.or_false]
      rw [hlast, if_neg hc, if_neg hc]
      split <;> rfl

theorem surviving_concat (calls : List Call) (c : Call) :
    surviving (calls ++ [c])
      = (surviving calls).filter (fun p => !c.resets p.1) ++ c.entry?.toList := by
  -- the definition goes by the first call, which has the new one behind it now
  induction calls with
  | nil => exact List.append_nil _
  | cons d calls ih =>
    -- the pair of the first call has one more call behind it that may reset its field
    rw [List.cons_append, surviving, surviving, List.any_append, ih, List.filter_append,
      ← List.append_assoc]
    congr 2
    rw [List.any_cons, List.any_nil, Bool.or_false]
    by_cases hcalls : calls.any (Call.resets d.name) = true
    · -- it was dropped for one of the old calls
      rw [hcalls, Bool.true_or, if_pos rfl]
      rfl
    · -- only the new call is left to drop it
      rw [Bool.eq_false_iff.2 hcalls, Bool.false_or, if_neg Bool.false_ne_true]
      exact (Call.filter_entry? c d).symm

variable {v : RequestView}

theorem headerValues_after (h : v.headers = []) (calls : List Call) (field : String) :
    (v.after calls).headerValues (.ofString field)
      = (sinceReset field calls).filterMap (Call.given field) := by
  -- from the end: the view knows its last call only
  induction calls using List.reverseRecOn with
  | nil =>
    show v.headerValues (.ofString field) = []
    rw [headerValues, h]
    rfl
  | append_singleton calls c ih =>
    have hlast : [c].filterMap (Call.given field) = (c.given field).toList := by
      rw [List.filterMap_cons]
      cases c.given field <;> rfl
    rw [after_concat, Call.headerValues_apply, ih, sinceReset_concat]
    split
    · -- whatever came before a reset is gone
      exact hlast.symm
    · rw [List.filterMap_append, hlast]

theorem isUnreadable_after (h : v.unreadable = []) (calls : List Call) (field : String) :
    (v.after calls).isUnreadable (.ofString field)
      = (sinceReset field calls).any (Call.marks field) := by
  -- from the end again, with the marks in place of the values
  induction calls using List.reverseRecOn with
  | nil =>
    show v.isUnreadable (.ofString field) = false
    rw [isUnreadable, h]
    rfl
  | append_singleton calls c ih =>
    rw [after_concat, Call.isUnreadable_apply, ih, sinceReset_concat]
    have hlast : [c].any (Call.marks field) = c.marks field := by
      rw [List.any_cons, List.any_nil, Bool.or_false]
    split
    · next hresets =>
      rw [hresets, hlast]
      rfl
    · next hresets =>
      rw [Bool.eq_false_iff.2 hresets, List.any_append, hlast]
      rfl

theorem pairs_after (h : v.headers = []) (calls : List Call) :
    (v.after calls).pairs = surviving calls := by
  induction calls using List.reverseRecOn with
  | nil =>
    show v.pairs = []
    rw [pairs, h]
    rfl
  | append_singleton calls c ih => rw [after_concat, Call.pairs_apply, ih, surviving_concat]

/-! ### What is read back -/

/-- **Built view.** A view that has a method and a target and no fields yet; perhaps the query, the
authority and the body have been given as well. -/
inductive Built : RequestView → Prop where
  | new (method path : String) : Built { method, path }
  | ofTarget (method target : String) : Built (ofTarget method target)
  | query {v : RequestView} (hv : Built v) (query : String) : Built { v with query := some query }
  | authority {v : RequestView} (hv : Built v) (authority : String) :
      Built { v with explicitAuthority := some authority }
  | body {v : RequestView} (hv : Built v) (body : List UInt8) : Built { v with body }

theorem Built.headers_eq_nil (h : Built v) : v.headers = [] ∧ v.unreadable = [] := by
  induction h with
  | new method path => exact ⟨rfl, rfl⟩
  | ofTarget method target =>
    -- with or without a query in the target, no header is written yet
    unfold RequestView.ofTarget
    dsimp only
    split <;> exact ⟨rfl, rfl⟩
  | query _ _ ih => exact ih
  | authority _ _ ih => exact ih
  | body _ _ ih => exact ih

/-- Calls leave alone what is no field. -/
theorem explicitAuthority_after (v : RequestView) (calls : List Call) :
    (v.after calls).explicitAuthority = v.explicitAuthority := by
  induction calls using List.reverseRecOn with
  | nil => rfl
  | append_singleton calls c ih =>
    rw [after_concat, (Call.agreeOff_apply _ c).explicitAuthority, ih]

/-- **The fields are a multimap** that does not look at the case of names, with a mark for
unreadable values.

* Names are kept in lower case.
* The values of a field are those given since it was last reset, in order; it is unreadable if that
  was recorded since then; it is there if it has a value or is unreadable.
* What is listed is what survives, in order.
* A call changes no other field, and neither the method, the path, the query and the body. It
  changes the authority only if none was given and it is for the host, and then the authority is the
  first value of the host. -/
theorem multimap (hv : Built v) (calls : List Call) :
    ((∀ h ∈ (v.after calls).headers, h.1.text.toLower = h.1.text)
      ∧ ∀ n ∈ (v.after calls).unreadable, n.text.toLower = n.text)
    ∧ (∀ field, (v.after calls).headerValues (.ofString field)
        = (sinceReset field calls).filterMap (Call.given field)
      ∧ (v.after calls).isUnreadable (.ofString field)
        = (sinceReset field calls).any (Call.marks field)
      ∧ ((v.after calls).hasHeader (.ofString field) = true
        ↔ (v.after calls).headerValues (.ofString field) ≠ []
          ∨ (v.after calls).isUnreadable (.ofString field) = true))
    ∧ (v.after calls).pairs = surviving calls
    ∧ (v.after calls).authority
      = (v.explicitAuthority <|> ((sinceReset "host" calls).filterMap (Call.given "host")).head?)
    ∧ ∀ c : Call, (v.after calls).AgreeOff [.ofString c.name] (c.apply (v.after calls))
      ∧ (∀ field, ¬ c.isFor field = true →
        (c.apply (v.after calls)).hasHeader (.ofString field)
          = (v.after calls).hasHeader (.ofString field))
      ∧ (c.name.toLower ≠ "host" ∨ v.explicitAuthority ≠ none →
        (c.apply (v.after calls)).authority = (v.after calls).authority) := by
  obtain ⟨hheaders, hunreadable⟩ := hv.headers_eq_nil
  refine ⟨⟨fun h _ => h.1.lower, fun n _ => n.lower⟩, fun field => ⟨?_, ?_, ?_⟩,
    pairs_after hheaders calls,
    ?_, fun c => ⟨Call.agreeOff_apply _ c, fun field hother => ?_, fun hauthority => ?_⟩⟩
  · exact headerValues_after hheaders calls field
  · exact isUnreadable_after hunreadable calls field
  · exact hasHeader_eq_true_iff _ _
  · rw [authority, explicitAuthority_after, FieldName.host, headerValues_after hheaders]
  · exact (Call.agreeOff_apply _ c).hasHeader (Call.ofString_not_mem hother)
  · -- a call for another field than the host leaves the authority alone
    have hagree := Call.agreeOff_apply (v.after calls) c
    rcases hauthority with hname | hgiven
    · refine hagree.authority fun hmem => hname ?_
      have hhost := FieldName.ofString_eq_ofString_iff.1 (List.mem_singleton.1 hmem)
      exact hhost.symm.trans (Text.toLower_eq (by decide))
    · -- the authority that was given hides the host
      obtain ⟨a, ha⟩ := Option.ne_none_iff_exists'.1 hgiven
      rw [authority, authority, hagree.explicitAuthority, explicitAuthority_after, ha]
      rfl

/-- The second value of a field is set in place of the first one, and a third one is appended. -/
theorem multimap_appended :
    Built { method := "GET", path := "/" }
      ∧ headerValues (after { method := "GET", path := "/" }
          [.append "X-A" "1", .appendUnreadable "x-a", .set "x-A" "2", .append "X-a" "3"])
        (.ofString "x-a") = ["2", "3"] := by
  have hname : "x-a".toLower = "x-a" := Text.toLower_eq (by decide)
  have hset : "x-A".toLower = "x-a" := Text.toLower_eq (by decide)
  have happend : "X-a".toLower = "x-a" := Text.toLower_eq (by decide)
  obtain ⟨-, hfields, -⟩ := multimap (.new "GET" "/")
    [.append "X-A" "1", .appendUnreadable "x-a", .set "x-A" "2", .append "X-a" "3"]
  -- the call that sets the field discards what the two before it did
  refine ⟨.new "GET" "/", (hfields "x-a").1.trans ?_⟩
  simp [sinceReset, Call.resets, Call.given, Call.isFor, Call.name, Call.isReset, Call.value?,
    hname, hset, happend]

/-- **The authority is not apart** from the fields: a call for the host changes it. -/
theorem not_authority_eq :
    ¬ ∀ v, Built v → ∀ (calls : List Call) (c : Call),
      (c.apply (v.after calls)).authority = (v.after calls).authority := by
  intro h
  have hhost : FieldName.ofString "Host" = .host := by
    refine FieldName.ofString_eq_ofString_iff.2 ?_
    exact (Text.toLower_eq (by decide) : "Host".toLower = "host").trans
      (Text.toLower_eq (by decide) : "host".toLower = "host").symm
  have heq := h { method := "GET", path := "/" } (.new "GET" "/") [] (.append "Host" "example.com")
  -- without the call there is no authority, and with it there is the host
  rw [Call.apply, hhost, authority, headerValues_appendHeader, if_pos rfl] at heq
  cases heq

end RequestView

end MessageSignatures
