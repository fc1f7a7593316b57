import Mathlib.Data.List.Induction
import Mathlib.Data.List.Nodup
import Mathlib.Tactic.Tauto
import MessageSignatures.Proofs.Component.Names

/-!
# Coverage

Two loops put a list of components together, and both append the identifiers of another list, one by
one, where they are not there yet. A signer that is built begins with nothing and takes in the
fields that it is configured for (`coverFields`); a signature begins with the head and takes in
those of them that the request has (`withHead`).

* **Additions.** What such a loop appends to its start is told by the list that it goes through
  (`Additions`): the identifiers that the start does not have, each of them once, ordered by where
  the list mentions them first. One more identifier keeps this true of one more step
  (`Additions.step`), and so it is true of all of them (`exists_additions`).
* **A closed form** of the same is `foldl_addComponent`. It shows at once that what has been added
  is not added again (`withHead_withHead`).
* **The head and more.** `withHead` gives the head and then the additions to it
  (`withHead_stable_union`).
* **Names.** The fields of a configuration are read from names. That succeeds if HTTP allows all of
  them (`exists_coverFields_iff`), and else the first other name is told
  (`coverFields_eq_error_iff`).
-/

namespace MessageSignatures

/-- **Additions.** What a list of identifiers adds to a start: those that the start does not have,
ordered by their first place in the list. None is added twice then (`Additions.nodup`). -/
structure Additions (start ids added : List ComponentId) : Prop where
  mem_iff : ∀ id, id ∈ added ↔ id ∈ ids ∧ id ∉ start
  inOrder : added.Pairwise fun a b => ids.idxOf a < ids.idxOf b

namespace Additions

variable {start ids added : List ComponentId}

theorem nil (start : List ComponentId) : Additions start [] [] :=
  ⟨by simp, .nil⟩

theorem nodup (h : Additions start ids added) : added.Nodup :=
  h.inOrder.imp fun hlt => ne_of_apply_ne ids.idxOf (Nat.ne_of_lt hlt)

/-- What is added is among the identifiers, so more of them leave its place as it is. -/
theorem inOrder_append (h : Additions start ids added) (more : List ComponentId) :
    added.Pairwise fun a b => (ids ++ more).idxOf a < (ids ++ more).idxOf b := by
  refine h.inOrder.imp_of_mem fun ha hb hlt => ?_
  rw [List.idxOf_append_of_mem ((h.mem_iff _).1 ha).1,
    List.idxOf_append_of_mem ((h.mem_iff _).1 hb).1]
  exact hlt

/-- An identifier that is there adds nothing. -/
theorem append_of_mem (h : Additions start ids added) {id : ComponentId}
    (hid : id ∈ start ++ added) :
    Additions start (ids ++ [id]) added := by
  refine ⟨fun other => ?_, h.inOrder_append [id]⟩
  -- the identifier has been gone through before, or was there at the start
  have hmem : id ∈ start ∨ id ∈ ids :=
    (List.mem_append.1 hid).imp_right fun hid => ((h.mem_iff id).1 hid).1
  rw [h.mem_iff, List.mem_append, List.mem_singleton]
  constructor
  · exact fun hother => ⟨.inl hother.1, hother.2⟩
  · rintro ⟨hother | rfl, hnew⟩
    · exact ⟨hother, hnew⟩
    · exact ⟨hmem.resolve_left hnew, hnew⟩

/-- An identifier that is not there is added at the end. -/
theorem append_of_not_mem (h : Additions start ids added) {id : ComponentId}
    (hid : id ∉ start ++ added) :
    Additions start (ids ++ [id]) (added ++ [id]) := by
  obtain ⟨hstart, hadded⟩ := not_or.1 (mt List.mem_append.2 hid)
  -- it is new to the identifiers as well, since those not added were there at the start
  have hids : id ∉ ids := fun hmem => hadded ((h.mem_iff id).2 ⟨hmem, hstart⟩)
  refine ⟨fun other => ?_,
    List.pairwise_append.2 ⟨h.inOrder_append [id], List.pairwise_singleton _ _, ?_⟩⟩
  · rw [List.mem_append, List.mem_append, List.mem_singleton, h.mem_iff]
    constructor
    · rintro (⟨hother, hnew⟩ | rfl)
      · exact ⟨.inl hother, hnew⟩
      · exact ⟨.inr rfl, hstart⟩
    · rintro ⟨hother | rfl, hnew⟩
      · exact .inl ⟨hother, hnew⟩
      · exact .inr rfl
  · -- it comes for the first time behind all that have been gone through
    intro a ha b hb
    obtain rfl := List.mem_singleton.1 hb
    have hmem := ((h.mem_iff a).1 ha).1
    rw [List.idxOf_append_of_mem hmem, List.idxOf_append_of_notMem hids]
    exact Nat.lt_of_lt_of_le (List.idxOf_lt_length_of_mem hmem) (Nat.le_add_right _ _)

/-- **Step.** One more identifier is added, or it is there. -/
theorem step (h : Additions start ids added) (id : ComponentId) :
    ∃ added', addComponent (start ++ added) id = start ++ added'
      ∧ Additions start (ids ++ [id]) added' := by
  unfold addComponent
  by_cases hid : id ∈ start ++ added
  · exact ⟨added, if_pos hid, h.append_of_mem hid⟩
  · exact ⟨added ++ [id], by rw [if_neg hid, List.append_assoc], h.append_of_not_mem hid⟩

end Additions

/-- **Run.** Adding identifiers one by one appends their additions. -/
theorem exists_additions (start ids : List ComponentId) :
    ∃ added, ids.foldl addComponent start = start ++ added ∧ Additions start ids added := by
  induction ids using List.reverseRecOn with
  | nil => exact ⟨[], (List.append_nil start).symm, .nil start⟩
  | append_singleton ids id ih =>
    obtain ⟨added, heq, hadded⟩ := ih
    rw [List.foldl_append, heq]
    exact hadded.step id

theorem mem_foldl_addComponent {covered ids : List ComponentId} {id : ComponentId} :
    id ∈ ids.foldl addComponent covered ↔ id ∈ covered ∨ id ∈ ids := by
  obtain ⟨added, heq, hadded⟩ := exists_additions covered ids
  rw [heq, List.mem_append, hadded.mem_iff]
  tauto

theorem nodup_foldl_addComponent {covered : List ComponentId} (h : covered.Nodup)
    (ids : List ComponentId) : (ids.foldl addComponent covered).Nodup := by
  obtain ⟨added, heq, hadded⟩ := exists_additions covered ids
  rw [heq]
  exact List.nodup_append'.2 ⟨h, hadded.nodup,
    fun id hid hmem => ((hadded.mem_iff id).1 hmem).2 hid⟩

/-! ### A closed form -/

/-- A list without repetitions has none to leave out. -/
theorem eraseDups_eq_self {ids : List ComponentId} (h : ids.Nodup) : ids.eraseDups = ids := by
  induction ids with
  | nil => rfl
  | cons id ids ih =>
    obtain ⟨hid, hnodup⟩ := List.nodup_cons.1 h
    -- nothing behind the identifier is equal to it
    have hfilter : ids.filter (fun other => !other == id) = ids := by
      refine List.filter_eq_self.2 fun other hother => ?_
      rw [Bool.not_eq_true', beq_eq_false_iff_ne]
      exact ne_of_mem_of_not_mem hother hid
    rw [List.eraseDups_cons, hfilter, ih hnodup]

/-- **Adding identifiers** appends those that are new, each at its first place. -/
theorem foldl_addComponent (covered ids : List ComponentId) :
    ids.foldl addComponent covered = covered ++ (ids.filter (· ∉ covered)).eraseDups := by
  induction ids generalizing covered with
  | nil => simp
  | cons id ids ih =>
    rw [List.foldl_cons, ih, addComponent]
    -- whether the identifier is there already decides what the first step adds
    by_cases hid : id ∈ covered
    · rw [if_pos hid, List.filter_cons_of_neg (by simpa using hid)]
    · rw [if_neg hid, List.filter_cons_of_pos (by simpa using hid), List.eraseDups_cons,
        List.filter_filter, List.append_assoc, List.singleton_append]
      -- what is new behind the identifier is neither covered nor the identifier again
      congr 3
      refine List.filter_congr fun other _ => ?_
      by_cases hother : other = id <;> simp [hother]

/-! ### The head and more -/

/-- **The head and the rest** are covered, and nothing else is. -/
theorem mem_withHead {ids : List ComponentId} {id : ComponentId} :
    id ∈ withHead ids ↔ id ∈ headComponents ∨ id ∈ ids :=
  mem_foldl_addComponent

theorem nodup_withHead (ids : List ComponentId) : (withHead ids).Nodup :=
  nodup_foldl_addComponent (by decide) ids

/-- **Once is enough.** The head comes first already, and behind it nothing is left out. -/
theorem withHead_withHead (ids : List ComponentId) : withHead (withHead ids) = withHead ids := by
  obtain ⟨added, heq, hadded⟩ := exists_additions headComponents ids
  have hhead : headComponents.filter (· ∉ headComponents) = [] := by decide
  have hnew : added.filter (· ∉ headComponents) = added :=
    List.filter_eq_self.2 fun id hid => decide_eq_true ((hadded.mem_iff id).1 hid).2
  have hsame : withHead ids = headComponents ++ added := heq
  rw [hsame, withHead, foldl_addComponent, List.filter_append, hhead, hnew, List.nil_append,
    eraseDups_eq_self hadded.nodup]

/-- Parameters are not refused for a repetition where there is none. -/
theorem SignatureParams.new_ne_repeatedComponent {covered : List ComponentId} (h : covered.Nodup)
    (created : Timestamp) (alg : Algorithm) (keyId : String) :
    SignatureParams.new covered created alg keyId ≠ .error (.params .repeatedComponent) := by
  unfold SignatureParams.new
  rw [if_neg (not_not.2 h)]
  split
  · exact fun hkeyId => nomatch hkeyId
  · exact fun hok => nomatch hok

/-- **The head, then what is new.** Whatever is repeated among the identifiers, and wherever
components of the head stand among them, the digest, query, path and method come first, and the
others follow in the order of their first mention. Nothing is lost, nothing stands twice, and a
second time changes nothing. So parameters that cover the result are not refused for a
repetition. -/
theorem withHead_stable_union (ids : List ComponentId) :
    (∃ added, withHead ids
        = [.contentDigest, .derived .query, .derived .path, .derived .method] ++ added
      ∧ Additions headComponents ids added)
    ∧ (withHead ids).Nodup
    ∧ (∀ id, id ∈ withHead ids ↔ id ∈ headComponents ∨ id ∈ ids)
    ∧ withHead (withHead ids) = withHead ids
    ∧ ∀ created alg keyId, SignatureParams.new (withHead ids) created alg keyId
      ≠ .error (.params .repeatedComponent) :=
  ⟨exists_additions headComponents ids, nodup_withHead ids, fun _ => mem_withHead,
    withHead_withHead ids, SignatureParams.new_ne_repeatedComponent (nodup_withHead ids)⟩

example : withHead [.derived .method, .derived .authority, .contentDigest, .derived .authority]
    = [.contentDigest, .derived .query, .derived .path, .derived .method, .derived .authority] := by
  decide

/-! ### Names of fields -/

/-- **Name of a field.** Less white space, HTTP allows it. -/
def IsFieldName (name : String) : Prop :=
  Text.trim name ≠ "" ∧ (Text.trim name).toList.all StructuredField.isTokenChar = true

/-- **Other names** are refused, and told as they would have been read. -/
theorem ComponentId.ofField_eq_error {name : String} {fault : ComponentFault} :
    ofField name = .error fault
      ↔ ¬ IsFieldName name ∧ fault = .invalidFieldName (normalName name) := by
  -- the one fault of a name is that it is not allowed
  have hfault {fault : ComponentFault} (h : ofField name = .error fault) :
      fault = .invalidFieldName (normalName name) := by
    simp only [ofField] at h
    split at h
    · cases h
    · split at h
      · cases h
      · exact (Except.error.inj h).symm
  constructor
  · refine fun h => ⟨fun hname => ?_, hfault h⟩
    obtain ⟨id, hid⟩ := exists_ofField_iff.2 hname
    rw [h] at hid
    cases hid
  · rintro ⟨hname, rfl⟩
    cases h : ofField name with
    | ok id => exact absurd (exists_ofField_iff.1 ⟨id, h⟩) hname
    | error fault => rw [hfault h]

/-- Fields that are read from names have the normal ones. -/
theorem ComponentId.map_name_of_mapM_ofField {names : List String} {ids : List ComponentId}
    (h : names.mapM ofField = .ok ids) : ids.map name = names.map normalName := by
  have hall := Fallible.mapM_eq_ok.1 h
  clear h
  induction hall with
  | nil => rfl
  | cons hid _ ih => rw [List.map_cons, List.map_cons, ih, name_of_ofField hid]

/-- **Names of fields** are read one by one, and what they name is added in their order. -/
theorem coverFields_eq (covered : List ComponentId) (names : List String) :
    coverFields covered names
      = ((names.mapM ComponentId.ofField).map (·.foldl addComponent covered)).mapError
          .componentId := by
  -- the step and the traversal take the names in the same order
  induction names generalizing covered with
  | nil => rfl
  | cons name names ih =>
    rw [coverFields, List.mapM_cons]
    cases ComponentId.ofField name with
    | error fault => rfl
    | ok id =>
      rw [Fallible.ok_bind]
      dsimp only
      rw [ih]
      cases names.mapM ComponentId.ofField <;> rfl

theorem coverFields_eq_ok {covered out : List ComponentId} {names : List String} :
    coverFields covered names = .ok out
      ↔ ∃ ids, names.mapM ComponentId.ofField = .ok ids ∧ ids.foldl addComponent covered = out := by
  rw [coverFields_eq, Fallible.mapError_eq_ok, Fallible.map_eq_ok]

theorem coverFields_eq_error {covered : List ComponentId} {names : List String} {e : Error} :
    coverFields covered names = .error e
      ↔ ∃ fault, names.mapM ComponentId.ofField = .error fault ∧ .componentId fault = e := by
  rw [coverFields_eq, Fallible.mapError_eq_error]
  simp only [Fallible.map_eq_error]

/-- **Fields are covered** if all of them have names that HTTP allows. -/
theorem exists_coverFields_iff {covered : List ComponentId} {names : List String} :
    (∃ out, coverFields covered names = .ok out) ↔ ∀ name ∈ names, IsFieldName name := by
  constructor
  · rintro ⟨out, h⟩ name hname
    obtain ⟨ids, hids, -⟩ := coverFields_eq_ok.1 h
    obtain ⟨id, -, hid⟩ := Fallible.exists_right_of_mem (Fallible.mapM_eq_ok.1 hids) hname
    exact ComponentId.exists_ofField_iff.1 ⟨id, hid⟩
  · intro h
    obtain ⟨ids, hids⟩ := Fallible.exists_mapM fun name hname =>
      ComponentId.exists_ofField_iff.2 (h name hname)
    exact ⟨_, coverFields_eq_ok.2 ⟨ids, hids, rfl⟩⟩

/-- **The first other name** is the fault. -/
theorem coverFields_eq_error_iff {covered : List ComponentId} {names : List String} {e : Error} :
    coverFields covered names = .error e ↔ ∃ before name after, names = before ++ name :: after
      ∧ (∀ other ∈ before, IsFieldName other) ∧ ¬ IsFieldName name
      ∧ e = .componentId (.invalidFieldName (ComponentId.normalName name)) := by
  rw [coverFields_eq_error]
  constructor
  · rintro ⟨fault, hfault, rfl⟩
    obtain ⟨before, name, after, hsplit, hbefore, hname⟩ := Fallible.mapM_eq_error.1 hfault
    obtain ⟨hnot, rfl⟩ := ComponentId.ofField_eq_error.1 hname
    exact ⟨before, name, after, hsplit,
      fun other hother => ComponentId.exists_ofField_iff.1 (hbefore other hother), hnot, rfl⟩
  · rintro ⟨before, name, after, hsplit, hbefore, hnot, rfl⟩
    exact ⟨_, Fallible.mapM_eq_error.2 ⟨before, name, after, hsplit,
      fun other hother => ComponentId.exists_ofField_iff.2 (hbefore other hother),
      ComponentId.ofField_eq_error.2 ⟨hnot, rfl⟩⟩, rfl⟩

end MessageSignatures
