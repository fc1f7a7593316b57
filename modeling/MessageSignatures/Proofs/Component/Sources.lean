import MessageSignatures.Proofs.Component
import MessageSignatures.Proofs.RequestView

/-!
# What a component is read from

A component is read from one field at most, its **source** (`RequestView.source?`), and on requests
that agree off other fields it is resolved to the same value, or with the same fault
(`RequestView.AgreeOff.resolve`). The source of most components is told by their name. The authority
has one only where none was given, which is the host.

A field with an unreadable value has no canonical value, since a part of it has no text. So a
component that names the field is not resolved. The authority does not look at the record of
unreadable values: it takes the first value of the host that can be read, and there may have been
others (`RequestView.resolve_of_isUnreadable`, `RequestView.not_isUnreadable_of_resolve`).
-/

namespace MessageSignatures

namespace RequestView

variable {ns : List FieldName} {v w : RequestView}

/-- **Source.** The field that a component is read from. -/
def source? (v : RequestView) : ComponentId → Option FieldName
  | .derived .authority => if v.explicitAuthority = none then some .host else none
  | .derived _ => none
  | .contentDigest => some .contentDigest
  | .field n _ _ => some n

/-! ### Agreement off other fields -/

theorem AgreeOff.fieldValue (h : AgreeOff ns v w) {n : FieldName} (hn : n ∉ ns) :
    w.fieldValue n = v.fieldValue n := by
  unfold RequestView.fieldValue
  rw [h.isUnreadable n hn, h.headerValues n hn]

/-- **Components** that are taken from none of the fields have the same value, or the same fault.
The authority is taken from a field only if none was given. -/
theorem AgreeOff.componentValue_of_authority (h : AgreeOff ns v w) {id : ComponentId}
    (hauthority : id = .derived .authority → w.authority = v.authority)
    (hid : ∀ n ∈ ns, id.fieldName? ≠ some n) : w.componentValue id = v.componentValue id := by
  cases id with
  | derived d =>
    cases d with
    | method => exact congrArg (fun m : String => Except.ok m.toUpper) h.method
    | path => exact congrArg Except.ok h.path
    | query => exact congrArg (fun q : Option String => Except.ok ("?" ++ q.getD "")) h.query
    | authority =>
      change w.derivedValue .authority = v.derivedValue .authority
      rw [derivedValue, derivedValue, hauthority rfl]
  | contentDigest => exact h.fieldValue fun hn => hid _ hn rfl
  | field n token other => exact h.fieldValue fun hn => hid _ hn rfl

theorem AgreeOff.componentValue (h : AgreeOff ns v w) (hhost : .host ∉ ns) {id : ComponentId}
    (hid : ∀ n ∈ ns, id.fieldName? ≠ some n) : w.componentValue id = v.componentValue id :=
  h.componentValue_of_authority (fun _ => h.authority hhost) hid

/-- A component that names a field has the field as its source. -/
theorem source?_of_fieldName? {id : ComponentId} {n : FieldName} (h : id.fieldName? = some n) :
    v.source? id = some n := by
  cases id with
  | derived d => cases h
  | contentDigest => exact h
  | field m token other => exact h

/-- **Nothing but its source** is read for a component. -/
theorem AgreeOff.resolve (h : AgreeOff ns v w) {id : ComponentId}
    (hsource : ∀ n ∈ ns, v.source? id ≠ some n) : w.resolve id = v.resolve id := by
  -- a field is its own source
  have hfield : ∀ n ∈ ns, id.fieldName? ≠ some n := fun n hn hname =>
    hsource n hn (source?_of_fieldName? hname)
  have hauthority : id = .derived .authority → w.authority = v.authority := by
    rintro rfl
    -- the host is the source of the authority exactly if none was given
    by_cases hgiven : v.explicitAuthority = none
    · exact h.authority fun hhost => hsource _ hhost (if_pos hgiven)
    · obtain ⟨a, ha⟩ := Option.ne_none_iff_exists'.1 hgiven
      rw [RequestView.authority, RequestView.authority, h.explicitAuthority, ha]
      rfl
  rw [RequestView.resolve, RequestView.resolve, h.componentValue_of_authority hauthority hfield]

/-! ### Unreadable sources -/

theorem fieldValue_of_isUnreadable {n : FieldName} (h : v.isUnreadable n = true) :
    v.fieldValue n = .error (.unreadableComponent n.text) := by
  rw [fieldValue, if_pos h]

/-- Where no authority was given, it is the first value of the host that can be read. -/
theorem derivedValue_authority (h : v.explicitAuthority = none) :
    v.derivedValue .authority
      = (v.headerValues .host).head?.elim (.error (.missingComponent "@authority"))
        (fun host => .ok host.toLower) := by
  -- the host stands in where no authority was given
  have hhost : v.authority = (v.headerValues .host).head? := by
    rw [authority, h]
    rfl
  rw [derivedValue, hhost]
  cases (v.headerValues .host).head? <;> rfl

/-- **A component with an unreadable source** is not resolved, if it names the source; but the
authority is the first value of the host that can be read, and it is missing only if there is none.
What has another source or none at all is not concerned. -/
theorem resolve_of_isUnreadable (v : RequestView) (id : ComponentId) :
    (∀ w ns, v.AgreeOff ns w → (∀ n ∈ ns, v.source? id ≠ some n) → w.resolve id = v.resolve id)
    ∧ ∀ n, v.source? id = some n → v.isUnreadable n = true →
      (id ≠ .derived .authority → v.resolve id = .error (.unreadableComponent n.text))
      ∧ (id = .derived .authority → n = .host
        ∧ v.resolve id = (v.headerValues .host).head?.elim (.error (.missingComponent "@authority"))
          (fun host => .ok ⟨id, host.toLower⟩)) := by
  refine ⟨fun w ns h hsource => h.resolve hsource, fun n hsource hunreadable => ⟨fun hid => ?_, ?_⟩⟩
  · -- a field is refused with its name
    have hvalue : v.componentValue id = v.fieldValue n := by
      cases id with
      | derived d =>
        cases d with
        | authority => exact absurd rfl hid
        | _ => cases hsource
      | contentDigest => exact componentValue_eq_fieldValue hsource
      | field m token other => exact componentValue_eq_fieldValue hsource
    rw [resolve, hvalue, fieldValue_of_isUnreadable hunreadable]
    rfl
  · rintro rfl
    -- `@authority` has the host as its source only then
    have hgiven : v.explicitAuthority = none := by
      by_contra hgiven
      rw [source?, if_neg hgiven] at hsource
      cases hsource
    rw [source?, if_pos hgiven] at hsource
    refine ⟨(Option.some.inj hsource).symm, ?_⟩
    show (v.derivedValue .authority).map _ = _
    rw [derivedValue_authority hgiven]
    cases (v.headerValues .host).head? <;> rfl

/-! ### A host of which one line can be read -/

namespace TwoHosts

/-- A request with two lines for its host, of which one cannot be read. -/
def view : RequestView where
  method := "GET"
  path := "/"
  headers := [(.host, "a.example")]
  unreadable := [.host]

/-- The host as a component of its own. -/
def host : ComponentId :=
  .field .host
    (by
      rw [FieldName.isToken, FieldName.text_host]
      decide)
    (FieldName.ne_of_text_ne FieldName.text_host FieldName.text_contentDigest (by decide))

theorem isUnreadable_host : view.isUnreadable .host = true :=
  List.contains_iff_mem.2 List.mem_cons_self

theorem headerValues_host : view.headerValues .host = ["a.example"] := by
  unfold headerValues view
  rw [List.filter_cons, if_pos (beq_self_eq_true _)]
  rfl

end TwoHosts

open TwoHosts in
/-- The host is not resolved, and the authority is. -/
theorem resolve_two_hosts :
    view.source? host = some .host ∧ view.source? (.derived .authority) = some .host
      ∧ view.isUnreadable .host = true
      ∧ view.resolve host = .error (.unreadableComponent "host")
      ∧ view.resolve (.derived .authority) = .ok ⟨.derived .authority, "a.example"⟩ := by
  refine ⟨rfl, rfl, isUnreadable_host, ?_, ?_⟩
  · have hfield := ((resolve_of_isUnreadable view host).2 .host rfl isUnreadable_host).1 nofun
    rw [hfield, FieldName.text_host]
  · obtain ⟨-, hauthority⟩ :=
      ((resolve_of_isUnreadable view (.derived .authority)).2 .host rfl isUnreadable_host).2 rfl
    have hlower : "a.example".toLower = "a.example" := Text.toLower_eq (by decide)
    rw [hauthority, headerValues_host]
    exact congrArg (fun a => Except.ok (Component.mk _ a)) hlower

open TwoHosts in
/-- **An unreadable source** does not keep a component from being resolved: the authority is, from a
line of the host that can be read. -/
theorem not_isUnreadable_of_resolve :
    ¬ ∀ (v : RequestView) (id : ComponentId) (k : Component) (n : FieldName),
      v.resolve id = .ok k → v.source? id = some n → v.isUnreadable n = false := by
  intro h
  have hauthority : view.resolve (.derived .authority)
      = .ok ⟨.derived .authority, "a.example".toLower⟩ := by
    show (view.derivedValue .authority).map _ = _
    rw [derivedValue_authority rfl, headerValues_host]
    rfl
  have hreadable := h view (.derived .authority) _ .host hauthority rfl
  -- but the host is hidden as well
  rw [isUnreadable_host] at hreadable
  cases hreadable

end RequestView

end MessageSignatures
