import MessageSignatures.Component
import MessageSignatures.RequestView

/-!
# Values of components

A component has a canonical value on a request.

* `@method` is in upper case, `@authority` in lower case, `@path` as it is. `@query` begins with a
  question mark even if the request has no query.
* A field is the list of its values, each without the white space around it, joined by a comma and a
  space. A field that has no value, or a value without text, has no canonical value.
-/

namespace MessageSignatures

/-- **Component.** An identifier with its canonical value. -/
structure Component where
  id : ComponentId
  value : String
deriving DecidableEq

/-- **Line** of a component in the signature base. An empty value still follows a space. -/
def Component.line (c : Component) : String :=
  c.id.text ++ ": " ++ c.value

namespace RequestView

/-- The value of a derived component. -/
def derivedValue (v : RequestView) : DerivedComponent → Except Error String
  | .method => .ok v.method.toUpper
  | .path => .ok v.path
  | .query => .ok ("?" ++ v.query.getD "")
  | .authority =>
    match v.authority with
    | some host => .ok host.toLower
    | none => .error (.missingComponent DerivedComponent.authority.name)

/-- The value of a field. -/
def fieldValue (v : RequestView) (n : FieldName) : Except Error String :=
  if v.isUnreadable n then .error (.unreadableComponent n.text)
  else
    match v.headerValues n with
    | [] => .error (.missingComponent n.text)
    | values => .ok (", ".intercalate (values.map Text.trim))

/-- The canonical value of a component. -/
def componentValue (v : RequestView) : ComponentId → Except Error String
  | .derived d => v.derivedValue d
  | .contentDigest => v.fieldValue .contentDigest
  | .field n _ _ => v.fieldValue n

/-- **Resolution** of an identifier on a request. -/
def resolve (v : RequestView) (id : ComponentId) : Except Error Component :=
  (v.componentValue id).map fun value => ⟨id, value⟩

end RequestView

end MessageSignatures
