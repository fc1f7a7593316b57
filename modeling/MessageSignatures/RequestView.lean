import MessageSignatures.FieldName

/-!
# The view of a request

What a signature can be about, apart from any transport: method, path, query, authority, header
fields and body.

* **Header fields** keep the order in which they were added. A name may stand several times.
* **Unreadable values.** A value that is not visible ASCII has no text to sign. Its field is
  recorded by name only, in `unreadable`: it counts as present but has no value from there.
* **Query.** It is kept without its question mark; no query and an empty query are told apart.

`setHeader` and `removeHeader` forget all that was recorded of a field, readable or not;
`appendHeader` and `appendUnreadable` add to it. What each of them does is told by what it does to
the values of every field (`headerValues_setHeader` and its like) and to the record of unreadable
ones (`isUnreadable_setHeader` and its like).
-/

namespace MessageSignatures

/-- **View of a request.** -/
structure RequestView where
  method : String
  path : String
  query : Option String := none
  explicitAuthority : Option String := none
  headers : List (FieldName × String) := []
  unreadable : List FieldName := []
  body : List UInt8 := []
deriving DecidableEq

namespace RequestView

/-- A request for a target such as `/foo?bar=1`: what follows the first question mark is the
query. -/
def ofTarget (method target : String) : RequestView :=
  let cs := target.toList
  match cs.dropWhile (· != '?') with
  | [] => { method, path := target }
  | _ :: query =>
    { method, path := String.ofList (cs.takeWhile (· != '?')), query := some (String.ofList query) }

/-- Append a value to a field. -/
def appendHeader (v : RequestView) (name : FieldName) (value : String) : RequestView :=
  { v with headers := v.headers ++ [(name, value)] }

/-- Record that a field has a value without text. -/
def appendUnreadable (v : RequestView) (name : FieldName) : RequestView :=
  if name ∈ v.unreadable then v else { v with unreadable := v.unreadable ++ [name] }

/-- Forget all values of a field. -/
def removeHeader (v : RequestView) (name : FieldName) : RequestView :=
  { v with
    headers := v.headers.filter fun h => h.1 != name
    unreadable := v.unreadable.filter fun n => n != name }

/-- Give a field one value in place of all it had. -/
def setHeader (v : RequestView) (name : FieldName) (value : String) : RequestView :=
  (v.removeHeader name).appendHeader name value

/-- The readable values of a field, in order. -/
def headerValues (v : RequestView) (name : FieldName) : List String :=
  (v.headers.filter fun h => h.1 == name).map Prod.snd

/-- Whether a field has a value without text. -/
def isUnreadable (v : RequestView) (name : FieldName) : Bool :=
  v.unreadable.contains name

/-- Whether a field is there at all. -/
def hasHeader (v : RequestView) (name : FieldName) : Bool :=
  v.headers.any (fun h => h.1 == name) || v.isUnreadable name

section Fields

variable (v : RequestView) (name other : FieldName) (value : String)

theorem headerValues_appendHeader :
    (v.appendHeader name value).headerValues other
      = if name = other then v.headerValues other ++ [value] else v.headerValues other := by
  by_cases h : name = other <;> simp [appendHeader, headerValues, List.filter_append, h]

@[simp] theorem headerValues_appendUnreadable :
    (v.appendUnreadable name).headerValues other = v.headerValues other := by
  unfold appendUnreadable
  split <;> rfl

theorem headerValues_removeHeader :
    (v.removeHeader name).headerValues other
      = if name = other then [] else v.headerValues other := by
  unfold removeHeader headerValues
  rw [List.filter_filter]
  split
  · next h =>
    subst h
    simp
  · next h =>
    congr 1
    refine List.filter_congr fun field _ => ?_
    by_cases hf : field.1 = other
    · simp [hf, Ne.symm h]
    · simp [hf]

theorem headerValues_setHeader :
    (v.setHeader name value).headerValues other
      = if name = other then [value] else v.headerValues other := by
  unfold setHeader
  rw [headerValues_appendHeader, headerValues_removeHeader]
  split <;> simp

@[simp] theorem isUnreadable_appendHeader :
    (v.appendHeader name value).isUnreadable other = v.isUnreadable other := rfl

theorem isUnreadable_appendUnreadable :
    (v.appendUnreadable name).isUnreadable other = (name == other || v.isUnreadable other) := by
  unfold appendUnreadable isUnreadable
  split
  · next h =>
    by_cases ho : name = other
    · subst ho
      simp [h]
    · simp [ho]
  · by_cases ho : name = other
    · simp [ho]
    · simp [ho, Ne.symm ho]

theorem isUnreadable_removeHeader :
    (v.removeHeader name).isUnreadable other = (name != other && v.isUnreadable other) := by
  unfold removeHeader isUnreadable
  by_cases ho : name = other
  · subst ho
    simp
  · simp [ho, Ne.symm ho]

theorem isUnreadable_setHeader :
    (v.setHeader name value).isUnreadable other = (name != other && v.isUnreadable other) := by
  simp [setHeader, isUnreadable_removeHeader]

/-- A field is there if it has a value, readable or not. -/
theorem hasHeader_eq_true_iff :
    v.hasHeader name = true ↔ v.headerValues name ≠ [] ∨ v.isUnreadable name = true := by
  simp [hasHeader, headerValues]

end Fields

/-- **Authority.** The one that was given, else the first readable host field. -/
def authority (v : RequestView) : Option String :=
  v.explicitAuthority <|> (v.headerValues .host).head?

end RequestView

end MessageSignatures
