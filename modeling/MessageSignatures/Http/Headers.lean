import MessageSignatures.FieldName

/-!
# Header fields of an HTTP message

Names with values that are octet strings. A value that is visible ASCII throughout, blanks included,
is a text (`HeaderValue.text?`); other values are sent all the same. A name may stand several times,
and the order of its values counts.
-/

namespace MessageSignatures

namespace Http

/-- **Header value.** Some octets. -/
abbrev HeaderValue := List UInt8

namespace HeaderValue

/-- The octets of visible ASCII: tabs, and from space to tilde. -/
def isVisible (b : UInt8) : Bool :=
  b == 0x09 || (0x20 ≤ b && b < 0x7F)

/-- The text of a value, if it is one. -/
def text? (value : HeaderValue) : Option String :=
  if value.all isVisible then some (String.ofList (value.map fun b => Char.ofNat b.toNat)) else none

/-- The value of a text that is visible ASCII. -/
def ofText? (s : String) : Option HeaderValue :=
  let octets := Text.utf8 s
  if octets.all isVisible then some octets else none

end HeaderValue

/-- **Header fields**, in order. -/
abbrev Headers := List (FieldName × HeaderValue)

namespace Headers

/-- The values of a field, in order. -/
def valuesOf (hs : Headers) (name : FieldName) : List HeaderValue :=
  (hs.filter fun h => h.1 == name).map Prod.snd

/-- Whether a field is there. -/
def has (hs : Headers) (name : FieldName) : Bool :=
  hs.any fun h => h.1 == name

/-- Append a value to a field. -/
def add (hs : Headers) (name : FieldName) (value : HeaderValue) : Headers :=
  hs ++ [(name, value)]

/-- Remove a field. -/
def remove (hs : Headers) (name : FieldName) : Headers :=
  hs.filter fun h => h.1 != name

/-- Give a field one value in place of all it had. -/
def set (hs : Headers) (name : FieldName) (value : HeaderValue) : Headers :=
  (hs.remove name).add name value

theorem valuesOf_set (hs : Headers) (name other : FieldName) (value : HeaderValue) :
    (hs.set name value).valuesOf other = if name = other then [value] else hs.valuesOf other := by
  unfold set add remove valuesOf
  rw [List.filter_append, List.filter_filter]
  split
  · next h =>
    subst h
    simp
  · next h =>
    have kept : ∀ field ∈ hs, (field.1 == other && field.1 != name) = (field.1 == other) := by
      intro field _
      by_cases hf : field.1 = other
      · simp [hf, Ne.symm h]
      · simp [hf]
    rw [List.filter_congr kept]
    simp [h]

end Headers

end Http

end MessageSignatures
