import MessageSignatures.OrderedMap
import MessageSignatures.Text

/-!
# Structured fields

The values that structured header fields carry.

* A **bare item** is an integer, a decimal, a string, a token, an octet string or a boolean.
* An **item** is a bare item with parameters; an **inner list** is a list of items with parameters.
* A **list** is a list of members, a **dictionary** an ordered map to members, where a member is an
  item or an inner list.

`StructuredField.Parser` reads their text and `StructuredField.Printer` writes it.
-/

namespace MessageSignatures

namespace StructuredField

/-- **Decimal.** The number `± coefficient · 10 ^ (-scale)`. The scale is kept as it was read, so
`1.5` and `1.50` are two decimals, and so is the sign of zero. -/
structure Decimal where
  negative : Bool
  coefficient : Nat
  scale : Nat
deriving DecidableEq, Repr

/-- **Bare item.** A value without parameters. -/
inductive BareItem where
  | integer (value : Int)
  | decimal (value : Decimal)
  | string (value : String)
  | token (value : String)
  | octets (value : List UInt8)
  | boolean (value : Bool)
deriving DecidableEq

/-- **Parameters**, in order. -/
abbrev Parameters := OrderedMap BareItem

/-- **Item.** A bare item with its parameters. -/
structure Item where
  bare : BareItem
  parameters : Parameters
deriving DecidableEq

/-- **Member** of a list or a dictionary. -/
inductive Member where
  | item (value : Item)
  | innerList (items : List Item) (parameters : Parameters)
deriving DecidableEq

/-- **Dictionary**, in order. -/
abbrev Dictionary := OrderedMap Member

/-- Lower-case ASCII letters. -/
def isLowerChar (c : Char) : Bool :=
  'a' ≤ c && c ≤ 'z'

/-- Upper-case ASCII letters. -/
def isUpperChar (c : Char) : Bool :=
  'A' ≤ c && c ≤ 'Z'

/-- The characters of a field name and of an HTTP token: letters, digits and fifteen signs. -/
def isTokenChar (c : Char) : Bool :=
  isLowerChar c || isUpperChar c || c.isDigit || "!#$%&'*+-.^_`|~".toList.contains c

/-- The characters with which a key can begin. -/
def isKeyStart (c : Char) : Bool :=
  isLowerChar c || c == '*'

/-- The characters with which a key can go on. -/
def isKeyChar (c : Char) : Bool :=
  isLowerChar c || c.isDigit || c == '_' || c == '-' || c == '.' || c == '*'

/-- **Key.** Whether a text can name a parameter or a dictionary member. -/
def isKey (s : String) : Bool :=
  match s.toList with
  | [] => false
  | c :: cs => isKeyStart c && cs.all isKeyChar

end StructuredField

end MessageSignatures
