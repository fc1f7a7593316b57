import MessageSignatures.Base64
import MessageSignatures.StructuredField

/-!
# Writing structured fields

The one text in which a value is sent. Whatever spaces a text came with, `Member.text` puts a single
space between the items of an inner list and none elsewhere.

* **Strings** put a backslash before quotes and backslashes (`quoted`).
* **Decimals** keep the digits after the point, but a fraction of zeros is written as one zero.
* **Parameters** that are true are written without a value.

`BareItem.describe` is another notation, for messages about an item that has the wrong kind: it
names the kind and shows the value.
-/

namespace MessageSignatures

namespace StructuredField

/-- The characters of a string as it stands between quotes. -/
def escape : List Char → List Char
  | [] => []
  | c :: cs => if c == '"' || c == '\\' then '\\' :: c :: escape cs else c :: escape cs

/-- **String.** The text between quotes. -/
def quoted (s : String) : String :=
  "\"" ++ String.ofList (escape s.toList) ++ "\""

/-- **Octets.** Base64 between colons. -/
def octetsText (bs : List UInt8) : String :=
  ":" ++ Base64.encode bs ++ ":"

namespace Decimal

/-- The digits after the point. -/
def fractionDigits (d : Decimal) : String :=
  let digits := (d.coefficient % Nat.pow 10 d.scale).repr
  String.ofList (List.replicate (d.scale - digits.length) '0') ++ digits

/-- Sign and digits before the point. -/
def wholeText (d : Decimal) : String :=
  (if d.negative then "-" else "") ++ (d.coefficient / Nat.pow 10 d.scale).repr

/-- The decimal with every digit after the point that it was read with. -/
def fullText (d : Decimal) : String :=
  d.wholeText ++ "." ++ d.fractionDigits

/-- **Decimal.** A fraction of zeros is written as one zero. -/
def text (d : Decimal) : String :=
  if d.coefficient % Nat.pow 10 d.scale = 0 then d.wholeText ++ ".0" else d.fullText

end Decimal

/-- **Integer.** -/
def integerText (n : Int) : String :=
  if n < 0 then "-" ++ n.natAbs.repr else n.natAbs.repr

namespace BareItem

/-- **Bare item.** -/
def text : BareItem → String
  | integer n => integerText n
  | decimal d => d.text
  | string s => quoted s
  | token s => s
  | octets bs => octetsText bs
  | boolean true => "?1"
  | boolean false => "?0"

/-- A notation for messages: the kind of the item and its value. -/
def describe : BareItem → String
  | integer n => "Integer(" ++ integerText n ++ ")"
  | decimal d => "Decimal(" ++ d.fullText ++ ")"
  | string s => "String(" ++ quoted s ++ ")"
  | token s => "Token(\"" ++ s ++ "\")"
  | octets bs => "ByteSeq([" ++ ", ".intercalate (bs.map fun b => b.toNat.repr) ++ "])"
  | boolean true => "Boolean(true)"
  | boolean false => "Boolean(false)"

end BareItem

/-- One parameter. -/
def parameterText (name : String) (value : BareItem) : String :=
  if value = .boolean true then ";" ++ name else ";" ++ name ++ "=" ++ value.text

/-- **Parameters.** -/
def parametersText (params : Parameters) : String :=
  String.join (params.entries.map fun p => parameterText p.1 p.2)

/-- **Item.** -/
def Item.text (i : Item) : String :=
  i.bare.text ++ parametersText i.parameters

/-- **Member.** -/
def Member.text : Member → String
  | item i => i.text
  | innerList items params =>
    "(" ++ " ".intercalate (items.map Item.text) ++ ")" ++ parametersText params

end StructuredField

end MessageSignatures
