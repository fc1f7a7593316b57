/-!
# Text of messages

The character classes and text operations that the fields of a request go through before they are
signed.

* **White space.** `isBlank` is the Unicode property `White_Space`; `trim` removes it from both
  ends. Trimming is not an ASCII operation: a no-break space around a field value goes too.
* **Case.** Case folding of field names and hosts is ASCII only, so it is `String.toLower` and
  `String.toUpper` of the standard library and needs nothing here.
* **Printable text.** `IsPrintable` is what fits in a structured-field string: the characters from
  space to tilde.
* **Octets.** `utf8` is the encoding in which text is hashed and signed.
-/

namespace MessageSignatures

namespace Text

/-- **White space.** The characters with the Unicode property `White_Space`. -/
def isBlank (c : Char) : Bool :=
  (0x09 ≤ c.toNat && c.toNat ≤ 0x0D) || c.toNat == 0x20 || c.toNat == 0x85 || c.toNat == 0xA0
    || c.toNat == 0x1680 || (0x2000 ≤ c.toNat && c.toNat ≤ 0x200A) || c.toNat == 0x2028
    || c.toNat == 0x2029 || c.toNat == 0x202F || c.toNat == 0x205F || c.toNat == 0x3000

/-- The characters of a text without the white space at either end. -/
def trimChars (cs : List Char) : List Char :=
  ((cs.dropWhile isBlank).reverse.dropWhile isBlank).reverse

/-- **Trimming.** The text without the white space at either end. -/
def trim (s : String) : String :=
  String.ofList (trimChars s.toList)

/-- Printable ASCII: from space to tilde. -/
def isPrintableChar (c : Char) : Bool :=
  0x20 ≤ c.toNat && c.toNat ≤ 0x7E

/-- **Printable text** holds printable ASCII only, which is what a structured-field string can
carry. -/
def isPrintable (s : String) : Bool :=
  s.toList.all isPrintableChar

/-- The characters of ASCII. -/
def isAsciiChar (c : Char) : Bool :=
  c.toNat < 0x80

/-- **Octets of a text**, in UTF-8. -/
def utf8 (s : String) : List UInt8 :=
  s.toByteArray.data.toList

/-- A text is determined by its octets. -/
theorem utf8_injective {s t : String} (h : utf8 s = utf8 t) : s = t := by
  unfold utf8 at h
  exact String.toByteArray_inj.1 (ByteArray.ext (Array.toList_inj.1 h))

end Text

end MessageSignatures
