import MessageSignatures.StructuredField

/-!
# Field names

Names of header fields are compared without regard to case. `FieldName` keeps a name in lower case,
so that two names are one exactly when they are equal (`ofString_eq_ofString_iff`). Any text can
name a field of a request that a program puts together; the names that HTTP allows are the tokens
(`FieldName.isToken`).
-/

namespace MessageSignatures

/-- Folding a character to lower case once is enough. -/
theorem toLower_toLower (c : Char) : c.toLower.toLower = c.toLower := by
  unfold Char.toLower
  split
  · next h =>
    rw [dif_neg]
    rintro ⟨-, h2⟩
    simp only [UInt32.le_iff_toNat_le, UInt32.toNat_add, UInt32.toNat_sub] at h h2
    simp at h h2
    omega
  · rfl

/-- **Field name.** A text in lower case. -/
structure FieldName where
  text : String
  lower : text.toLower = text
deriving DecidableEq

namespace FieldName

/-- The field that a text names, whatever its case. -/
def ofString (s : String) : FieldName where
  text := s.toLower
  lower := by
    refine String.toList_inj.1 ?_
    change ((s.map Char.toLower).map Char.toLower).toList = (s.map Char.toLower).toList
    rw [String.toList_map, String.toList_map, List.map_map]
    exact List.map_congr_left fun c _ => toLower_toLower c

@[simp] theorem text_ofString (s : String) : (ofString s).text = s.toLower := rfl

@[simp] theorem ofString_text (n : FieldName) : ofString n.text = n := by
  obtain ⟨text, lower⟩ := n
  simp [ofString, lower]

/-- Two texts name one field exactly when they differ in case only. -/
theorem ofString_eq_ofString_iff {s t : String} :
    ofString s = ofString t ↔ s.toLower = t.toLower := by
  simp [ofString]

/-- **Tokens.** Whether HTTP allows the name. -/
def isToken (n : FieldName) : Bool :=
  n.text != "" && n.text.toList.all StructuredField.isTokenChar

/-- The field with the digest of the body. -/
def contentDigest : FieldName := ofString "content-digest"

/-- The field with the parameters of each signature. -/
def signatureInput : FieldName := ofString "signature-input"

/-- The field with the octets of each signature. -/
def signature : FieldName := ofString "signature"

/-- The field with the host and port that the request is for. -/
def host : FieldName := ofString "host"

end FieldName

end MessageSignatures
