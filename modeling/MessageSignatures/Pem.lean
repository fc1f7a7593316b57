import MessageSignatures.Base64
import MessageSignatures.Der

/-!
# Text encoding of key material

A binary document as text: a line with a label, the document in base64, and a line with the label
again.

* **Before** the first line there may be other text, but no NUL. **After** the last line there is
  nothing.
* **Lines** in between have 64 symbols, except the last one, and end in a line feed, a carriage
  return, or both. An empty line may follow the last one, and another if the last one is full and
  without padding.
* **Labels** are made of words with one blank after each. The two labels have to agree.

`Pem.decode` gives the label with the document; `Pem.decodeSequence` demands that the document is a
sequence in DER. What the label should be is left to the reader.
-/

namespace MessageSignatures

namespace Pem

/-- The dashes around a boundary. -/
def dashes : List Char := "-----".toList

/-- What stands before the first label. -/
def opening : List Char := "-----BEGIN ".toList

/-- What stands before the second label. -/
def closing : List Char := "-----END ".toList

/-- The symbols in a line. -/
def lineLength : Nat := 64

/-- What follows a beginning that a text has to have. -/
def after? (beginning text : List Char) : Option (List Char) :=
  if beginning.isPrefixOf text then some (text.drop beginning.length) else none

/-- What follows the first opening that stands at the beginning of a line, where the text does not
begin a line itself. -/
def seekOpening? : List Char → Option (List Char)
  | [] => none
  | c :: cs =>
    if c.toNat = 0 then none
    else if c = '\n' then after? opening cs <|> seekOpening? cs
    else seekOpening? cs

/-- What follows the end of a line. -/
def afterLine? : List Char → Option (List Char)
  | '\r' :: '\n' :: cs => some cs
  | '\r' :: cs => some cs
  | '\n' :: cs => some cs
  | _ => none

/-- What stands before the end of a line, in text that is read backwards. -/
def beforeLine? : List Char → Option (List Char)
  | '\n' :: '\r' :: cs => some cs
  | '\r' :: cs => some cs
  | '\n' :: cs => some cs
  | _ => none

/-- The characters of words in a label. -/
def isLabelChar (c : Char) : Bool :=
  0x21 ≤ c.toNat && c.toNat ≤ 0x7E && c != '-'

/-- The label before a dash, and the text from the dash on. -/
def readLabel? (blankAllowed : Bool) : List Char → Option (List Char × List Char)
  | [] => some ([], [])
  | c :: cs =>
    if c = '-' then some ([], c :: cs)
    else if isLabelChar c then (readLabel? true cs).map fun r => (c :: r.1, r.2)
    else if blankAllowed && (c == ' ' || c == '\t') then
      (readLabel? false cs).map fun r => (c :: r.1, r.2)
    else none

theorem length_of_afterLine? {cs rest : List Char} (h : afterLine? cs = some rest) :
    rest.length < cs.length := by
  unfold afterLine? at h
  split at h <;> simp only [Option.some.injEq, reduceCtorEq] at h
  all_goals subst h; simp only [List.length_cons]; omega

/-- The symbols of lines. Padding ends the text, so a full line that has some is followed by no more
than its own end. -/
def joinLines? (cs : List Char) : Option (List Char) :=
  if cs.length ≤ lineLength then
    -- one more end of line may stand before the last boundary
    some ((beforeLine? cs.reverse).elim cs List.reverse)
  else
    match next : afterLine? (cs.drop lineLength) with
    | none => none
    | some rest =>
      have : rest.length < cs.length := by
        have := length_of_afterLine? next
        simp only [List.length_drop] at this
        omega
      let line := cs.take lineLength
      if line.contains '=' && !rest.isEmpty then none else (joinLines? rest).map (line ++ ·)
termination_by cs.length

/-- The lines between the boundaries, where `text` follows the first line and is read backwards. -/
def enclosed? (label text : List Char) : Option (List Char) := do
  -- one end of line may follow the last boundary, and one has to come before it
  let text ← after? dashes ((beforeLine? text).getD text)
  let text ← after? label.reverse text
  let text ← after? closing.reverse text
  let text ← beforeLine? text
  return text.reverse

/-- **Reading.** The label and the document. -/
def decode (s : String) : Option (String × List UInt8) := do
  let text := s.toList
  -- from here on each step takes what it reads off the front
  let text ← after? opening text <|> seekOpening? text
  let (label, text) ← readLabel? false text
  let text ← after? dashes text
  let text ← afterLine? text
  -- the last line is read from the end, so that nothing can follow it
  let lines ← enclosed? label text.reverse
  let symbols ← joinLines? lines
  let document ← Base64.decodeChars symbols
  return (String.ofList label, document)

/-- **Key material.** The label and the document, if that is one sequence of elements and no
more. -/
def decodeSequence (s : String) : Option (String × List UInt8) :=
  (decode s).filter fun r => ((Der.whole? r.2).bind (·.contentOf? Der.Tag.sequence)).isSome

end Pem

end MessageSignatures
