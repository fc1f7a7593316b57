import MessageSignatures.Octets

/-!
# DER elements

The distinguished encoding in which key material comes: a tag, the length of the content, the
content.

* `element?` reads one element off the front of an octet string, `elements?` a whole content as a
  list of elements. Nothing may be left over and every length is written in the fewest octets.
* `natural?`, `arcs?` and `BitString.ofContent` read the contents of numbers, object identifiers and
  bit strings.

An element takes at least two octets (`length_of_element?`), so reading a content comes to an end.
-/

namespace MessageSignatures

namespace Der

/-- **Element.** A tag and a content. -/
structure Element where
  tag : UInt8
  content : List UInt8
deriving DecidableEq

namespace Tag

/-- A number. -/
def integer : UInt8 := 0x02

/-- A string of bits. -/
def bitString : UInt8 := 0x03

/-- A string of octets. -/
def octetString : UInt8 := 0x04

/-- Nothing. -/
def null : UInt8 := 0x05

/-- An object identifier. -/
def objectId : UInt8 := 0x06

/-- A sequence of elements. -/
def sequence : UInt8 := 0x30

/-- An element that has this number in its context and holds other elements. -/
def constructed (number : UInt8) : UInt8 := 0xA0 + number

/-- An element that has this number in its context and holds no other elements. -/
def primitive (number : UInt8) : UInt8 := 0x80 + number

/-- The universal types that are known. -/
def universal : List UInt8 :=
  [0x01, 0x02, 0x03, 0x04, 0x05, 0x06, 0x09, 0x0A, 0x0C, 0x12, 0x13, 0x14, 0x15, 0x16, 0x17,
  0x18, 0x1A, 0x1E, 0x30, 0x31]

/-- Whether an octet is a tag. The number 31, which announces a longer tag, is not supported. -/
def isTag (b : UInt8) : Bool :=
  universal.contains b || (0x40 ≤ b && b % 0x20 != 0x1F)

/-- Whether a tag means something in its context only. -/
def isContextual (tag : UInt8) : Bool :=
  0x80 ≤ tag && tag < 0xC0

/-- Whether an element with a tag holds other elements. -/
def isConstructed (tag : UInt8) : Bool :=
  tag &&& 0x20 != 0

/-- The number of a tag. -/
def number (tag : UInt8) : UInt8 :=
  tag % 0x20

end Tag

/-- **Length.** One octet if it is less than 128, else the number of its octets, four at most, and
these. There is no shorter way to write it. -/
def length? : List UInt8 → Option (Nat × List UInt8)
  | [] => none
  | b :: rest =>
    if b < 0x80 then some (b.toNat, rest)
    else
      let count := b.toNat - 0x80
      let n := Octets.toNat (rest.take count)
      -- fewer octets, or one octet, would do for a smaller number
      if count ≤ 4 && count ≤ rest.length && 0x80 ≤ n && Octets.sizeOf n == count then
        some (n, rest.drop count)
      else none

/-- **One element** off the front of an octet string. -/
def element? : List UInt8 → Option (Element × List UInt8)
  | [] => none
  | tag :: rest =>
    if Tag.isTag tag then
      match length? rest with
      | some (n, rest) => if n ≤ rest.length then some (⟨tag, rest.take n⟩, rest.drop n) else none
      | none => none
    else none

theorem length_of_length? {bs rest : List UInt8} {n : Nat} (h : length? bs = some (n, rest)) :
    rest.length < bs.length := by
  cases bs with
  | nil => cases h
  | cons b bs =>
    simp only [length?] at h
    split at h
    · simp only [Option.some.injEq, Prod.mk.injEq] at h
      obtain ⟨-, rfl⟩ := h
      simp
    · split at h
      · simp only [Option.some.injEq, Prod.mk.injEq] at h
        obtain ⟨-, rfl⟩ := h
        simp only [List.length_drop, List.length_cons]
        omega
      · cases h

/-- What is left after an element has two octets less, and its content less. -/
theorem length_of_element? {bs rest : List UInt8} {e : Element}
    (h : element? bs = some (e, rest)) : rest.length + e.content.length + 2 ≤ bs.length := by
  cases bs with
  | nil => cases h
  | cons b bs =>
    simp only [element?] at h
    split at h
    · split at h
      · next n tail hlen =>
        have := length_of_length? hlen
        split at h
        · simp only [Option.some.injEq, Prod.mk.injEq] at h
          obtain ⟨rfl, rfl⟩ := h
          simp only [List.length_drop, List.length_take, List.length_cons]
          omega
        · cases h
      · cases h
    · cases h

/-- **The elements** of a content. -/
def elements? (bs : List UInt8) : Option (List Element) :=
  if bs = [] then some []
  else
    match read : element? bs with
    | none => none
    | some (e, rest) =>
      have : rest.length < bs.length := by have := length_of_element? read; omega
      (elements? rest).map (e :: ·)
termination_by bs.length

namespace Element

/-- The content of an element, if it has a tag. -/
def contentOf? (e : Element) (tag : UInt8) : Option (List UInt8) :=
  if e.tag = tag then some e.content else none

/-- The elements in an element, if it has a tag. -/
def elementsOf? (e : Element) (tag : UInt8) : Option (List Element) :=
  (e.contentOf? tag).bind elements?

end Element

/-- **Whole.** The only element of an octet string. -/
def whole? (bs : List UInt8) : Option Element :=
  match element? bs with
  | some (e, []) => some e
  | _ => none

/-- **Number.** A content that denotes a number not less than zero, in the fewest octets. -/
def natural? : List UInt8 → Option Nat
  | [] => none
  | [b] => if b < 0x80 then some b.toNat else none
  | b :: c :: rest =>
    if b < 0x80 && (b != 0x00 || 0x80 ≤ c) then some (Octets.toNat (b :: c :: rest)) else none

/-- The arcs that octets of seven bits write, most significant first, where `arc` has been read of
the first in `count` octets. An arc has 32 bits. The fifth octet of an arc is its last and has four
bits only. -/
def arcsFrom? (arc count : Nat) : List UInt8 → Option (List Nat)
  | [] => if count = 0 then some [] else none
  | b :: rest =>
    let next := (arc * 128 + b.toNat % 128) % Nat.pow 2 32
    -- the highest bit of an octet tells that the arc goes on
    if 4 ≤ count && 0x10 ≤ b then none
    else if b < 0x80 then (arcsFrom? 0 0 rest).map (next :: ·)
    else arcsFrom? next (count + 1) rest

/-- **Object identifier.** The arcs of a content of 3 to 39 octets, of which the first holds two
arcs. -/
def arcs? : List UInt8 → Option (List Nat)
  | [] => none
  | b :: rest =>
    if 2 ≤ rest.length && rest.length < 39 && b < 120 then
      (arcsFrom? 0 0 rest).map fun arcs => b.toNat / 40 :: b.toNat % 40 :: arcs
    else none

/-- **Bit string.** Octets, of which the last has some bits that do not count. -/
structure BitString where
  unusedBits : UInt8
  octets : List UInt8
deriving DecidableEq

namespace BitString

/-- The bit string of a content. -/
def ofContent : List UInt8 → Option BitString
  | [] => none
  | unused :: octets =>
    if unused < 8 && (unused == 0 || octets != []) then some ⟨unused, octets⟩ else none

/-- The octets of a bit string that is made of whole ones. -/
def whole? (s : BitString) : Option (List UInt8) :=
  if s.unusedBits = 0 then some s.octets else none

end BitString

namespace Element

/-- The number that an element holds. -/
def natural? (e : Element) : Option Nat :=
  (e.contentOf? Tag.integer).bind Der.natural?

/-- The arcs of the object identifier that an element holds. -/
def arcs? (e : Element) : Option (List Nat) :=
  (e.contentOf? Tag.objectId).bind Der.arcs?

/-- The bit string that an element holds. -/
def bitString? (e : Element) : Option BitString :=
  (e.contentOf? Tag.bitString).bind BitString.ofContent

/-- The octets of the bit string that an element holds, if these are whole ones. -/
def wholeBits? (e : Element) : Option (List UInt8) :=
  e.bitString?.bind BitString.whole?

/-- Whether an element has a number in its context. -/
def hasNumber (e : Element) (number : UInt8) : Bool :=
  Tag.isContextual e.tag && Tag.number e.tag == number

/-- Whether an element has a number in its context that is lower. -/
def isBelow (e : Element) (number : UInt8) : Bool :=
  Tag.isContextual e.tag && Tag.number e.tag < number

end Element

/-- **Optional element.** The element with a number in its context, if it comes next, and what
follows. Elements with lower numbers are passed over. -/
def takeNumbered (number : UInt8) (es : List Element) : Option Element × List Element :=
  match es.dropWhile fun e => e.isBelow number with
  | [] => (none, [])
  | e :: rest => if e.hasNumber number then (some e, rest) else (none, e :: rest)

end Der

end MessageSignatures
