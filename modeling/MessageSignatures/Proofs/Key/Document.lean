import MessageSignatures.Key.Information
import MessageSignatures.Proofs.Der

/-!
# Documents that are written

How private key information is written with elements that are short: the version, the algorithm
identifier, and the key (`PrivateKeyInfo.octets`). Whatever key is written, it is read again
(`PrivateKeyInfo.ofDer_octets`), for the reader of the information leaves the key to the readers of
the kinds.
-/

namespace MessageSignatures

open Der (Element)

namespace AlgorithmId

variable {i : AlgorithmId}

/-- The elements of an algorithm identifier. -/
def elements (i : AlgorithmId) : List Element :=
  ⟨Der.Tag.objectId, i.octets⟩ :: i.parameters.toList

/-- **Spelling** of an algorithm identifier. -/
def element (i : AlgorithmId) : Element :=
  ⟨Der.Tag.sequence, i.elements.flatMap Element.octets⟩

/-- **Short identifier.** Its octets write its arcs, and nothing in it is long. -/
structure IsShort (i : AlgorithmId) : Prop where
  arcs_eq : Der.arcs? i.octets = some i.arcs
  elements : ∀ e ∈ i.elements, e.IsShort
  element : i.element.IsShort

theorem ofElement_element (h : i.IsShort) : ofElement i.element = some i := by
  have hread : i.element.elementsOf? Der.Tag.sequence = some i.elements :=
    Der.elementsOf?_octets h.elements
  have harcs : (⟨Der.Tag.objectId, i.octets⟩ : Element).arcs? = some i.arcs := h.arcs_eq
  refine Option.bind_eq_some_iff.2 ⟨_, hread, ?_⟩
  obtain ⟨octets, arcs, parameters⟩ := i
  -- the parameters may be left out
  cases parameters with
  | none => exact Option.bind_eq_some_iff.2 ⟨arcs, harcs, rfl⟩
  | some parameters => exact Option.bind_eq_some_iff.2 ⟨arcs, harcs, rfl⟩

end AlgorithmId

namespace PrivateKeyInfo

variable {info : PrivateKeyInfo}

/-- The elements of private key information of version 0. -/
def elements (info : PrivateKeyInfo) : List Element :=
  [⟨Der.Tag.integer, [0]⟩, info.algorithm.element, ⟨Der.Tag.octetString, info.key⟩]

/-- The document as one element. -/
def element (info : PrivateKeyInfo) : Element :=
  ⟨Der.Tag.sequence, info.elements.flatMap Element.octets⟩

/-- **Spelling** of private key information. -/
def octets (info : PrivateKeyInfo) : List UInt8 :=
  info.element.octets

theorem length_content_element (info : PrivateKeyInfo) :
    info.element.content.length = info.algorithm.element.content.length + info.key.length + 7 := by
  simp only [element, elements, List.flatMap_cons, List.flatMap_nil, List.length_append,
    Element.octets, List.length_cons, List.length_nil]
  omega

/-- **What is written is read.** -/
theorem ofDer_octets (hid : info.algorithm.IsShort) (hlength : info.element.content.length < 0x80) :
    ofDer info.octets = some info := by
  -- the key is part of the document, hence short as well
  have hkey : info.key.length < 0x80 := by
    have := info.length_content_element
    omega
  have hshort : ∀ e ∈ info.elements, e.IsShort := by
    intro e he
    simp only [elements, List.mem_cons, List.not_mem_nil, or_false] at he
    rcases he with rfl | rfl | rfl
    · exact ⟨rfl, by decide⟩
    · exact hid.element
    · exact ⟨rfl, hkey⟩
  -- the document is one sequence of three short elements
  have hwhole : Der.whole? info.octets = some info.element :=
    (Der.whole?_eq_some_iff hlength).2 ⟨rfl, rfl⟩
  have hread : info.element.elementsOf? Der.Tag.sequence = some info.elements :=
    Der.elementsOf?_octets hshort
  unfold ofDer
  refine Option.bind_eq_some_iff.2 ⟨_, hwhole, Option.bind_eq_some_iff.2 ⟨_, hread, ?_⟩⟩
  -- version, algorithm and key in their order
  refine Option.bind_eq_some_iff.2 ⟨0, rfl,
    Option.bind_eq_some_iff.2 ⟨_, AlgorithmId.ofElement_element hid, ?_⟩⟩
  exact Option.bind_eq_some_iff.2 ⟨info.key, rfl, rfl⟩

end PrivateKeyInfo

end MessageSignatures
