import MessageSignatures.Proofs.Key.Binding

/-!
# The seed in an Ed25519 document

The key in an Ed25519 document is a document itself: one string of octets, which holds the 32 octets
of the seed (`PrivateKey.WrapsSeed`). The reader does not read it as one. It counts the octets and
passes over the first two.

* **What is read.** `PrivateKey.seedOf_eq_ok_iff` tells the contents that give a seed: two octets,
  whatever they are, and the seed. All wrapped seeds are among them
  (`PrivateKey.WrapsSeed.seedOf_eq`).
* **What is not told.** A content is a wrapped seed exactly if, in addition, the two octets are the
  tag and the length of that string (`PrivateKey.wrapsSeed_iff`), so a seed is wrapped in one way
  (`PrivateKey.WrapsSeed.content_eq`). As nobody looks at them, contents that differ there give the
  same key.

`PrivateKey.seed_of_document` says this of documents. Every content of 34 octets stands in one
(`Ed25519Document.ofDer_octets`), so the two octets make a difference that can occur.
-/

namespace MessageSignatures

open Der (Element)

namespace PrivateKey

variable {content content' seed : List UInt8}

/-! ### Wrapped seeds -/

/-- **Wrapped seed.** The content is one string of octets, and its content is the seed. -/
structure WrapsSeed (content seed : List UInt8) : Prop where
  whole : Der.whole? content = some ⟨Der.Tag.octetString, seed⟩
  length_eq : seed.length = 32

/-- The octets in front of a wrapped seed: the tag of a string of octets, and the length of the
seed. -/
def seedHeader : List UInt8 := [Der.Tag.octetString, 32]

theorem wrapsSeed_iff :
    WrapsSeed content seed ↔ content = seedHeader ++ seed ∧ seed.length = 32 := by
  -- a wrapping of 32 octets is short, so it is spelled in one way
  have hwhole (hlength : seed.length = 32) :
      Der.whole? content = some ⟨Der.Tag.octetString, seed⟩ ↔ content = seedHeader ++ seed := by
    have hshort : seed.length < 0x80 := by omega
    rw [Der.whole?_eq_some_iff (e := ⟨Der.Tag.octetString, seed⟩) hshort, Element.octets, hlength]
    exact and_iff_right rfl
  constructor
  · rintro ⟨h, hlength⟩
    exact ⟨(hwhole hlength).1 h, hlength⟩
  · rintro ⟨h, hlength⟩
    exact ⟨(hwhole hlength).2 h, hlength⟩

/-- A seed is wrapped in one way. -/
theorem WrapsSeed.content_eq (h : WrapsSeed content seed) (h' : WrapsSeed content' seed) :
    content = content' :=
  (wrapsSeed_iff.1 h).1.trans (wrapsSeed_iff.1 h').1.symm

/-! ### What is read -/

theorem seedOf_eq_ok_iff :
    seedOf content = .ok seed ↔ ∃ header, content = header ++ seed ∧ header.length = 2
      ∧ seed.length = 32 := by
  unfold seedOf
  constructor
  · intro h
    split at h
    · -- the two octets that are dropped are the header
      next hlength =>
      cases h
      refine ⟨content.take 2, (List.take_append_drop 2 content).symm, ?_, ?_⟩
      · rw [List.length_take, hlength]
        rfl
      · rw [List.length_drop, hlength]
    · cases h
  · rintro ⟨header, rfl, hheader, hseed⟩
    -- the header has two octets, so just the seed is left when two are dropped
    rw [if_pos (by rw [List.length_append, hheader, hseed]), ← hheader, List.drop_left]

theorem seedOf_eq_error_iff {fault : KeyFault} :
    seedOf content = .error fault ↔ fault = .wrongSeedLength ∧ content.length ≠ 34 := by
  unfold seedOf
  split
  · next hlength => exact ⟨nofun, fun h => absurd hlength h.2⟩
  · next hlength => exact ⟨fun h => ⟨(Except.error.inj h).symm, hlength⟩, fun h => by rw [h.1]⟩

theorem WrapsSeed.seedOf_eq (h : WrapsSeed content seed) : seedOf content = .ok seed := by
  obtain ⟨rfl, hlength⟩ := wrapsSeed_iff.1 h
  exact seedOf_eq_ok_iff.2 ⟨seedHeader, rfl, rfl, hlength⟩

/-- A content that is read holds a wrapped seed exactly if its first two octets say so. -/
theorem wrapsSeed_iff_of_seedOf (h : seedOf content = .ok seed) :
    WrapsSeed content seed ↔ content.take 2 = seedHeader := by
  obtain ⟨header, rfl, hheader, hseed⟩ := seedOf_eq_ok_iff.1 h
  rw [wrapsSeed_iff, ← hheader, List.take_left, List.append_left_inj]
  exact and_iff_left hseed

/-! ### Documents -/

section Documents

variable {bs bs' : List UInt8} {info info' : PrivateKeyInfo} {key : PrivateKey}

/-- **An Ed25519 document** is read as its content is. -/
theorem ofDer_of_ed25519 (hinfo : PrivateKeyInfo.ofDer bs = some info)
    (hkind : info.algorithm.arcs = KeyKind.ed25519.arcs) :
    ofDer .ed25519 bs = ((seedOf info.key).map ed25519).mapError .privateKey := by
  unfold ofDer ofInfo
  simp only [hinfo, AlgorithmId.kind?_eq_some_iff.2 hkind]
  rfl

theorem ofDer_ed25519_eq_ok_iff (hinfo : PrivateKeyInfo.ofDer bs = some info)
    (hkind : info.algorithm.arcs = KeyKind.ed25519.arcs) :
    ofDer .ed25519 bs = .ok key ↔ ∃ seed, seedOf info.key = .ok seed ∧ ed25519 seed = key := by
  rw [ofDer_of_ed25519 hinfo hkind, Fallible.mapError_eq_ok, Fallible.map_eq_ok]

theorem ofDer_ed25519_eq_error_iff (hinfo : PrivateKeyInfo.ofDer bs = some info)
    (hkind : info.algorithm.arcs = KeyKind.ed25519.arcs) {e : Error} :
    ofDer .ed25519 bs = .error e ↔ e = .privateKey .wrongSeedLength ∧ info.key.length ≠ 34 := by
  simp only [ofDer_of_ed25519 hinfo hkind, Fallible.mapError_eq_error, Fallible.map_eq_error,
    seedOf_eq_error_iff]
  constructor
  · rintro ⟨fault, ⟨rfl, hlength⟩, rfl⟩
    exact ⟨rfl, hlength⟩
  · rintro ⟨rfl, hlength⟩
    exact ⟨_, ⟨rfl, hlength⟩, rfl⟩

/-- **Wrapped seeds only** are read exactly where 34 octets begin as a wrapped seed does. -/
theorem wrapsSeed_of_ofDer_iff (hinfo : PrivateKeyInfo.ofDer bs = some info)
    (hkind : info.algorithm.arcs = KeyKind.ed25519.arcs) :
    (∀ key, ofDer .ed25519 bs = .ok key ↔ ∃ seed, WrapsSeed info.key seed ∧ ed25519 seed = key)
      ↔ (info.key.length = 34 → info.key.take 2 = seedHeader) := by
  -- the kind is that of the reader, so the seed decides
  have hread {key : PrivateKey} :
      ofDer .ed25519 bs = .ok key ↔ ∃ seed, seedOf info.key = .ok seed ∧ ed25519 seed = key :=
    ofDer_ed25519_eq_ok_iff hinfo hkind
  constructor
  · intro h hlength
    have hseed : seedOf info.key = .ok (info.key.drop 2) := if_pos hlength
    obtain ⟨seed, hwraps, heq⟩ := (h _).1 (hread.2 ⟨_, hseed, rfl⟩)
    cases heq
    exact (wrapsSeed_iff_of_seedOf hseed).1 hwraps
  · intro h key
    rw [hread]
    refine exists_congr fun seed => and_congr_left fun _ => ⟨fun hseed => ?_, WrapsSeed.seedOf_eq⟩
    -- only contents of 34 octets give a seed
    obtain ⟨header, hkey, hheader, hlength⟩ := seedOf_eq_ok_iff.1 hseed
    refine (wrapsSeed_iff_of_seedOf hseed).2 (h ?_)
    rw [hkey, List.length_append, hheader, hlength]

/-- **The same key** is read from two documents that agree from the third octet of their contents
on. -/
theorem key_eq_of_ofDer (hinfo : PrivateKeyInfo.ofDer bs = some info)
    (hkind : info.algorithm.arcs = KeyKind.ed25519.arcs)
    (hinfo' : PrivateKeyInfo.ofDer bs' = some info')
    (hkind' : info'.algorithm.arcs = KeyKind.ed25519.arcs) (h : ofDer .ed25519 bs = .ok key)
    (h' : ofDer .ed25519 bs' = .ok key) :
    info.key.drop 2 = info'.key.drop 2
      ∧ (info.key = info'.key ↔ info.key.take 2 = info'.key.take 2) := by
  obtain ⟨seed, hseed, rfl⟩ := (ofDer_ed25519_eq_ok_iff hinfo hkind).1 h
  obtain ⟨seed', hseed', heq⟩ := (ofDer_ed25519_eq_ok_iff hinfo' hkind').1 h'
  cases heq
  obtain ⟨header, hkey, hheader, -⟩ := seedOf_eq_ok_iff.1 hseed
  obtain ⟨header', hkey', hheader', -⟩ := seedOf_eq_ok_iff.1 hseed'
  have hdrop : (header ++ seed).drop 2 = (header' ++ seed).drop 2 := by
    rw [← hheader, List.drop_left, hheader, ← hheader', List.drop_left]
  rw [hkey, hkey']
  -- both contents end in the seed, so their first two octets tell them apart
  refine ⟨hdrop, congrArg _, fun htake => ?_⟩
  calc header ++ seed
    _ = (header ++ seed).take 2 ++ (header ++ seed).drop 2 := (List.take_append_drop 2 _).symm
    _ = (header' ++ seed).take 2 ++ (header' ++ seed).drop 2 := by rw [htake, hdrop]
    _ = header' ++ seed := List.take_append_drop 2 _

/-- **The seed in a document.** A wrapped seed is read. In general, a key is read exactly if 32
octets follow two others, whatever these are, and it has those as its seed; every other content is
refused for its length. Wrapped seeds are the only contents that are read exactly if 34 octets begin
as one. Two contents that give the same key may differ in the first two octets only. -/
theorem seed_of_document (hinfo : PrivateKeyInfo.ofDer bs = some info)
    (hkind : info.algorithm.arcs = KeyKind.ed25519.arcs) :
    (∀ seed, WrapsSeed info.key seed → ofDer .ed25519 bs = .ok (.ed25519 seed))
    ∧ (∀ key, ofDer .ed25519 bs = .ok key ↔ ∃ header seed, info.key = header ++ seed
        ∧ header.length = 2 ∧ seed.length = 32 ∧ key = .ed25519 seed)
    ∧ (∀ e, ofDer .ed25519 bs = .error e ↔ e = .privateKey .wrongSeedLength ∧ info.key.length ≠ 34)
    ∧ ((∀ key, ofDer .ed25519 bs = .ok key ↔ ∃ seed, WrapsSeed info.key seed ∧ ed25519 seed = key)
        ↔ (info.key.length = 34 → info.key.take 2 = seedHeader))
    ∧ ∀ bs' info' key, PrivateKeyInfo.ofDer bs' = some info' →
      info'.algorithm.arcs = KeyKind.ed25519.arcs →
        ofDer .ed25519 bs = .ok key → ofDer .ed25519 bs' = .ok key →
        info.key.drop 2 = info'.key.drop 2
          ∧ (info.key = info'.key ↔ info.key.take 2 = info'.key.take 2) := by
  have hread {key : PrivateKey} :
      ofDer .ed25519 bs = .ok key ↔ ∃ seed, seedOf info.key = .ok seed ∧ ed25519 seed = key :=
    ofDer_ed25519_eq_ok_iff hinfo hkind
  refine ⟨fun seed hwraps => hread.2 ⟨seed, hwraps.seedOf_eq, rfl⟩, fun key => ?_,
    fun e => ofDer_ed25519_eq_error_iff hinfo hkind, wrapsSeed_of_ofDer_iff hinfo hkind,
    fun bs' info' key hinfo' hkind' => key_eq_of_ofDer hinfo hkind hinfo' hkind'⟩
  -- the answer is the seed, whatever stands in front of it
  rw [hread]
  constructor
  · rintro ⟨seed, hseed, rfl⟩
    obtain ⟨header, hkey, hheader, hlength⟩ := seedOf_eq_ok_iff.1 hseed
    exact ⟨header, seed, hkey, hheader, hlength, rfl⟩
  · rintro ⟨header, seed, hkey, hheader, hlength, rfl⟩
    exact ⟨seed, seedOf_eq_ok_iff.2 ⟨header, hkey, hheader, hlength⟩, rfl⟩

end Documents

end PrivateKey

/-! ### Contents of 34 octets -/

namespace Ed25519Document

variable {content : List UInt8}

/-- The algorithm identifier of Ed25519 keys. -/
def algorithm : AlgorithmId :=
  ⟨[0x2B, 0x65, 0x70], KeyKind.ed25519.arcs, none⟩

/-- Key information with a content. -/
def info (content : List UInt8) : PrivateKeyInfo :=
  ⟨algorithm, content⟩

theorem isShort_algorithm : algorithm.IsShort := by
  refine ⟨by decide, fun e he => ?_, rfl, by decide⟩
  obtain rfl : e = ⟨Der.Tag.objectId, [0x2B, 0x65, 0x70]⟩ := List.mem_singleton.1 he
  exact ⟨rfl, by decide⟩

/-- **Any short content** stands in a document. -/
theorem ofDer_octets (h : content.length ≤ 100) :
    PrivateKeyInfo.ofDer (info content).octets = some (info content) := by
  refine PrivateKeyInfo.ofDer_octets isShort_algorithm ?_
  rw [PrivateKeyInfo.length_content_element]
  show 5 + content.length + 7 < 0x80
  omega

/-- A seed. -/
def seed : List UInt8 := List.replicate 32 7

end Ed25519Document

namespace PrivateKey

open Ed25519Document (info seed)

/-- A wrapped seed in a document is read. -/
theorem seed_of_document_wrapped :
    ofDer .ed25519 (info (seedHeader ++ seed)).octets = .ok (.ed25519 seed) :=
  (seed_of_document (Ed25519Document.ofDer_octets (by decide)) rfl).1 seed
    (wrapsSeed_iff.2 ⟨rfl, rfl⟩)

/-- **Two other octets** in front of a seed are no wrapped seed. The document is read all the same,
and gives the key that the wrapped seed gives. -/
theorem not_wrapsSeed_of_ofDer :
    ¬ ∀ bs info key, PrivateKeyInfo.ofDer bs = some info →
      info.algorithm.arcs = KeyKind.ed25519.arcs →
      ofDer .ed25519 bs = .ok key → ∃ seed, WrapsSeed info.key seed := by
  intro h
  -- the zeros in front are not looked at
  have hread : ofDer .ed25519 (info ([0, 0] ++ seed)).octets = .ok (.ed25519 seed) := by
    refine (ofDer_ed25519_eq_ok_iff (Ed25519Document.ofDer_octets (by decide)) rfl).2
      ⟨seed, ?_, rfl⟩
    exact seedOf_eq_ok_iff.2 ⟨[0, 0], rfl, rfl, rfl⟩
  obtain ⟨seed', hwraps⟩ := h _ _ _ (Ed25519Document.ofDer_octets (by decide)) rfl hread
  obtain ⟨hcontent, -⟩ := wrapsSeed_iff.1 hwraps
  cases hcontent

end PrivateKey

end MessageSignatures
