import MessageSignatures.Octets

/-!
# The SHA-2 hash functions

SHA-256, SHA-384 and SHA-512. All three are one algorithm: a message is padded to whole blocks of
sixteen words, each block is expanded to a schedule of words, and one round per word mixes a state
of eight words. What differs is gathered in two records.

* `Family` fixes the width of a word, the round constants and the rotations: `narrow` has words of
  32 bits and `wide` words of 64 bits.
* The initial state and the number of octets kept make the function: `sha256`, `sha384`, `sha512`.

A digest has a fixed length (`length_sha256`, `length_sha384`, `length_sha512`).
-/

namespace MessageSignatures

namespace Sha2

variable {w : Nat}

/-- **State.** Eight words. -/
structure State (w : Nat) where
  a : BitVec w
  b : BitVec w
  c : BitVec w
  d : BitVec w
  e : BitVec w
  f : BitVec w
  g : BitVec w
  h : BitVec w

/-- **Family.** The round constants, one for each round, and the amounts of the four mixing
functions: `big0` and `big1` rotate by three amounts, `small0` and `small1` rotate by two and shift
by the third. -/
structure Family (w : Nat) where
  constants : List (BitVec w)
  big0 : Nat × Nat × Nat
  big1 : Nat × Nat × Nat
  small0 : Nat × Nat × Nat
  small1 : Nat × Nat × Nat

/-- Three rotations of a word, added without carry. -/
def rotations (amounts : Nat × Nat × Nat) (x : BitVec w) : BitVec w :=
  x.rotateRight amounts.1 ^^^ x.rotateRight amounts.2.1 ^^^ x.rotateRight amounts.2.2

/-- Two rotations and a shift of a word, added without carry. -/
def rotationsAndShift (amounts : Nat × Nat × Nat) (x : BitVec w) : BitVec w :=
  x.rotateRight amounts.1 ^^^ x.rotateRight amounts.2.1 ^^^ x >>> amounts.2.2

/-- Octets in a block: sixteen words. -/
def blockOctets (w : Nat) : Nat :=
  2 * w

/-- **Padding.** A one bit, zeros, and the length of the message in bits, up to whole blocks. -/
def pad (w : Nat) (message : List UInt8) : List UInt8 :=
  let used := message.length + 1 + w / 4
  let zeros := (blockOctets w - used % blockOctets w) % blockOctets w
  message ++ 0x80 :: (List.replicate zeros 0 ++ Octets.ofNat (w / 4) (8 * message.length))

/-- Cut octets into pieces of one length. -/
def pieces (size : Nat) : Nat → List UInt8 → List (List UInt8)
  | 0, _ => []
  | count + 1, bs => bs.take size :: pieces size count (bs.drop size)

/-- The words of a block. -/
def words (w : Nat) (block : List UInt8) : List (BitVec w) :=
  (pieces (w / 8) 16 block).map fun bs => BitVec.ofNat w (Octets.toNat bs)

/-- One more word of the schedule. -/
def extend (family : Family w) (ws : Array (BitVec w)) (t : Nat) : Array (BitVec w) :=
  ws.push (rotationsAndShift family.small1 (ws.getD (t - 2) 0) + ws.getD (t - 7) 0
    + rotationsAndShift family.small0 (ws.getD (t - 15) 0) + ws.getD (t - 16) 0)

/-- **Schedule.** One word for each round; the first sixteen are the block. -/
def schedule (family : Family w) (block : List UInt8) : List (BitVec w) :=
  ((List.range' 16 (family.constants.length - 16)).foldl (extend family)
    (words w block).toArray).toList

/-- **Round.** Mix one constant and one word of the schedule into the state. -/
def round (family : Family w) (s : State w) (input : BitVec w × BitVec w) : State w :=
  let choice := (s.e &&& s.f) ^^^ (~~~s.e &&& s.g)
  let majority := (s.a &&& s.b) ^^^ (s.a &&& s.c) ^^^ (s.b &&& s.c)
  let t1 := s.h + rotations family.big1 s.e + choice + input.1 + input.2
  let t2 := rotations family.big0 s.a + majority
  ⟨t1 + t2, s.a, s.b, s.c, s.d + t1, s.e, s.f, s.g⟩

/-- **Compression** of one block into the state. -/
def compress (family : Family w) (s : State w) (block : List UInt8) : State w :=
  let t := (family.constants.zip (schedule family block)).foldl (round family) s
  ⟨s.a + t.a, s.b + t.b, s.c + t.c, s.d + t.d, s.e + t.e, s.f + t.f, s.g + t.g, s.h + t.h⟩

/-- The octets of a state. -/
def State.octets (s : State w) : List UInt8 :=
  [s.a, s.b, s.c, s.d, s.e, s.f, s.g, s.h].flatMap fun x => Octets.ofNat (w / 8) x.toNat

/-- **Digest.** The first `length` octets of the state after the last block. -/
def digest (family : Family w) (initial : State w) (length : Nat) (message : List UInt8) :
    List UInt8 :=
  let padded := pad w message
  let blocks := pieces (blockOctets w) (padded.length / blockOctets w) padded
  (blocks.foldl (compress family) initial).octets.take length

/-- The family with words of 32 bits and 64 rounds. -/
def narrow : Family 32 where
  constants := [
   0x428a2f98, 0x71374491, 0xb5c0fbcf, 0xe9b5dba5, 0x3956c25b, 0x59f111f1,
   0x923f82a4, 0xab1c5ed5, 0xd807aa98, 0x12835b01, 0x243185be, 0x550c7dc3,
   0x72be5d74, 0x80deb1fe, 0x9bdc06a7, 0xc19bf174, 0xe49b69c1, 0xefbe4786,
   0x0fc19dc6, 0x240ca1cc, 0x2de92c6f, 0x4a7484aa, 0x5cb0a9dc, 0x76f988da,
   0x983e5152, 0xa831c66d, 0xb00327c8, 0xbf597fc7, 0xc6e00bf3, 0xd5a79147,
   0x06ca6351, 0x14292967, 0x27b70a85, 0x2e1b2138, 0x4d2c6dfc, 0x53380d13,
   0x650a7354, 0x766a0abb, 0x81c2c92e, 0x92722c85, 0xa2bfe8a1, 0xa81a664b,
   0xc24b8b70, 0xc76c51a3, 0xd192e819, 0xd6990624, 0xf40e3585, 0x106aa070,
   0x19a4c116, 0x1e376c08, 0x2748774c, 0x34b0bcb5, 0x391c0cb3, 0x4ed8aa4a,
   0x5b9cca4f, 0x682e6ff3, 0x748f82ee, 0x78a5636f, 0x84c87814, 0x8cc70208,
   0x90befffa, 0xa4506ceb, 0xbef9a3f7, 0xc67178f2]
  big0 := (2, 13, 22)
  big1 := (6, 11, 25)
  small0 := (7, 18, 3)
  small1 := (17, 19, 10)

/-- The family with words of 64 bits and 80 rounds. -/
def wide : Family 64 where
  constants := [
   0x428a2f98d728ae22, 0x7137449123ef65cd, 0xb5c0fbcfec4d3b2f, 0xe9b5dba58189dbbc,
   0x3956c25bf348b538, 0x59f111f1b605d019, 0x923f82a4af194f9b, 0xab1c5ed5da6d8118,
   0xd807aa98a3030242, 0x12835b0145706fbe, 0x243185be4ee4b28c, 0x550c7dc3d5ffb4e2,
   0x72be5d74f27b896f, 0x80deb1fe3b1696b1, 0x9bdc06a725c71235, 0xc19bf174cf692694,
   0xe49b69c19ef14ad2, 0xefbe4786384f25e3, 0x0fc19dc68b8cd5b5, 0x240ca1cc77ac9c65,
   0x2de92c6f592b0275, 0x4a7484aa6ea6e483, 0x5cb0a9dcbd41fbd4, 0x76f988da831153b5,
   0x983e5152ee66dfab, 0xa831c66d2db43210, 0xb00327c898fb213f, 0xbf597fc7beef0ee4,
   0xc6e00bf33da88fc2, 0xd5a79147930aa725, 0x06ca6351e003826f, 0x142929670a0e6e70,
   0x27b70a8546d22ffc, 0x2e1b21385c26c926, 0x4d2c6dfc5ac42aed, 0x53380d139d95b3df,
   0x650a73548baf63de, 0x766a0abb3c77b2a8, 0x81c2c92e47edaee6, 0x92722c851482353b,
   0xa2bfe8a14cf10364, 0xa81a664bbc423001, 0xc24b8b70d0f89791, 0xc76c51a30654be30,
   0xd192e819d6ef5218, 0xd69906245565a910, 0xf40e35855771202a, 0x106aa07032bbd1b8,
   0x19a4c116b8d2d0c8, 0x1e376c085141ab53, 0x2748774cdf8eeb99, 0x34b0bcb5e19b48a8,
   0x391c0cb3c5c95a63, 0x4ed8aa4ae3418acb, 0x5b9cca4f7763e373, 0x682e6ff3d6b2b8a3,
   0x748f82ee5defb2fc, 0x78a5636f43172f60, 0x84c87814a1f0ab72, 0x8cc702081a6439ec,
   0x90befffa23631e28, 0xa4506cebde82bde9, 0xbef9a3f7b2c67915, 0xc67178f2e372532b,
   0xca273eceea26619c, 0xd186b8c721c0c207, 0xeada7dd6cde0eb1e, 0xf57d4f7fee6ed178,
   0x06f067aa72176fba, 0x0a637dc5a2c898a6, 0x113f9804bef90dae, 0x1b710b35131c471b,
   0x28db77f523047d84, 0x32caab7b40c72493, 0x3c9ebe0a15c9bebc, 0x431d67c49c100d4c,
   0x4cc5d4becb3e42b6, 0x597f299cfc657e2a, 0x5fcb6fab3ad6faec, 0x6c44198c4a475817]
  big0 := (28, 34, 39)
  big1 := (14, 18, 41)
  small0 := (1, 8, 7)
  small1 := (19, 61, 6)

/-- **SHA-256.** -/
def sha256 (message : List UInt8) : List UInt8 :=
  digest narrow
   ⟨0x6a09e667, 0xbb67ae85, 0x3c6ef372, 0xa54ff53a,
   0x510e527f, 0x9b05688c, 0x1f83d9ab, 0x5be0cd19⟩
    32 message

/-- **SHA-384.** -/
def sha384 (message : List UInt8) : List UInt8 :=
  digest wide
   ⟨0xcbbb9d5dc1059ed8, 0x629a292a367cd507, 0x9159015a3070dd17, 0x152fecd8f70e5939,
   0x67332667ffc00b31, 0x8eb44a8768581511, 0xdb0c2e0d64f98fa7, 0x47b5481dbefa4fa4⟩
    48 message

/-- **SHA-512.** -/
def sha512 (message : List UInt8) : List UInt8 :=
  digest wide
   ⟨0x6a09e667f3bcc908, 0xbb67ae8584caa73b, 0x3c6ef372fe94f82b, 0xa54ff53a5f1d36f1,
   0x510e527fade682d1, 0x9b05688c2b3e6c1f, 0x1f83d9abfb41bd6b, 0x5be0cd19137e2179⟩
    64 message

theorem length_octets (s : State w) : s.octets.length = 8 * (w / 8) := by
  simp [State.octets]; omega

theorem length_digest (family : Family w) (initial : State w) {length : Nat}
    (h : length ≤ 8 * (w / 8)) (message : List UInt8) :
    (digest family initial length message).length = length := by
  simp only [digest, List.length_take, length_octets]
  omega

@[simp] theorem length_sha256 (message : List UInt8) : (sha256 message).length = 32 :=
  length_digest _ _ (by decide) message

@[simp] theorem length_sha384 (message : List UInt8) : (sha384 message).length = 48 :=
  length_digest _ _ (by decide) message

@[simp] theorem length_sha512 (message : List UInt8) : (sha512 message).length = 64 :=
  length_digest _ _ (by decide) message

end Sha2

end MessageSignatures
