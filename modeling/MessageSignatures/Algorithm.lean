/-!
# Signature algorithms

The six algorithms a signature can declare, with the tags by which they are declared. A tag names
one algorithm (`ofTag?_tag`, `tag_of_ofTag?`).
-/

namespace MessageSignatures

/-- **Algorithm.** Padding or curve, and hash. -/
inductive Algorithm where
  | rsaPkcs1Sha256
  | rsaPssSha512
  | ecdsaP256Sha256
  | ecdsaP384Sha384
  | ed25519
  | hmacSha256
deriving DecidableEq, Repr

namespace Algorithm

/-- The tag of an algorithm. -/
def tag : Algorithm → String
  | rsaPkcs1Sha256 => "rsa-v1_5-sha256"
  | rsaPssSha512 => "rsa-pss-sha512"
  | ecdsaP256Sha256 => "ecdsa-p256-sha256"
  | ecdsaP384Sha384 => "ecdsa-p384-sha384"
  | ed25519 => "ed25519"
  | hmacSha256 => "hmac-sha256"

/-- Every algorithm. -/
def all : List Algorithm :=
  [rsaPkcs1Sha256, rsaPssSha512, ecdsaP256Sha256, ecdsaP384Sha384, ed25519, hmacSha256]

/-- The algorithm of a tag. Tags are compared exactly, case included. -/
def ofTag? (s : String) : Option Algorithm :=
  all.find? fun a => a.tag == s

theorem mem_all (a : Algorithm) : a ∈ all := by
  cases a <;> decide

theorem ofTag?_tag (a : Algorithm) : ofTag? a.tag = some a := by
  cases a <;> decide

theorem tag_of_ofTag? {s : String} {a : Algorithm} (h : ofTag? s = some a) : a.tag = s := by
  have := List.find?_some h
  exact beq_iff_eq.1 this

end Algorithm

end MessageSignatures
