import MessageSignatures.Base64

/-!
# Randomness

What is drawn at random when a signature is made is an argument of the signing functions: an endless
stream of octets. A function that needs octets takes them from the front, and hands on the rest.
-/

namespace MessageSignatures

/-- **Entropy.** A stream of octets. -/
abbrev Entropy := Nat → UInt8

namespace Entropy

/-- The first octets of a stream. -/
def take (e : Entropy) (count : Nat) : List UInt8 :=
  (List.range count).map e

/-- What follows the first octets of a stream. -/
def drop (e : Entropy) (count : Nat) : Entropy :=
  fun i => e (count + i)

@[simp] theorem length_take (e : Entropy) (count : Nat) : (e.take count).length = count := by
  simp [take]

end Entropy

end MessageSignatures
