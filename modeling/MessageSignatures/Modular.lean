/-!
# Arithmetic modulo a number

Powers, differences and inverses of residues.

* `pow m b e` is `b ^ e % m` (`pow_eq`), computed by repeated squaring.
* `inverse? m a` is the inverse of a unit, by Euclid's algorithm; other residues have none.
-/

namespace MessageSignatures

namespace Modular

/-- **Power** of a residue. -/
def pow (m b : Nat) (e : Nat) : Nat :=
  if e = 0 then 1 % m
  else
    let half := pow m b (e / 2)
    if e % 2 = 0 then half * half % m else half * half % m * b % m
termination_by e
decreasing_by omega

theorem pow_eq (m b e : Nat) : pow m b e = Nat.pow b e % m := by
  change pow m b e = b ^ e % m
  induction e using Nat.strongRecOn with
  | ind e ih =>
    unfold pow
    split
    · next h => simp [h]
    · next h =>
      have half := ih (e / 2) (by omega)
      simp only [half]
      split
      · next even =>
        rw [← Nat.mul_mod, ← Nat.pow_add, show e / 2 + e / 2 = e by omega]
      · next odd =>
        rw [← Nat.mul_mod, ← Nat.pow_add, Nat.mod_mul_mod, ← Nat.pow_succ]
        congr 2
        omega

/-- **Difference** of residues. -/
def sub (m a b : Nat) : Nat :=
  (a + (m - b % m)) % m

/-- Euclid's algorithm on two remainders, each with the factor by which it is a multiple of the
number that the algorithm began with. The result is the last remainder with its factor. -/
def euclid (r s : Nat) (x y : Int) : Nat × Int :=
  if s = 0 then (r, x) else euclid s (r % s) y (x - (r / s : Nat) * y)
termination_by s
decreasing_by exact Nat.mod_lt r (by omega)

/-- **Inverse** of a residue that is prime to the modulus. -/
def inverse? (m a : Nat) : Option Nat :=
  match euclid a m 1 0 with
  | (1, x) => some (x % m).toNat
  | _ => none

end Modular

end MessageSignatures
