import MessageSignatures.Modular
import MessageSignatures.Octets
import MessageSignatures.Sha2

/-!
# Ed25519

Signatures over the twisted Edwards curve `-x² + y² = 1 + d x² y²`. Numbers are written with the
least significant octet first.

* **Points** are projective with a fourth coordinate `t = x y / z`. Adding is one formula for all
  pairs of points.
* **Keys.** A private key is a seed of 32 octets. A public key is any 32 octets; whether they encode
  a point shows when a signature is verified.
* **Signing** takes noise, which is random and therefore an argument. The secret number of a
  signature depends on it, on the private key and on the message.
* **Verifying** demands that the second half of the signature is less than the order, and that the
  first half encodes the point that the equation gives, up to a point of small order. Neither that
  point nor the public key may itself be of small order, for then one signature would do for many
  messages.
-/

namespace MessageSignatures

namespace Ed25519

/-- The size of the field. -/
def p : Nat := Nat.pow 2 255 - 19

/-- The order of the base point. -/
def order : Nat := Nat.pow 2 252 + 27742317777372353535851937790883648493

/-- The coefficient of the curve. -/
def d : Nat := 37095705934669439343138083508754565189542113879843219016388785533085940283555

/-- A square root of minus one. -/
def rootOfMinusOne : Nat :=
  19681161376707505956807079304988542015446066515923890162744021073123829784752

/-- **Point.** -/
structure Point where
  x : Nat
  y : Nat
  z : Nat
  t : Nat

/-- The neutral point. -/
def neutral : Point := ⟨0, 1, 1, 0⟩

/-- The point with given coordinates. -/
def Point.ofAffine (x y : Nat) : Point := ⟨x, y, 1, x * y % p⟩

/-- The base point. -/
def base : Point :=
  .ofAffine 15112221349535400772501151409588531511454012693041857206046113283949847762202
    46316835694926478169428394003475163141307993866256225615783033603165251855960

/-- The sum of two points. -/
def add (u v : Point) : Point :=
  -- the coordinates of the sum are `e / h` and `k / f`
  let a := Modular.sub p u.y u.x * Modular.sub p v.y v.x % p
  let b := (u.y + u.x) * (v.y + v.x) % p
  let c := u.t * (2 * d % p) % p * v.t % p
  let e := Modular.sub p b a
  let g := 2 * (u.z * v.z % p) % p
  let f := Modular.sub p g c
  let h := (g + c) % p
  let k := (b + a) % p
  ⟨e * f % p, h * k % p, f * h % p, e * k % p⟩

/-- A multiple of a point. -/
def multiply (k : Nat) (u : Point) : Point :=
  if k = 0 then neutral
  else
    let half := multiply (k / 2) u
    let twice := add half half
    if k % 2 = 0 then twice else add twice u
termination_by k
decreasing_by omega

/-- The opposite of a point. -/
def negate (u : Point) : Point :=
  ⟨(p - u.x) % p, u.y, u.z, (p - u.t) % p⟩

/-- **Small order.** Whether eight times a point is the neutral point. -/
def hasSmallOrder (u : Point) : Bool :=
  let v := multiply 8 u
  v.x == 0 && v.y == v.z

/-- **Writing a point.** The second coordinate, with the parity of the first in the last bit. -/
def encodePoint (u : Point) : List UInt8 :=
  let inverse := Modular.pow p u.z (p - 2)
  let x := u.x * inverse % p
  let y := u.y * inverse % p
  Octets.ofNatLE 32 (y + x % 2 * Nat.pow 2 255)

/-- The quotient of two numbers, if it is a square, and then a root of it. -/
def rootOfQuotient? (u v : Nat) : Option Nat :=
  let v3 := v * v % p * v % p
  let v7 := v3 * v3 % p * v % p
  let x := u * v3 % p * Modular.pow p (u * v7 % p) ((p - 5) / 8) % p
  -- `x` is a root of the quotient up to a fourth root of one
  let vxx := v * (x * x % p) % p
  if vxx = u % p then some x
  else if vxx = (p - u % p) % p then some (x * rootOfMinusOne % p)
  else none

/-- **Reading a point.** The second coordinate may be any number of 255 bits. -/
def decodePoint? (bs : List UInt8) : Option Point :=
  let n := Octets.toNatLE bs
  let y := n % Nat.pow 2 255 % p
  let yy := y * y % p
  (rootOfQuotient? (Modular.sub p yy 1) ((d * yy + 1) % p)).map fun x =>
    .ofAffine (if x % 2 = n / Nat.pow 2 255 then x else (p - x) % p) y

/-- The secret scalar of a seed: three low bits and the highest cleared, the next set. -/
def scalar (seed : List UInt8) : Nat :=
  let n := Octets.toNatLE ((Sha2.sha512 seed).take 32)
  n % Nat.pow 2 254 / 8 * 8 + Nat.pow 2 254

/-- **Public key** of a seed. -/
def publicKey (seed : List UInt8) : List UInt8 :=
  encodePoint (multiply (scalar seed) base)

/-- A hash as a number modulo the order. -/
def hashNumber (message : List UInt8) : Nat :=
  Octets.toNatLE (Sha2.sha512 message) % order

/-- Octets in the noise of a signature. -/
def noiseOctets : Nat := 16

/-- **Signing** with a seed, and with noise. -/
def sign (seed noise message : List UInt8) : List UInt8 :=
  let key := publicKey seed
  -- the second half of the hashed seed keeps the number secret, whatever the noise is
  let r := hashNumber (noise ++ (Sha2.sha512 seed).drop 32 ++ message)
  let point := encodePoint (multiply r base)
  let k := hashNumber (point ++ key ++ message)
  point ++ Octets.ofNatLE 32 ((r + k * scalar seed) % order)

/-- **Verifying** with a public key. -/
def accepts (key message signature : List UInt8) : Bool :=
  let point := signature.take 32
  let s := Octets.toNatLE (signature.drop 32)
  signature.length == 64 && s < order &&
    match decodePoint? key, decodePoint? point with
    | some a, some r =>
      let k := hashNumber (point ++ key ++ message)
      -- the equation is `s B = R + k A`
      let expected := add (multiply s base) (multiply k (negate a))
      !hasSmallOrder a && !hasSmallOrder r && hasSmallOrder (add r (negate expected))
    | _, _ => false

end Ed25519

end MessageSignatures
