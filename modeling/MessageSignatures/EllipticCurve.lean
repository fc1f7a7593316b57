import MessageSignatures.Modular
import MessageSignatures.Octets

/-!
# Elliptic curves

Short Weierstrass curves `y² = x³ + ax + b` over a prime field, as far as signatures need them.

* **Arithmetic** is on projective points `(x, y, z)`, which stand for `(x / z², y / z³)`, so that
  adding needs no inverse. The neutral point has `z = 0`.
* **Encoding.** `Curve.decodePoint` reads a public point: both coordinates, or the first with the
  parity of the second, or the first alone, which stands for the point with the smaller second
  coordinate. The neutral point is not a public point.

`p256` and `p384` are the two curves that signatures use. Both have a field whose size is 3 modulo
4, where a square root is a power (`Curve.root?`).
-/

namespace MessageSignatures

namespace EllipticCurve

/-- **Curve.** The size of the field and its length in octets, the coefficients, a base point and
its order. -/
structure Curve where
  p : Nat
  octets : Nat
  a : Nat
  b : Nat
  baseX : Nat
  baseY : Nat
  n : Nat

/-- **Point** in projective coordinates. -/
structure Point where
  x : Nat
  y : Nat
  z : Nat

/-- The neutral point. -/
def neutral : Point := ⟨1, 1, 0⟩

/-- The point with given coordinates. -/
def Point.ofAffine (x y : Nat) : Point := ⟨x, y, 1⟩

namespace Curve

variable (c : Curve)

/-- The base point. -/
def base : Point := .ofAffine c.baseX c.baseY

/-- Twice a point. -/
def double (u : Point) : Point :=
  if u.z = 0 then neutral
  else
    let p := c.p
    -- the slope of the tangent is `m / (2 y z)`
    let yy := u.y * u.y % p
    let s := 4 * (u.x * yy % p) % p
    let zz := u.z * u.z % p
    let m := (3 * (u.x * u.x % p) + c.a * (zz * zz % p)) % p
    let x := Modular.sub p (m * m % p) (2 * s)
    let y := Modular.sub p (m * Modular.sub p s x % p) (8 * (yy * yy % p))
    ⟨x, y, 2 * (u.y * u.z % p) % p⟩

/-- The sum of two points. -/
def add (u v : Point) : Point :=
  if u.z = 0 then v
  else if v.z = 0 then u
  else
    let p := c.p
    -- both points on a common denominator
    let uzz := u.z * u.z % p
    let vzz := v.z * v.z % p
    let u1 := u.x * vzz % p
    let u2 := v.x * uzz % p
    let s1 := u.y * (v.z * vzz % p) % p
    let s2 := v.y * (u.z * uzz % p) % p
    -- one first coordinate: the points are equal or opposite
    if u1 = u2 then if s1 = s2 then c.double u else neutral
    else
      -- the slope of the chord is `r / (h z)`
      let h := Modular.sub p u2 u1
      let r := Modular.sub p s2 s1
      let hh := h * h % p
      let hhh := h * hh % p
      let w := u1 * hh % p
      let x := Modular.sub p (Modular.sub p (r * r % p) hhh) (2 * w)
      let y := Modular.sub p (r * Modular.sub p w x % p) (s1 * hhh % p)
      ⟨x, y, h * (u.z * v.z % p) % p⟩

/-- A multiple of a point. -/
def multiply (k : Nat) (u : Point) : Point :=
  if k = 0 then neutral
  else
    let twice := c.double (multiply (k / 2) u)
    if k % 2 = 0 then twice else c.add twice u
termination_by k
decreasing_by omega

/-- The coordinates of a point that is not neutral. -/
def affine? (u : Point) : Option (Nat × Nat) :=
  if u.z = 0 then none
  else
    (Modular.inverse? c.p u.z).map fun inv =>
      let inv2 := inv * inv % c.p
      (u.x * inv2 % c.p, u.y * (inv2 * inv % c.p) % c.p)

/-- The right side of the equation of the curve. -/
def rightSide (x : Nat) : Nat :=
  (Modular.pow c.p x 3 + c.a * x + c.b) % c.p

/-- Whether coordinates are those of a point on the curve. -/
def contains (x y : Nat) : Bool :=
  x < c.p && y < c.p && y * y % c.p == c.rightSide x

/-- A square root in the field. -/
def root? (r : Nat) : Option Nat :=
  let s := Modular.pow c.p r ((c.p + 1) / 4)
  if s * s % c.p = r then some s else none

/-- The second coordinates of the points over a first one: the even and the odd one. -/
def lift? (x : Nat) : Option (Nat × Nat) :=
  if x < c.p then
    (c.root? (c.rightSide x)).map fun y =>
      -- the field has odd size, so just one of two opposite numbers is even
      let other := (c.p - y) % c.p
      if y % 2 = 0 then (y, other) else (other, y)
  else none

/-- **Reading a public point.** The first octet tells the form. -/
def decodePoint : List UInt8 → Option (Nat × Nat)
  | [] => none
  | form :: rest =>
    let x := Octets.toNat (rest.take c.octets)
    let y := Octets.toNat (rest.drop c.octets)
    if form == 0x04 && rest.length == 2 * c.octets then
      if c.contains x y then some (x, y) else none
    else if rest.length == c.octets then
      match form with
      | 0x02 => (c.lift? x).map fun ys => (x, ys.1)
      | 0x03 => (c.lift? x).map fun ys => (x, ys.2)
      | 0x05 => (c.lift? x).map fun ys => (x, min ys.1 ys.2)
      | _ => none
    else none

end Curve

/-- **P-256.** -/
def p256 : Curve where
  p := 0xffffffff00000001000000000000000000000000ffffffffffffffffffffffff
  octets := 32
  a := 0xffffffff00000001000000000000000000000000fffffffffffffffffffffffc
  b := 0x5ac635d8aa3a93e7b3ebbd55769886bc651d06b0cc53b0f63bce3c3e27d2604b
  baseX := 0x6b17d1f2e12c4247f8bce6e563a440f277037d812deb33a0f4a13945d898c296
  baseY := 0x4fe342e2fe1a7f9b8ee7eb4a7c0f9e162bce33576b315ececbb6406837bf51f5
  n := 0xffffffff00000000ffffffffffffffffbce6faada7179e84f3b9cac2fc632551

/-- **P-384.** -/
def p384 : Curve where
  p :=
  0xfffffffffffffffffffffffffffffffffffffffffffffffffffffffffffffffeffffffff0000000000000000ffffffff
  octets := 48
  a :=
  0xfffffffffffffffffffffffffffffffffffffffffffffffffffffffffffffffeffffffff0000000000000000fffffffc
  b :=
  0xb3312fa7e23ee7e4988e056be3f82d19181d9c6efe8141120314088f5013875ac656398d8a2ed19d2a85c8edd3ec2aef
  baseX :=
  0xaa87ca22be8b05378eb1c71ef320ad746e1d3b628ba79b9859f741e082542a385502f25dbf55296c3a545e3872760ab7
  baseY :=
  0x3617de4a96262c6f5d9e98bf9292dc29f8f41dbd289a147ce9da3113b5f0b8c00a60b1ce1d7e819d7a431d7c90ea0e5f
  n :=
  0xffffffffffffffffffffffffffffffffffffffffffffffffc7634d81f4372ddf581a0db248b0a77aecec196accc52973

end EllipticCurve

end MessageSignatures
