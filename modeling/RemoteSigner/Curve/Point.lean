import RemoteSigner.Arithmetic.Modular

/-!
# Elliptic curves

The points of a curve `y² = x³ - 3x + b` over a prime field, with the point at infinity, form a
group whose size is a prime number.  A `Point` carries the proof that it is on its curve, so no
computation leaves the curve.

## Main definitions

* `Point`: a point with the proof that it is on its curve
* `liftX?`: the point with a first coordinate
* `add`, `multiply`: the group
-/

namespace RemoteSigner

/-- The curves that are used. -/
inductive Curve where
  | p256 | p384
  deriving DecidableEq, Repr

namespace Curve

/-! ## Parameters -/

/-- The size of the field. -/
def prime : Curve → Nat
  | p256 => 0xFFFFFFFF00000001000000000000000000000000FFFFFFFFFFFFFFFFFFFFFFFF
  | p384 => 0xFFFFFFFFFFFFFFFFFFFFFFFFFFFFFFFFFFFFFFFFFFFFFFFFFFFFFFFFFFFFFFFEFFFFFFFF0000000000000000FFFFFFFF

/-- The constant of the curve. -/
def constant : Curve → Nat
  | p256 => 0x5AC635D8AA3A93E7B3EBBD55769886BC651D06B0CC53B0F63BCE3C3E27D2604B
  | p384 => 0xB3312FA7E23EE7E4988E056BE3F82D19181D9C6EFE8141120314088F5013875AC656398D8A2ED19D2A85C8EDD3EC2AEF

/-- The number of points. -/
def order : Curve → Nat
  | p256 => 0xFFFFFFFF00000000FFFFFFFFFFFFFFFFBCE6FAADA7179E84F3B9CAC2FC632551
  | p384 => 0xFFFFFFFFFFFFFFFFFFFFFFFFFFFFFFFFFFFFFFFFFFFFFFFFC7634D81F4372DDF581A0DB248B0A77AECEC196ACCC52973

/-- How many octets a coordinate has, and so does a number below the order. -/
def size : Curve → Nat
  | p256 => 32
  | p384 => 48

/-! ## Points -/

/-- The right side of the equation of the curve. -/
def cubic (c : Curve) (x : Nat) : Nat :=
  (x * x % c.prime * x + (c.prime - 3) * x + c.constant) % c.prime

/-- Whether the equation of the curve holds. -/
def Contains (c : Curve) (x y : Nat) : Prop :=
  x < c.prime ∧ y < c.prime ∧ y * y % c.prime = c.cubic x

instance (c : Curve) (x y : Nat) : Decidable (c.Contains x y) := by unfold Contains; infer_instance

/-- A point of the curve other than the point at infinity. -/
structure Point (c : Curve) where
  /-- The first coordinate. -/
  x : Nat
  /-- The second coordinate. -/
  y : Nat
  /-- The equation of the curve holds. -/
  onCurve : c.Contains x y
  deriving DecidableEq, Repr

variable {c : Curve}

/-- The point with these coordinates, if they are those of a point. -/
def point? (c : Curve) (x y : Nat) : Option c.Point :=
  if h : c.Contains x y then some ⟨x, y, h⟩ else none

/-- The point with this first coordinate and with a second coordinate that is odd or even, if there
is one. -/
def liftX? (c : Curve) (x : Nat) (odd : Bool) : Option c.Point := do
  let y ← Modular.root? c.prime (c.cubic x)
  c.point? x (if (y % 2 == 1) == odd then y else c.prime - y)

/-- The point that generates the group. -/
def generator : (c : Curve) → c.Point
  | p256 => ⟨0x6B17D1F2E12C4247F8BCE6E563A440F277037D812DEB33A0F4A13945D898C296,
      0x4FE342E2FE1A7F9B8EE7EB4A7C0F9E162BCE33576B315ECECBB6406837BF51F5, by decide⟩
  | p384 => ⟨0xAA87CA22BE8B05378EB1C71EF320AD746E1D3B628BA79B9859F741E082542A385502F25DBF55296C3A545E3872760AB7,
      0x3617DE4A96262C6F5D9E98BF9292DC29F8F41DBD289A147CE9DA3113B5F0B8C00A60B1CE1D7E819D7A431D7C90EA0E5F,
      by decide⟩

/-! ## The group -/

/-- The point on the line through `p` with this slope, reflected: the sum of `p` and a point with
the first coordinate `x`. -/
def chord (p : c.Point) (x slope : Nat) : Option c.Point :=
  let x₃ := (slope * slope + (c.prime - p.x) + (c.prime - x)) % c.prime
  let y₃ := (slope * (p.x + c.prime - x₃) + (c.prime - p.y)) % c.prime
  c.point? x₃ y₃

/-- A point added to itself. -/
def double (p : c.Point) : Option c.Point := do
  let inverse ← Modular.inverse? c.prime (2 * p.y)
  chord p p.x ((3 * (p.x * p.x % c.prime) + (c.prime - 3)) % c.prime * inverse % c.prime)

/-- The sum of two points; nothing stands for the point at infinity. -/
def add : Option c.Point → Option c.Point → Option c.Point
  | none, q => q
  | p, none => p
  | some p, some q =>
    if p.x = q.x then if p.y = q.y then double p else none
    else do
      let inverse ← Modular.inverse? c.prime (q.x + c.prime - p.x)
      chord p q.x ((q.y + c.prime - p.y) * inverse % c.prime)

/-- Adds to `sum` the multiple of `p` by the number with the bits of `n`; so many bits are looked
at. -/
def multiplyFrom : Nat → Nat → Option c.Point → Option c.Point → Option c.Point
  | 0, _, _, sum => sum
  | bits + 1, n, p, sum =>
      multiplyFrom bits (n / 2) (add p p) (if n % 2 = 1 then add sum p else sum)

/-- A multiple of a point. -/
def multiply (n : Nat) (p : c.Point) : Option c.Point := multiplyFrom (8 * c.size) n (some p) none

end Curve

end RemoteSigner
