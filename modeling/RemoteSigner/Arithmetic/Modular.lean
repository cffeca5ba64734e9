/-!
# Arithmetic modulo a number

Powers, inverses and square roots.  Every function computes in a number of steps that the sizes of
its arguments bound.
-/

namespace RemoteSigner.Modular

/-! ## Powers -/

/-- Multiplies `product` by the power of `base` whose exponent has the bits of `exponent`; so many
bits are looked at. -/
def powerFrom (modulus : Nat) : Nat → Nat → Nat → Nat → Nat
  | 0, _, _, product => product
  | bits + 1, base, exponent, product =>
    let product := if exponent % 2 = 1 then product * base % modulus else product
    powerFrom modulus bits (base * base % modulus) (exponent / 2) product

/-- The power of a number. -/
def power (modulus base exponent : Nat) : Nat :=
  powerFrom modulus (Nat.log2 exponent + 1) (base % modulus) exponent (1 % modulus)

/-! ## Inverses -/

/-- Euclid's algorithm.  In every step `x` times the number to be inverted is `a` and `y` times
that number is `b`, as far as the modulus can tell.  Gives the last remainder but one with its
factor. -/
def euclid : Nat → Nat → Nat → Int → Int → Nat × Int
  | 0, a, _, x, _ => (a, x)
  | steps + 1, a, b, x, y =>
      if b = 0 then (a, x) else euclid steps b (a % b) y (x - (a / b : Nat) * y)

/-- The number that makes one when multiplied by `n`, if there is one. -/
def inverse? (modulus n : Nat) : Option Nat :=
  let (divisor, factor) := euclid (2 * Nat.log2 modulus + 4) modulus (n % modulus) 0 1
  if divisor = 1 then some (factor.emod modulus).toNat else none

/-! ## Squares -/

/-- Whether the number is a square; the modulus has to be an odd prime number. -/
def isSquare (prime n : Nat) : Bool := power prime n ((prime - 1) / 2) != prime - 1

/-- A number whose square is `n`, if there is one; the modulus has to be a prime number that leaves
three when it is divided by four. -/
def root? (prime n : Nat) : Option Nat :=
  let r := power prime n ((prime + 1) / 4)
  if r * r % prime = n % prime then some r else none

end RemoteSigner.Modular
