import RemoteSigner.Arithmetic.Modular
import RemoteSigner.Octets
import RemoteSigner.Rsa.Error

/-!
# RSA keys

The numbers of a key have to be in range: see `PublicKey.isValid`.  Those of a private key have to
fit together as well.

The private operation goes by way of the two prime factors, and its result is tested with the
public operation, so that a key whose factors are no primes gives an error instead of a wrong
number.

## Main definitions

* `PublicKey.isValid`: whether the numbers can be those of a key
* `PublicKey.raise`: the public operation
* `PrivateKey.isConsistent`: whether the numbers fit together
* `PrivateKey.apply`: the private operation, tested by the public one
-/

namespace RemoteSigner.Rsa

/-! ## Public keys -/

/-- An RSA public key. -/
structure PublicKey where
  /-- The modulus. -/
  modulus : Nat
  /-- The public exponent. -/
  exponent : Nat
  deriving DecidableEq, Repr

namespace PublicKey

/-- How many bits the modulus has. -/
def bits (key : PublicKey) : Nat := if key.modulus = 0 then 0 else Nat.log2 key.modulus + 1

/-- How many octets the modulus has, and so every signature and every ciphertext. -/
def size (key : PublicKey) : Nat := (key.bits + 7) / 8

/-- How many bits the modulus of a key may have that comes from another program. -/
def maxBits : Nat := 4096

/-- The greatest exponent. -/
def maxExponent : Nat := (1 <<< 33) - 1

/-- Whether the numbers can be those of a key: both are odd, and the exponent is from two to
`maxExponent` and below the modulus. -/
def isValid (key : PublicKey) : Bool :=
  key.modulus % 2 == 1 && key.exponent % 2 == 1 &&
    2 ≤ key.exponent && key.exponent ≤ maxExponent && key.exponent < key.modulus

/-- The public operation on numbers. -/
def raise (key : PublicKey) (n : Nat) : Nat := Modular.power key.modulus n key.exponent

end PublicKey

/-! ## Private keys -/

/-- An RSA private key with two factors. -/
structure PrivateKey extends PublicKey where
  /-- The private exponent. -/
  privateExponent : Nat
  /-- The first factor of the modulus. -/
  p : Nat
  /-- The second factor of the modulus. -/
  q : Nat
  deriving DecidableEq, Repr

namespace PrivateKey

/-- Whether the numbers fit together: the factors make the modulus, and for each of them one
exponent undoes the other, as far as it is a prime number. -/
def isConsistent (key : PrivateKey) : Bool :=
  let inverts (factor : Nat) := (key.exponent * key.privateExponent - 1) % (factor - 1) == 0
  key.isValid && 1 ≤ key.p && 1 ≤ key.q && key.p * key.q == key.modulus &&
    1 ≤ key.exponent * key.privateExponent && inverts key.p && inverts key.q

/-- The power with the private exponent.  It is put together from the powers modulo the factors,
unless these have a factor in common. -/
def lower (key : PrivateKey) (n : Nat) : Nat :=
  match Modular.inverse? key.p key.q with
  | none => Modular.power key.modulus n key.privateExponent
  | some inverse =>
    let first := Modular.power key.p n (key.privateExponent % (key.p - 1))
    let second := Modular.power key.q n (key.privateExponent % (key.q - 1))
    let difference := (first + key.p - second % key.p) * inverse % key.p
    difference * key.q + second

/-- The private operation on numbers below the modulus. -/
def apply (key : PrivateKey) (n : Nat) : Except Error Nat :=
  if key.modulus ≤ n then .error .decryption
  else
    let m := key.lower n
    if key.raise m = n then .ok m else .error .internal

/-- The private operation on octets. -/
def applyOctets (key : PrivateKey) (bytes : Bytes) : Except Error Bytes :=
  return Bytes.ofNatural key.size (← key.apply (Bytes.toNatural bytes))

end PrivateKey

end RemoteSigner.Rsa
