import RemoteSigner.Arithmetic.Modular
import RemoteSigner.Octets

/-!
# Ed25519 keys

A key is 32 octets that stand for a point of an Edwards curve: the second coordinate, least octet
first, and in the last bit the sign of the first one.  Such keys are only recognized here, so all
that matters is whether there is a point.
-/

namespace RemoteSigner.Edwards

/-- The size of the field. -/
def prime : Nat := (1 <<< 255) - 19

/-- The constant of the curve. -/
def constant : Nat := 0x52036CEE2B6FFE738CC740797779E89800700A4D4141D8AB75EB4DCA135978A3

/-- How many octets a key has. -/
def keyLength : Nat := 32

/-- The second coordinate that the octets give. -/
def coordinate (bytes : Bytes) : Nat := Bytes.toNatural bytes.reverse % (1 <<< 255) % prime

/-- Whether the octets stand for a point.  The quotient of two numbers has to be a square, and so
their product. -/
def isPoint (bytes : Bytes) : Bool :=
  let square := coordinate bytes * coordinate bytes % prime
  let above := square + prime - 1
  let below := constant * square % prime + 1
  bytes.length == keyLength && Modular.isSquare prime (above * below % prime)

end RemoteSigner.Edwards
