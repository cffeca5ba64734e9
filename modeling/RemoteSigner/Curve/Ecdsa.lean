import RemoteSigner.Curve.Encoding
import RemoteSigner.Der.Element
import RemoteSigner.Digest.Algorithm

/-!
# ECDSA signatures

The number that blinds the private key comes from the key and the digest by a generator of
pseudorandom octets, so a digest has only one signature.

## Main definitions

* `Generator`: pseudorandom octets from a seed
* `sign?`: the one signature of a digest
-/

namespace RemoteSigner.Curve

/-! ## Pseudorandom octets -/

/-- A generator of pseudorandom octets. -/
structure Generator where
  /-- The hash algorithm behind it. -/
  hash : HashAlgorithm
  /-- The key. -/
  key : Bytes
  /-- The value. -/
  value : Bytes
  deriving DecidableEq, Repr

namespace Generator

/-- Stirs octets into the key. -/
def stir (g : Generator) (mark : UInt8) (octets : Bytes) : Generator :=
  let key := g.hash.code g.key (g.value ++ mark :: octets)
  ⟨g.hash, key, g.hash.code key g.value⟩

/-- A generator that depends on a seed alone. -/
def ofSeed (hash : HashAlgorithm) (seed : Bytes) : Generator :=
  let g : Generator := ⟨hash, List.replicate hash.size 0, List.replicate hash.size 1⟩
  (g.stir 0 seed).stir 1 seed

/-- The next octets, one digest of them. -/
def next (g : Generator) : Bytes × Generator :=
  let value := g.hash.code g.key g.value
  (value, { g with value })

/-- The generator after octets that are of no use. -/
def refuse (g : Generator) : Generator := g.stir 0 []

end Generator

/-! ## Signatures -/

variable {c : Curve}

/-- The hash algorithm whose digests are as long as the numbers of the curve. -/
def hash : Curve → HashAlgorithm
  | p256 => .sha256
  | p384 => .sha384

/-- The number of a digest: as many octets as a number of the curve has, with zeros in front if
there are too few. -/
def digestNumber (c : Curve) (digest : Bytes) : Nat := Bytes.toNatural (digest.take c.size)

/-- A signature. -/
structure Signature where
  r : Nat
  s : Nat
  deriving DecidableEq, Repr

/-- The signature as octets. -/
def Signature.encode (signature : Signature) : Bytes :=
  Der.encodeSequence [Der.encodeNatural signature.r, Der.encodeNatural signature.s]

/-- The signature of a number with a given blinding number, if that can be used. -/
def signWith? (c : Curve) (secret number blinding : Nat) : Option Signature := do
  let p ← multiply blinding c.generator
  let inverse ← Modular.inverse? c.order blinding
  let r := p.x % c.order
  let s := inverse * (number + r * secret) % c.order
  if r = 0 ∨ s = 0 then none else some ⟨r, s⟩

/-- Looks for a blinding number between zero and the order. -/
def blinding? (c : Curve) : Nat → Generator → Option Nat
  | 0, _ => none
  | tries + 1, g =>
    let (octets, g) := g.next
    let n := Bytes.toNatural octets
    if 0 < n ∧ n < c.order then some n else blinding? c tries g.refuse

/-- How many candidates for a blinding number are looked at.  All but a tiny share of the
candidates can be used. -/
def blindingTries : Nat := 256

/-- Signs a digest; one that is shorter than half a number of the curve is refused. -/
def sign? (c : Curve) (secret : Nat) (digest : Bytes) : Option Signature := do
  guard (c.size / 2 ≤ digest.length)
  let number := digestNumber c digest
  let seed := Bytes.ofNatural c.size secret ++ Bytes.ofNatural c.size number
  c.signWith? secret number (← blinding? c blindingTries (.ofSeed c.hash seed))

end RemoteSigner.Curve
