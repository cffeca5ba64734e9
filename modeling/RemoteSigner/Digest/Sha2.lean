import RemoteSigner.Digest.Blocks

/-!
# SHA-2

The functions on words of 32 bits and those on words of 64 bits differ in the number of rounds and
in how far bits are moved.  Their constants are the first bits behind the point of roots of the
first prime numbers.

## Main definitions

* `Family`: words of 32 bits or of 64 bits
* `sha224`, `sha256`, `sha384`, `sha512`: the four hash functions

## Main results

* `length_hash`: a digest is as long as it says
-/

namespace RemoteSigner.Digest.Sha2

/-! ## Roots of prime numbers -/

/-- The first prime numbers. -/
def primes : List Nat :=
  (List.range 410).filter fun n => 2 ≤ n && (List.range n).all fun d => d < 2 || n % d != 0

/-- The greatest number whose power is at most `n`, if it has so many bits; `found` holds its
higher bits. -/
def rootFrom (exponent n : Nat) : Nat → Nat → Nat
  | 0, found => found
  | bits + 1, found =>
    let next := found + (1 <<< bits)
    rootFrom exponent n bits (if next.pow exponent ≤ n then next else found)

/-- The first 64 bits behind the point of a root of `n`. -/
def rootBits (exponent n : Nat) : Nat :=
  rootFrom exponent (n <<< (64 * exponent)) 69 0 % UInt64.size

/-- The bits of the cube roots. -/
def cubeRoots : List Nat := primes.map (rootBits 3)

/-- The bits of the square roots. -/
def squareRoots : List Nat := (primes.take 16).map (rootBits 2)

/-! ## Words -/

/-- What the functions on words of one size have in common. -/
structure Family (ω : Type) where
  /-- How many octets a word has. -/
  width : Nat
  /-- The word with the last bits of a number. -/
  ofNat : Nat → ω
  /-- The number of a word. -/
  toNat : ω → Nat
  /-- The bits moved to the right; what leaves at the right comes back at the left. -/
  rotate : ω → Nat → ω
  /-- The bits moved to the right. -/
  shift : ω → Nat → ω
  /-- How far the first word is turned in a round. -/
  turnsA : Nat × Nat × Nat
  /-- How far the fifth word is turned in a round. -/
  turnsE : Nat × Nat × Nat
  /-- How far the word fifteen rounds ago is turned, twice, and moved. -/
  turnsLate : Nat × Nat × Nat
  /-- How far the word two rounds ago is turned, twice, and moved. -/
  turnsRecent : Nat × Nat × Nat
  /-- One constant for every round. -/
  constants : List ω

/-- Eight words. -/
structure State (ω : Type) where
  a : ω
  b : ω
  c : ω
  d : ω
  e : ω
  f : ω
  g : ω
  h : ω
  deriving DecidableEq, Repr

namespace Family

variable {ω : Type} [Add ω] [AndOp ω] [XorOp ω] [Complement ω] (family : Family ω)

/-- A word turned by three distances. -/
def turn (x : ω) : Nat × Nat × Nat → ω
  | (i, j, k) => family.rotate x i ^^^ family.rotate x j ^^^ family.rotate x k

/-- A word turned by two distances and moved by the third one. -/
def blur (x : ω) : Nat × Nat × Nat → ω
  | (i, j, k) => family.rotate x i ^^^ family.rotate x j ^^^ family.shift x k

/-- One round. -/
def step (s : State ω) (constant word : ω) : State ω :=
  let choice := (s.e &&& s.f) ^^^ (~~~s.e &&& s.g)
  let majority := (s.a &&& s.b) ^^^ (s.a &&& s.c) ^^^ (s.b &&& s.c)
  let first := s.h + family.turn s.e family.turnsE + choice + constant + word
  let second := family.turn s.a family.turnsA + majority
  ⟨first + second, s.a, s.b, s.c, s.d + first, s.e, s.f, s.g⟩

/-- The words of the rounds: those of the block, and then one from four earlier words each. -/
def schedule (block : Bytes) : Array ω :=
  (List.range (family.constants.length - 16)).foldl
    (fun words i =>
      let at' (k : Nat) := words.getD (16 + i - k) (family.ofNat 0)
      words.push
        (family.blur (at' 2) family.turnsRecent + at' 7 +
          family.blur (at' 15) family.turnsLate + at' 16))
    ((words family.width 16 block).map family.ofNat).toArray

/-- The state behind a block. -/
def absorb (s : State ω) (block : Bytes) : State ω :=
  let t := (family.constants.zip (family.schedule block).toList).foldl
    (fun s (constant, word) => family.step s constant word) s
  ⟨s.a + t.a, s.b + t.b, s.c + t.c, s.d + t.d, s.e + t.e, s.f + t.f, s.g + t.g, s.h + t.h⟩

omit [Add ω] [AndOp ω] [XorOp ω] [Complement ω] in
/-- The octets of a state. -/
def octets (s : State ω) : Bytes :=
  [s.a, s.b, s.c, s.d, s.e, s.f, s.g, s.h].flatMap fun word =>
    Bytes.ofNatural family.width (family.toNat word)

omit [Add ω] [AndOp ω] [XorOp ω] [Complement ω] in
/-- The state with these words. -/
def state (numbers : List Nat) : State ω :=
  let at' (i : Nat) := family.ofNat (numbers.getD i 0)
  ⟨at' 0, at' 1, at' 2, at' 3, at' 4, at' 5, at' 6, at' 7⟩

/-- A function of the family: the first state, and how many octets of the last one are the digest.
-/
def blockHash (initial : State ω) (size : Nat) : BlockHash (State ω) where
  blockSize := 16 * family.width
  lengthSize := 2 * family.width
  initial := initial
  absorb := family.absorb
  output s := (family.octets s).take size

theorem length_hash (initial : State ω) {size : Nat} (h : size ≤ 8 * family.width)
    (message : Bytes) :
    ((family.blockHash initial size).hash message).length = size := by
  simp [BlockHash.hash, blockHash, octets]
  omega

end Family

/-! ## The functions -/

/-- The functions on words of 32 bits. -/
def family32 : Family UInt32 where
  width := 4
  ofNat := UInt32.ofNat
  toNat := UInt32.toNat
  rotate x n := (x >>> UInt32.ofNat n) ||| (x <<< UInt32.ofNat (32 - n))
  shift x n := x >>> UInt32.ofNat n
  turnsA := (2, 13, 22)
  turnsE := (6, 11, 25)
  turnsLate := (7, 18, 3)
  turnsRecent := (17, 19, 10)
  constants := (cubeRoots.take 64).map fun bits => UInt32.ofNat (bits / UInt32.size)

/-- The functions on words of 64 bits. -/
def family64 : Family UInt64 where
  width := 8
  ofNat := UInt64.ofNat
  toNat := UInt64.toNat
  rotate x n := (x >>> UInt64.ofNat n) ||| (x <<< UInt64.ofNat (64 - n))
  shift x n := x >>> UInt64.ofNat n
  turnsA := (28, 34, 39)
  turnsE := (14, 18, 41)
  turnsLate := (1, 8, 7)
  turnsRecent := (19, 61, 6)
  constants := cubeRoots.map UInt64.ofNat

/-- SHA-224. -/
def sha224 : BlockHash (State UInt32) := family32.blockHash (family32.state (squareRoots.drop 8)) 28

/-- SHA-256. -/
def sha256 : BlockHash (State UInt32) :=
  family32.blockHash (family32.state (squareRoots.map (· / UInt32.size))) 32

/-- SHA-384. -/
def sha384 : BlockHash (State UInt64) := family64.blockHash (family64.state (squareRoots.drop 8)) 48

/-- SHA-512. -/
def sha512 : BlockHash (State UInt64) := family64.blockHash (family64.state squareRoots) 64

end RemoteSigner.Digest.Sha2
