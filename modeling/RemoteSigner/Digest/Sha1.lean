import RemoteSigner.Digest.Blocks

/-!
# SHA-1
-/

namespace RemoteSigner.Digest.Sha1

/-- Five words. -/
structure State where
  a : UInt32
  b : UInt32
  c : UInt32
  d : UInt32
  e : UInt32
  deriving DecidableEq, Repr

namespace State

/-- The words added one by one. -/
def add (s t : State) : State := ⟨s.a + t.a, s.b + t.b, s.c + t.c, s.d + t.d, s.e + t.e⟩

/-- The octets of the words. -/
def octets (s : State) : Bytes :=
  [s.a, s.b, s.c, s.d, s.e].flatMap fun word => Bytes.ofNatural 4 word.toNat

end State

/-- The bits moved to the left; what leaves at the left comes back at the right. -/
def rotateLeft (x n : UInt32) : UInt32 := (x <<< n) ||| (x >>> (32 - n))

/-- The first state. -/
def initial : State := ⟨0x67452301, 0xEFCDAB89, 0x98BADCFE, 0x10325476, 0xC3D2E1F0⟩

/-- How a round combines three words, and its constant. -/
def mix (round : Nat) (b c d : UInt32) : UInt32 × UInt32 :=
  if round < 20 then ((b &&& c) ||| (~~~b &&& d), 0x5A827999)
  else if round < 40 then (b ^^^ c ^^^ d, 0x6ED9EBA1)
  else if round < 60 then ((b &&& c) ||| (b &&& d) ||| (c &&& d), 0x8F1BBCDC)
  else (b ^^^ c ^^^ d, 0xCA62C1D6)

/-- One round. -/
def step (s : State) (round : Nat) (word : UInt32) : State :=
  let (mixed, constant) := mix round s.b s.c s.d
  ⟨rotateLeft s.a 5 + mixed + s.e + constant + word, s.a, rotateLeft s.b 30, s.c, s.d⟩

/-- The words of the rounds: those of the block, and then one from four earlier words each. -/
def schedule (block : Bytes) : Array UInt32 :=
  (List.range 64).foldl
    (fun words i =>
      let at' (k : Nat) := words.getD (16 + i - k) 0
      words.push (rotateLeft (at' 3 ^^^ at' 8 ^^^ at' 14 ^^^ at' 16) 1))
    ((words 4 16 block).map UInt32.ofNat).toArray

/-- The state behind a block. -/
def absorb (s : State) (block : Bytes) : State :=
  s.add ((schedule block).toList.zipIdx.foldl (fun s (word, round) => step s round word) s)

/-- SHA-1 as a function on blocks. -/
def blockHash : BlockHash State where
  blockSize := 64
  lengthSize := 8
  initial := initial
  absorb := absorb
  output := State.octets

/-- The digest of a message. -/
def hash (message : Bytes) : Bytes := blockHash.hash message

@[simp] theorem length_hash (message : Bytes) : (hash message).length = 20 := by
  simp [hash, BlockHash.hash, blockHash, State.octets]

end RemoteSigner.Digest.Sha1
