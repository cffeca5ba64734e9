/-!
# Octet strings

Everything that crosses a stream, a file or a cryptographic primitive is a list of octets.  Numbers
are written into octets most significant first: with a fixed width in frame headers and in
signatures, and with as few octets as possible where a key shows its numbers.

## Main definitions

* `Bytes`: a string of octets
* `Bytes.ofText`, `Bytes.toText?`: the octets of a text, and the text of octets
* `Bytes.ofNatural`, `Bytes.toNatural`: a number in a fixed width, and back
* `Bytes.minimal`: a number in as few octets as possible

## Main results

* `length_ofNatural`: the width is kept whatever the number
-/

namespace RemoteSigner

/-- A string of octets. -/
abbrev Bytes := List UInt8

namespace Bytes

/-- The UTF-8 form of a text. -/
def ofText (s : String) : Bytes := s.toUTF8.data.toList

/-- The text whose UTF-8 form the octets are, if there is one. -/
def toText? (bytes : Bytes) : Option String := String.fromUTF8? ⟨bytes.toArray⟩

/-- The number that the octets spell, most significant octet first. -/
def toNatural (bytes : Bytes) : Nat := bytes.foldl (fun n b => n * 256 + b.toNat) 0

/-- The last `width` octets of the number `n`, most significant first, put in front of `rest`. -/
def pushNatural : Nat → Nat → Bytes → Bytes
  | 0, _, rest => rest
  | width + 1, n, rest => pushNatural width (n / 256) (UInt8.ofNat (n % 256) :: rest)

/-- The number `n` in exactly `width` octets; higher octets are dropped. -/
def ofNatural (width n : Nat) : Bytes := pushNatural width n []

/-- How many octets the number needs; zero needs none. -/
def widthOf (n : Nat) : Nat := if n = 0 then 0 else Nat.log2 n / 8 + 1

/-- The number in as few octets as possible, but at least one. -/
def minimal (n : Nat) : Bytes := ofNatural (max 1 (widthOf n)) n

/-- The octets with every one combined with its partner in the other string; the shorter string
decides. -/
def xor (left right : Bytes) : Bytes := List.zipWith (· ^^^ ·) left right

@[simp] theorem length_pushNatural (width n : Nat) (rest : Bytes) :
    (pushNatural width n rest).length = width + rest.length := by
  induction width generalizing n rest with
  | zero => simp [pushNatural]
  | succ width ih => simp [pushNatural, ih]; omega

@[simp] theorem length_ofNatural (width n : Nat) : (ofNatural width n).length = width := by
  simp [ofNatural]

end Bytes

end RemoteSigner
