import RemoteSigner.Octets

/-!
# DER elements

An element is a tag, a length and that many octets.  There is one way to write an element, and only
that one is read: lengths are as short as possible, numbers have no needless zeros, and an element
with parts holds them and nothing else.

`Reader` reads elements off the front of some octets; `Reader.all` wants the octets to be used up.

## Main definitions

* `Element`, `Element.encode`: a tag with its contents
* `Reader`: reads elements off the front of octets
* `readNatural`, `readBits`: elements of a known kind
-/

namespace RemoteSigner.Der

/-! ## Tags -/

/-- The tags that are used here. -/
def integerTag : UInt8 := 0x02
/-- A string of bits. -/
def bitStringTag : UInt8 := 0x03
/-- A string of octets. -/
def octetStringTag : UInt8 := 0x04
/-- The absence of a value. -/
def nullTag : UInt8 := 0x05
/-- An object identifier. -/
def identifierTag : UInt8 := 0x06
/-- An element with parts. -/
def sequenceTag : UInt8 := 0x30

/-- The universal tags that an element may have. -/
def universalTags : List UInt8 :=
  [0x01, 0x02, 0x03, 0x04, 0x05, 0x06, 0x09, 0x0A, 0x0C, 0x12, 0x13, 0x14, 0x15, 0x16, 0x17, 0x18,
   0x1A, 0x1E, 0x30, 0x31]

/-- Whether an element may have the tag.  Numbers of other tags have to fit into the tag itself. -/
def isTag (b : UInt8) : Bool := if b < 0x40 then universalTags.contains b else b % 32 != 31

/-- Whether the tag is one that an element takes from its surroundings. -/
def isContextual (b : UInt8) : Bool := b / 64 == 2

/-! ## Elements -/

/-- An element. -/
structure Element where
  /-- What it is. -/
  tag : UInt8
  /-- What it holds. -/
  contents : Bytes
  deriving DecidableEq, Repr

/-- The octets of a length. -/
def lengthOctets (n : Nat) : Bytes :=
  if n < 0x80 then [UInt8.ofNat n]
  else
    let width := Bytes.widthOf n
    UInt8.ofNat (0x80 + width) :: Bytes.ofNatural width n

/-- The octets of an element. -/
def Element.encode (e : Element) : Bytes := e.tag :: (lengthOctets e.contents.length ++ e.contents)

/-- An element that consists of these octets and a tag. -/
def encode (tag : UInt8) (contents : Bytes) : Bytes := Element.encode ⟨tag, contents⟩

/-- An element with parts. -/
def encodeSequence (parts : List Bytes) : Bytes := encode sequenceTag parts.flatten

/-- The octets of a number: a first octet of 128 or more would make it negative. -/
def naturalOctets (n : Nat) : Bytes :=
  let octets := Bytes.minimal n
  if octets.head?.any (0x80 ≤ ·) then 0 :: octets else octets

/-- A number. -/
def encodeNatural (n : Nat) : Bytes := encode integerTag (naturalOctets n)

/-- A string of whole octets of bits. -/
def encodeBits (bytes : Bytes) : Bytes := encode bitStringTag (0 :: bytes)

/-! ## Reading -/

/-- A reader of elements. -/
abbrev Reader := StateT Bytes Option

/-- Reads a length. -/
def readLength : Reader Nat := fun
  | [] => none
  | b :: rest =>
    if b < 0x80 then some (b.toNat, rest)
    else
      let width := b.toNat - 0x80
      let n := Bytes.toNatural (rest.take width)
      if 1 ≤ width ∧ width ≤ 4 ∧ width ≤ rest.length ∧ lengthOctets n = b :: rest.take width then
        some (n, rest.drop width)
      else none

/-- Reads an element. -/
def readElement : Reader Element := fun
  | [] => none
  | tag :: rest => do
    guard (isTag tag)
    let (n, rest) ← readLength rest
    let contents := rest.take n
    guard (contents.length = n)
    some (⟨tag, contents⟩, rest.drop n)

/-- Reads an element with this tag. -/
def readTagged (tag : UInt8) : Reader Bytes := do
  let e ← readElement
  guard (e.tag = tag)
  pure e.contents

/-- The tag ahead. -/
def peekTag : Reader (Option UInt8) := fun bytes => some (bytes.head?, bytes)

namespace Reader

/-- Reads with nothing left over. -/
def all (r : Reader α) (bytes : Bytes) : Option α :=
  match r bytes with
  | some (value, []) => some value
  | _ => none

/-- Reads the parts of an element with this tag. -/
def within (tag : UInt8) (r : Reader α) : Reader α := do
  let contents ← readTagged tag
  r.all contents

end Reader

/-! ## Contents -/

/-- The number that the contents of an element stand for; negative numbers and needless zeros are
refused. -/
def naturalOf? (contents : Bytes) : Option Nat :=
  match contents with
  | [] => none
  | [b] => if b < 0x80 then some b.toNat else none
  | a :: b :: rest =>
    if 0x80 ≤ a ∨ (a = 0 ∧ b < 0x80) then none else some (Bytes.toNatural (a :: b :: rest))

/-- Reads a number. -/
def readNatural : Reader Nat := do naturalOf? (← readTagged integerTag)

/-- A string of bits: how many bits of the last octet do not belong to it, and the octets. -/
structure BitString where
  /-- The number of bits that do not count. -/
  unused : Nat
  /-- The octets. -/
  bytes : Bytes
  deriving DecidableEq, Repr

namespace BitString

/-- The string of bits in the contents of an element. -/
def of? : Bytes → Option BitString
  | [] => none
  | unused :: bytes =>
      if 7 < unused ∨ (unused ≠ 0 ∧ bytes = []) then none else some ⟨unused.toNat, bytes⟩

/-- The octets, if all their bits count. -/
def whole? (s : BitString) : Option Bytes := if s.unused = 0 then some s.bytes else none

end BitString

/-- Reads a string of bits. -/
def readBits : Reader BitString := do BitString.of? (← readTagged bitStringTag)

end RemoteSigner.Der
