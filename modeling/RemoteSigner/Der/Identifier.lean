import RemoteSigner.Der.Element

/-!
# Object identifiers

An object identifier is a path of numbers, and an algorithm is named by one.  Every number but the
first two is written in base 128, most significant digit first, and a needless zero in front of it
is permitted.  Identifiers are compared as they are written, so such a zero makes another
identifier of the same numbers.

## Main definitions

* `Identifier`, `Identifier.numbers`, `Identifier.text`: an identifier, and what it spells
* `Identifier.of?`, `readIdentifier`: an identifier from the contents of an element
* `Algorithm`, `Algorithm.read`: an identifier with parameters

## Main results

* `numbers?_eq_none_of_long`: an identifier has no more than 39 octets
-/

namespace RemoteSigner.Der

/-! ## Numbers -/

/-- Reads the numbers of an identifier behind the first octet.  A number has at most five octets,
the fifth of them below sixteen, and counts modulo 32 bits; `n` and `count` belong to the number
that is being read. -/
def arcs (n count : Nat) : Bytes → Option (List Nat)
  | [] => if count = 0 then some [] else none
  | b :: rest =>
    if 4 ≤ count ∧ 16 ≤ b then none
    else
      let n := (n * 128 + b.toNat % 128) % UInt32.size
      if b < 0x80 then (arcs 0 0 rest).map (n :: ·) else arcs n (count + 1) rest

/-- The numbers that the contents of an identifier spell.  The first octet stands for two. -/
def numbers? (contents : Bytes) : Option (List Nat) :=
  match contents with
  | [] => none
  | first :: rest =>
    if contents.length < 3 ∨ 39 < contents.length ∨ 120 ≤ first then none
    else (arcs 0 0 rest).map fun numbers => first.toNat / 40 :: first.toNat % 40 :: numbers

/-- An identifier has no more than 39 octets. -/
theorem numbers?_eq_none_of_long {contents : Bytes} (h : 39 < contents.length) :
    numbers? contents = none := by
  unfold numbers?
  split
  · rfl
  · rw [if_pos (.inr (.inl h))]

/-! ## Identifiers -/

/-- An object identifier, as it is written. -/
structure Identifier where
  /-- The contents of its element. -/
  contents : Bytes
  /-- They spell numbers. -/
  spells : (numbers? contents).isSome
  deriving DecidableEq, Repr

namespace Identifier

/-- The numbers of an identifier. -/
def numbers (id : Identifier) : List Nat := (numbers? id.contents).get id.spells

/-- The identifier in words. -/
def text (id : Identifier) : String := ".".intercalate (id.numbers.map Nat.repr)

/-- The identifier in the contents of an element. -/
def of? (contents : Bytes) : Option Identifier :=
  if h : (numbers? contents).isSome then some ⟨contents, h⟩ else none

/-- The element of an identifier. -/
def encode (id : Identifier) : Bytes := Der.encode identifierTag id.contents

end Identifier

/-- Reads an identifier. -/
def readIdentifier : Reader Identifier := do Identifier.of? (← readTagged identifierTag)

/-! ## Algorithms -/

/-- An algorithm: an identifier with parameters of any kind. -/
structure Algorithm where
  /-- Which algorithm it is. -/
  identifier : Identifier
  /-- Its parameters, if there are any. -/
  parameters : Option Element
  deriving DecidableEq, Repr

namespace Algorithm

/-- Reads an algorithm. -/
def read : Reader Algorithm := Reader.within sequenceTag do
  let identifier ← readIdentifier
  match ← peekTag with
  | none => pure ⟨identifier, none⟩
  | some _ => return ⟨identifier, some (← readElement)⟩

/-- An algorithm whose parameters are an identifier. -/
def named? (a : Algorithm) : Option Identifier := do
  let e ← a.parameters
  guard (e.tag = identifierTag)
  Identifier.of? e.contents

/-- Whether the parameters say that there are none. -/
def isNull (a : Algorithm) : Bool := a.parameters == some ⟨nullTag, []⟩

end Algorithm

end RemoteSigner.Der
