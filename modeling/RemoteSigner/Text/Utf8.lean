import RemoteSigner.Octets

/-!
# Reading text from arbitrary octets

A path is a string of octets, and a document can hold text only.  `Utf8.lossy` makes a text of any
octets: every well-formed character is kept, and every longest piece that begins a character
without completing one becomes a single replacement character.

## Main definitions

* `first`: the first character of some octets, if they begin with one
* `afterCharacters`: what stands behind the characters at the front
* `lossy`: a text of any octets

## Main results

* `length_first_le`: a character is never longer than what was there
-/

namespace RemoteSigner.Utf8

/-- What the first octet of a character of several octets announces. -/
structure Lead where
  /-- How many octets follow. -/
  following : Nat
  /-- The least second octet. -/
  least : UInt8
  /-- The greatest second octet. -/
  greatest : UInt8
  /-- The bits of the character that the first octet holds. -/
  bits : Nat

/-- Reads a first octet; the bounds of the second octet rule out overlong forms, surrogates and
numbers past the last character. -/
def lead? (b : UInt8) : Option Lead :=
  let n := b.toNat
  if n < 0xC2 then none
  else if n < 0xE0 then some ⟨1, 0x80, 0xBF, n - 0xC0⟩
  else if n = 0xE0 then some ⟨2, 0xA0, 0xBF, 0⟩
  else if n = 0xED then some ⟨2, 0x80, 0x9F, 13⟩
  else if n < 0xF0 then some ⟨2, 0x80, 0xBF, n - 0xE0⟩
  else if n = 0xF0 then some ⟨3, 0x90, 0xBF, 0⟩
  else if n < 0xF4 then some ⟨3, 0x80, 0xBF, n - 0xF0⟩
  else if n = 0xF4 then some ⟨3, 0x80, 0x8F, 4⟩
  else none

/-- Reads the octets that follow a first octet, as far as they fit, and gives what is left. -/
def follow : Nat → UInt8 → UInt8 → Nat → Bytes → Option Char × Bytes
  | 0, _, _, bits, rest => (some (Char.ofNat bits), rest)
  | _ + 1, _, _, _, [] => (none, [])
  | n + 1, least, greatest, bits, b :: rest =>
    if least ≤ b ∧ b ≤ greatest then follow n 0x80 0xBF (bits * 64 + b.toNat % 64) rest
    else (none, b :: rest)

theorem length_follow_le (n : Nat) (least greatest : UInt8) (bits : Nat) (rest : Bytes) :
    (follow n least greatest bits rest).2.length ≤ rest.length := by
  induction n generalizing least greatest bits rest with
  | zero => simp [follow]
  | succ n ih =>
    cases rest with
    | nil => simp [follow]
    | cons b rest =>
      simp only [follow]
      split
      · exact Nat.le_succ_of_le (ih ..)
      · simp

/-- Reads the first character, or nothing if no character begins there, and gives what is left. -/
def first (b : UInt8) (rest : Bytes) : Option Char × Bytes :=
  if b < 0x80 then (some (Char.ofNat b.toNat), rest)
  else match lead? b with
    | none => (none, rest)
    | some lead => follow lead.following lead.least lead.greatest lead.bits rest

theorem length_first_le (b : UInt8) (rest : Bytes) : (first b rest).2.length ≤ rest.length := by
  unfold first
  split
  · simp
  · split
    · simp
    · exact length_follow_le ..

/-- What is left of the octets once the characters at their front have been taken: all from the
first octet that begins none. -/
def afterCharacters : Bytes → Bytes
  | [] => []
  | b :: rest => if (first b rest).1.isSome then afterCharacters (first b rest).2 else b :: rest
termination_by bytes => bytes.length
decreasing_by exact Nat.lt_succ_of_le (length_first_le b rest)

/-- Pushes the characters of the octets in front of `done`, last first. -/
def pushLossy (done : List Char) : Bytes → List Char
  | [] => done
  | b :: rest => pushLossy ((first b rest).1.getD '\uFFFD' :: done) (first b rest).2
termination_by bytes => bytes.length
decreasing_by exact Nat.lt_succ_of_le (length_first_le b rest)

/-- The text that the octets spell, with a replacement character for every piece that spells none.
-/
def lossy (bytes : Bytes) : String := String.ofList (pushLossy [] bytes).reverse

end RemoteSigner.Utf8
