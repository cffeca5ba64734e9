import RemoteSigner.Json.Decoder
import RemoteSigner.Decimal.Shortest

/-!
# Numbers in a document

A number without point and exponent is whole as long as it fits into 64 bits; every other number is
a float.  A float is computed from the digits that fit into 64 bits and from a power of ten, with
one rounding for each of the two, which is not always the nearest float.

## Main definitions

* `Number`: a whole number or a float
* `floatStyle`: how floats are shown
* `Decoder.number`: a number behind its sign

## Main results

* `length_appendDigits_le`: reading digits never makes the document longer
-/

namespace RemoteSigner.Json

/-- A number as a document gives it. -/
inductive Number where
  | whole (value : Int)
  | float (value : Float)

/-- Floats are shown positionally from `0.00001` to below ten to the sixteenth, and with a signed
exponent otherwise. -/
def floatStyle : Decimal.Style := { least := -5, greatest := 15 }

/-! ## Scaling -/

/-- A power of ten, the nearest float to it. -/
def powerOfTen (n : Nat) : Float := Float.ofScientific 1 false n

/-- Divides by a power of ten of any size. -/
def shrink (x : Float) (n : Nat) : Float :=
  if n ≤ 308 then x / powerOfTen n
  else if x == 0 then x
  else shrink (x / powerOfTen 308) (n - 308)
termination_by n

/-- Multiplies by a power of ten; nothing if no float is that large. -/
def grow? (x : Float) (n : Nat) : Option Float :=
  if n ≤ 308 then
    let y := x * powerOfTen n
    if y.isInf then none else some y
  else if x == 0 then some x else none

/-- The magnitude `digits · 10 ^ exponent`. -/
def magnitude? (digits : Nat) : Int → Option Float
  | .ofNat n => grow? (UInt64.ofNat digits).toFloat n
  | .negSucc n => some (shrink (UInt64.ofNat digits).toFloat (n + 1))

/-! ## Reading -/

/-- Whether the octet is a decimal digit. -/
def isDigit (b : UInt8) : Bool := 0x30 ≤ b && b ≤ 0x39

/-- Appends the leading digits of `text` to the number `n` while it stays below `limit`.  Gives the
number, `count` plus how many digits were appended, and the rest. -/
def appendDigits (limit n count : Nat) : Bytes → Nat × Nat × Bytes
  | [] => (n, count, [])
  | b :: rest =>
    let m := n * 10 + (b.toNat - 0x30)
    if isDigit b ∧ m < limit then appendDigits limit m (count + 1) rest else (n, count, b :: rest)

theorem length_appendDigits_le (limit n count : Nat) (text : Bytes) :
    (appendDigits limit n count text).2.2.length ≤ text.length := by
  induction text generalizing n count with
  | nil => exact Nat.le_refl _
  | cons b rest ih =>
    simp only [appendDigits]
    split
    · exact Nat.le_succ_of_le (ih ..)
    · exact Nat.le_refl _

namespace Decoder

/-- Appends the digits ahead to the number `n` while it stays below `limit`; also gives how many
there were. -/
def digits (limit n : Nat) : Decoder (Nat × Nat) where
  run _ text := let (n, count, rest) := appendDigits limit n 0 text; .done (n, count) rest
  shortens {origin text value rest} h := by cases h; exact length_appendDigits_le ..

/-- Stops because no float is large enough.  A document in memory has not yet been looked at beyond
the number. -/
def outOfRange : Decoder α := do
  match ← origin with
  | .memory => behind .numberOutOfRange
  | _ => ahead .numberOutOfRange

/-- The float for a sign, digits and a power of ten. -/
def scaled (positive : Bool) (significand : Nat) (exponent : Int) : Decoder Number :=
  match magnitude? significand exponent with
  | some x => pure (.float (if positive then x else -x))
  | none => outOfRange

/-- Reads the power of ten after its letter.  Where its next digit would be too much, the float is
zero or out of range. -/
def exponent (positive : Bool) (significand : Nat) (start : Int) : Decoder Number := do
  let sign ← peek
  if sign = some 0x2B ∨ sign = some 0x2D then advance
  let grows := sign != some 0x2D
  match ← next with
  | none => behind .endInValue
  | some b =>
    if !isDigit b then behind .invalidNumber
    else
      let (n, _) ← digits (1 <<< 31) (b.toNat - 0x30)
      if (← peek).any isDigit then
        advance
        if significand ≠ 0 ∧ grows then behind .numberOutOfRange
        else
          let _ ← takeWhile isDigit
          let _ ← peek
          pure (.float (if positive then 0.0 else -0.0))
      else scaled positive significand (if grows then start + n else start - n)

/-- Reads what follows the digits of a float: a power of ten or nothing. -/
def power (positive : Bool) (significand : Nat) (start : Int) : Decoder Number := do
  let b ← peek
  if b = some 0x65 ∨ b = some 0x45 then do advance; exponent positive significand start
  else scaled positive significand start

/-- Reads the digits after the point.  Those that do not fit are passed over, so the number is cut
there and not rounded. -/
def decimals (positive : Bool) (significand : Nat) (start : Int) : Decoder Number := do
  let (n, count) ← digits UInt64.size significand
  let b ← peek
  if b.any isDigit then
    let _ ← takeWhile isDigit
    power positive n (start - count)
  else if count = 0 then
    match b with
    | some _ => ahead .invalidNumber
    | none => ahead .endInValue
  else power positive n (start - count)

/-- Reads what follows the digits before the point, of which `dropped` did not fit.  Minus zero is
no whole number, and neither is anything below the least one of 64 bits. -/
def fraction (positive : Bool) (significand dropped : Nat) : Decoder Number := do
  let b ← peek
  if b = some 0x2E then do advance; decimals positive significand dropped
  else if b = some 0x65 ∨ b = some 0x45 then do advance; exponent positive significand dropped
  else if dropped ≠ 0 then scaled positive significand dropped
  else if positive then pure (.whole significand)
  else if significand = 0 ∨ (1 <<< 63) < significand then
    pure (.float (-(UInt64.ofNat significand).toFloat))
  else pure (.whole (-significand))

/-- Reads a number after its sign.  A zero has no digit behind it, and every digit that does not fit
counts as one power of ten. -/
def number (positive : Bool) : Decoder Number := do
  match ← next with
  | none => behind .endInValue
  | some b =>
    if b = 0x30 then
      if (← peek).any isDigit then ahead .invalidNumber else fraction positive 0 0
    else if isDigit b then
      let (n, _) ← digits UInt64.size (b.toNat - 0x30)
      let dropped ← takeWhile isDigit
      fraction positive n dropped.length
    else behind .invalidNumber

end Decoder

end RemoteSigner.Json
