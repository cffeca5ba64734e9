import RemoteSigner.Json.Decoder
import RemoteSigner.Text.Utf8

/-!
# Text in a document

A text stands between quotes.  It is written octet by octet: only the quote, the backslash and the
control characters are escaped, so every octet of a character beyond ASCII stays as it is.  Reading
undoes more escapes than writing uses, joins the two halves of a surrogate pair, and checks that
what comes out is text.

## Main definitions

* `quoted`: a text as a document holds it
* `Decoder.escape`, `Decoder.unescape`: what escapes stand for
* `Decoder.text`: a text behind its opening quote

## Main results

* `length_unescape_le`: reading a text never makes the document longer
-/

namespace RemoteSigner.Json

/-! ## Writing -/

/-- The digit for a number below sixteen. -/
def hexDigit (n : Nat) : UInt8 := if n < 10 then 0x30 + UInt8.ofNat n else 0x57 + UInt8.ofNat n

/-- The form of one octet of a text. -/
def escaped (b : UInt8) : Bytes :=
  if b = 0x22 ∨ b = 0x5C then [0x5C, b]
  else if b = 0x08 then [0x5C, 0x62]
  else if b = 0x09 then [0x5C, 0x74]
  else if b = 0x0A then [0x5C, 0x6E]
  else if b = 0x0C then [0x5C, 0x66]
  else if b = 0x0D then [0x5C, 0x72]
  else if b < 0x20 then [0x5C, 0x75, 0x30, 0x30, hexDigit (b.toNat / 16), hexDigit (b.toNat % 16)]
  else [b]

/-- A text as a document holds it. -/
def quoted (s : String) : Bytes := 0x22 :: ((Bytes.ofText s).flatMap escaped ++ [0x22])

/-! ## Reading -/

namespace Decoder

/-- The value of a hexadecimal digit. -/
def hexValue? (b : UInt8) : Option Nat :=
  if 0x30 ≤ b ∧ b ≤ 0x39 then some (b.toNat - 0x30)
  else if 0x61 ≤ b ∧ b ≤ 0x66 then some (b.toNat - 0x57)
  else if 0x41 ≤ b ∧ b ≤ 0x46 then some (b.toNat - 0x37)
  else none

/-- The next octet of a text that has not ended yet. -/
def nextInText : Decoder UInt8 := do
  match ← next with
  | none => behind .endInString
  | some b => pure b

/-- The four hexadecimal digits of a numbered character; they are all taken before any is judged. -/
def fourDigits : Decoder Nat := do
  let a ← nextInText
  let b ← nextInText
  let c ← nextInText
  let d ← nextInText
  match hexValue? a, hexValue? b, hexValue? c, hexValue? d with
  | some a, some b, some c, some d => pure (((a * 16 + b) * 16 + c) * 16 + d)
  | _, _, _, _ => behind .invalidEscape

/-- The second half of a surrogate pair, with its escape. -/
def secondHalf : Decoder Nat := do
  if (← nextInText) ≠ 0x5C then behind .endOfEscape
  else if (← nextInText) ≠ 0x75 then behind .endOfEscape
  else
    let low ← fourDigits
    if low < 0xDC00 ∨ 0xDFFF < low then behind .loneSurrogate else pure low

/-- A numbered character, after its backslash and letter: a first half with its second one, or a
number that is no half at all. -/
def numbered : Decoder Char := do
  let high ← fourDigits
  if 0xDC00 ≤ high ∧ high ≤ 0xDFFF then behind .loneSurrogate
  else if high < 0xD800 ∨ 0xDBFF < high then pure (Char.ofNat high)
  else
    let low ← secondHalf
    pure (Char.ofNat (0x10000 + (high - 0xD800) * 0x400 + (low - 0xDC00)))

/-- What an escape stands for, after its backslash. -/
def escape : Decoder Bytes := do
  let b ← nextInText
  if b = 0x22 ∨ b = 0x5C ∨ b = 0x2F then pure [b]
  else if b = 0x62 then pure [0x08]
  else if b = 0x66 then pure [0x0C]
  else if b = 0x6E then pure [0x0A]
  else if b = 0x72 then pure [0x0D]
  else if b = 0x74 then pure [0x09]
  else if b = 0x75 then return Bytes.ofText (← numbered).toString
  else behind .invalidEscape

/-- Reads the octets of a text up to its closing quote; `done` holds those before, last first. -/
def unescape (origin : Origin) (done : Bytes) (text : Bytes) : Outcome Bytes :=
  match text with
  | [] => (nextInText.run origin []).map fun b => [b]
  | b :: rest =>
    if b = 0x22 then .done done.reverse rest
    else if b = 0x5C then
      match _ : escape.run origin rest with
      | .done bytes rest => unescape origin (bytes.reverseAux done) rest
      | .failed fault rest => .failed fault rest
    else if b < 0x20 then .failed (.malformed .controlCharacter rest.length) rest
    else unescape origin (b :: done) rest
termination_by text.length
decreasing_by
  · exact Nat.lt_succ_of_le (escape.shortens ‹_›)
  · exact Nat.lt_succ_self _

theorem length_unescape_le {origin : Origin} {done text bytes rest : Bytes}
    (h : unescape origin done text = .done bytes rest) : rest.length ≤ text.length := by
  fun_induction unescape origin done text with
  | case1 done => cases origin <;> cases h
  | case2 done rest' => cases h; simp
  | case3 done rest' _ bytes' rest'' run ih =>
    exact Nat.le_succ_of_le (Nat.le_trans (ih h) (escape.shortens ‹escape.run _ _ = _›))
  | case4 => cases h
  | case5 => cases h
  | case6 done b rest' _ _ _ ih => exact Nat.le_succ_of_le (ih h)

/-- Reads a text after its opening quote.  Whether it is text is asked only when the closing quote
has been taken, of what the escapes have become; so the place of the first octet that begins no
character is counted back from there, in octets behind the escapes and not in those of the
document. -/
def text : Decoder String where
  run origin text := match unescape origin [] text with
    | .done bytes rest => match Bytes.toText? bytes with
      | some s => .done s rest
      | none =>
          let left := (Utf8.afterCharacters bytes).length + rest.length
          .failed (.malformed .invalidCharacter left) rest
    | .failed fault rest => .failed fault rest
  shortens {origin text value rest} h := by
    split at h
    · rename_i bytes rest' run
      split at h <;> cases h
      exact length_unescape_le run
    · cases h

end Decoder

end RemoteSigner.Json
