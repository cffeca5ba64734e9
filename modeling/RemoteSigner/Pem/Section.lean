import RemoteSigner.Octets.Base64

/-!
# Sections of PEM files

A section is Base64 text between a line that begins it and a line that ends it.  This module says
what a section is, how it is written, and how its text is read, which is more lenient than for
messages: blanks are passed over, the padding may be left out, and stray bits do not matter.

## Main definitions

* `Section`: octets with a label
* `beginWords?`: the words in the first line of a section
* `decodeText`: the octets that the text of a section stands for
* `Section.encode`: a section as it stands in a file
-/

namespace RemoteSigner.Pem

/-! ## Labels -/

/-- The kinds of sections that are told apart. -/
inductive Label where
  | certificate | publicKey | rsaPrivateKey | privateKey | ecPrivateKey | revocations
  | request | encryptedHello
  deriving DecidableEq, Repr

namespace Label

/-- The words of a label. -/
def words : Label → Bytes
  | certificate => Bytes.ofText "CERTIFICATE"
  | publicKey => Bytes.ofText "PUBLIC KEY"
  | rsaPrivateKey => Bytes.ofText "RSA PRIVATE KEY"
  | privateKey => Bytes.ofText "PRIVATE KEY"
  | ecPrivateKey => Bytes.ofText "EC PRIVATE KEY"
  | revocations => Bytes.ofText "X509 CRL"
  | request => Bytes.ofText "CERTIFICATE REQUEST"
  | encryptedHello => Bytes.ofText "ECHCONFIG"

/-- All labels. -/
def all : List Label :=
  [certificate, publicKey, rsaPrivateKey, privateKey, ecPrivateKey, revocations,
   request, encryptedHello]

/-- The label with these words. -/
def of? (words : Bytes) : Option Label := all.find? (·.words == words)

end Label

/-- A section of a file. -/
structure Section where
  /-- What the section holds. -/
  label : Label
  /-- The octets that its text stands for. -/
  contents : Bytes
  deriving DecidableEq, Repr

/-! ## Marks -/

/-- How the first line of a section begins. -/
def beginMark : Bytes := Bytes.ofText "-----BEGIN "

/-- How the last line of a section with these words begins. -/
def endMark (words : Bytes) : Bytes := Bytes.ofText "-----END " ++ words ++ Bytes.ofText "-----"

/-- Drops the dashes and blanks at the end of a line that is given last octet first; also counts
the dashes.  The result begins behind the last octet that was dropped and was a dash. -/
def dropDashes (line : Bytes) : Nat × Bytes :=
  let tail := line.takeWhile fun b => b == 0x2D || b == 0x0A || b == 0x0D || b == 0x20
  let kept := (tail.reverse.takeWhile (· != 0x2D)).length
  (tail.count 0x2D, line.drop (tail.length - kept))

/-- The words in the first line of a section; nothing if it does not end in exactly five dashes. -/
def beginWords? (line : Bytes) : Option Bytes :=
  let (dashes, rest) := dropDashes line.reverse
  if dashes = 5 then some (rest.reverse.drop beginMark.length) else none

/-! ## Text -/

/-- Why the text of a section stands for no octets. -/
inductive TextFault where
  /-- There is something else than letters, padding and blanks. -/
  | invalidCharacter (b : UInt8)
  /-- Padding stands in front of the last group. -/
  | prematurePadding
  /-- The last group is not complete. -/
  | invalidTrailingPadding
  deriving DecidableEq, Repr

/-- The fault in words. -/
def TextFault.message : TextFault → String
  | invalidCharacter b => "InvalidCharacter(" ++ b.toNat.repr ++ ")"
  | prematurePadding => "PrematurePadding"
  | invalidTrailingPadding => "InvalidTrailingPadding"

/-- The octets of numbers below sixty-four, last first, in front of `done`; a last group of two or
three numbers stands for one octet or two. -/
def pushNumbers (done : Bytes) : List Nat → Option Bytes
  | [] => some done
  | [_] => none
  | [a, b] => some (UInt8.ofNat (a * 4 + b / 16) :: done)
  | [a, b, c] => some (UInt8.ofNat (b % 16 * 16 + c / 4) :: UInt8.ofNat (a * 4 + b / 16) :: done)
  | a :: b :: c :: d :: rest => pushNumbers (Base64.pushOctets a b c d done) rest

/-- Whether the octet stands between letters without a meaning: a space, or one of the controls
from the tab to the carriage return. -/
def isBlank (b : UInt8) : Bool := b == 0x20 || (0x09 ≤ b && b ≤ 0x0D)

/-- Whether the octet may not stand in a text. -/
def isStray (b : UInt8) : Bool := b != Base64.pad && (Base64.value? b).isNone

/-- What is wrong with the last letters of a text, at most eight: padding may stand in the last
group only, and has to complete it if it stands there. -/
def lastFault? (letters : Bytes) : Option TextFault :=
  let (early, group) := if 4 < letters.length then letters.splitAt 4 else ([], letters)
  let padding := group.dropWhile (· != Base64.pad)
  if early.contains Base64.pad then some .prematurePadding
  else if padding = [] then
    if group.length = 1 then some .invalidTrailingPadding else none
  else if group.length = 4 ∧ (padding = [Base64.pad] ∨ padding = [Base64.pad, Base64.pad]) then none
  else some .invalidTrailingPadding

/-- The first thing that is wrong with a text.  It is looked at eight letters at a time, and padding
among them is held against them when a letter is found behind them. -/
def fault? (letters : Bytes) : Option TextFault :=
  match (letters.take 9).find? isStray with
  | some b => some (.invalidCharacter b)
  | none => match _ : letters.drop 8 with
    | [] => lastFault? letters
    | b :: rest =>
      if (letters.take 8).contains Base64.pad then some .prematurePadding else fault? (b :: rest)
termination_by letters.length
decreasing_by
  have := congrArg List.length ‹letters.drop 8 = _›
  simp only [List.length_drop, List.length_cons] at this ⊢
  omega

/-- The octets that the text of a section stands for. -/
def decodeText (text : Bytes) : Except TextFault Bytes :=
  let letters := text.filter (!isBlank ·)
  match fault? letters with
  | some fault => .error fault
  | none => match pushNumbers [] (letters.filterMap Base64.value?) with
    | some bytes => .ok bytes.reverse
    | none => .error .invalidTrailingPadding

/-! ## Writing -/

/-- How many letters stand in a line. -/
def lineLength : Nat := 64

/-- The letters with a line break behind every full line that is followed by another one; `room`
letters fit into the first line. -/
def pushLines (done : Bytes) (room : Nat) : Bytes → Bytes
  | [] => done
  | b :: rest =>
    match room with
    | 0 => pushLines (b :: 0x0A :: done) (lineLength - 1) rest
    | room + 1 => pushLines (b :: done) room rest

/-- A section as it stands in a file. -/
def Section.encode (s : Section) : Bytes :=
  beginMark ++ s.label.words ++ Bytes.ofText "-----\n" ++
    ((pushLines [] lineLength (Base64.encode s.contents)).reverse ++
      (0x0A :: (endMark s.label.words ++ [0x0A])))

end RemoteSigner.Pem
