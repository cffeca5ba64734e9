import RemoteSigner.Octets

/-!
# Base64

Three octets become four letters.  A last group of one or two octets is padded to four letters.
`decode?` takes only what `encode` writes: whole groups, padding at the end alone, and no stray
bits under the padding.

## Main definitions

* `encode`, `decode?`: octets to letters and back
* `letter`, `value?`: one letter and its number
-/

namespace RemoteSigner.Base64

/-! ## Letters -/

/-- The letter for a number below sixty-four. -/
def letter (n : Nat) : UInt8 :=
  if n < 26 then 0x41 + UInt8.ofNat n
  else if n < 52 then 0x61 + UInt8.ofNat (n - 26)
  else if n < 62 then 0x30 + UInt8.ofNat (n - 52)
  else if n = 62 then 0x2B
  else 0x2F

/-- The number that a letter stands for. -/
def value? (b : UInt8) : Option Nat :=
  if 0x41 ≤ b ∧ b ≤ 0x5A then some (b.toNat - 0x41)
  else if 0x61 ≤ b ∧ b ≤ 0x7A then some (b.toNat - 0x61 + 26)
  else if 0x30 ≤ b ∧ b ≤ 0x39 then some (b.toNat - 0x30 + 52)
  else if b = 0x2B then some 62
  else if b = 0x2F then some 63
  else none

/-- The letter that pads the last group. -/
def pad : UInt8 := 0x3D

/-! ## Groups -/

/-- The letters of three octets, last first, in front of `done`. -/
def pushGroup (a b c : Nat) (done : Bytes) : Bytes :=
  letter (c % 64) :: letter (b % 16 * 4 + c / 64) ::
    letter (a % 4 * 16 + b / 16) :: letter (a / 4) :: done

/-- The letters of the octets, last first, in front of `done`. -/
def push (done : Bytes) : Bytes → Bytes
  | [] => done
  | [a] => pad :: pad :: letter (a.toNat % 4 * 16) :: letter (a.toNat / 4) :: done
  | [a, b] =>
    pad :: letter (b.toNat % 16 * 4) ::
      letter (a.toNat % 4 * 16 + b.toNat / 16) :: letter (a.toNat / 4) :: done
  | a :: b :: c :: rest => push (pushGroup a.toNat b.toNat c.toNat done) rest

/-- The octets in letters. -/
def encode (bytes : Bytes) : Bytes := (push [] bytes).reverse

/-- The letters as a text. -/
def encodeText (bytes : Bytes) : String :=
  String.ofList ((encode bytes).map fun b => Char.ofNat b.toNat)

/-- The octets of four numbers below sixty-four, last first, in front of `done`. -/
def pushOctets (a b c d : Nat) (done : Bytes) : Bytes :=
  UInt8.ofNat (c % 4 * 64 + d) :: UInt8.ofNat (b % 16 * 16 + c / 4) ::
    UInt8.ofNat (a * 4 + b / 16) :: done

/-- The octets of the last group, last first, in front of `done`.  One pad leaves two octets and two
bits to spare, and two pads leave one octet and four bits; these bits have to be zero. -/
def pushLast? (a b c d : UInt8) (done : Bytes) : Option Bytes :=
  match value? a, value? b, value? c with
  | some a, some b, some c =>
    if d = pad ∧ c % 4 = 0 then
      some (UInt8.ofNat (b % 16 * 16 + c / 4) :: UInt8.ofNat (a * 4 + b / 16) :: done)
    else none
  | some a, some b, none =>
    if c = pad ∧ d = pad ∧ b % 16 = 0 then some (UInt8.ofNat (a * 4 + b / 16) :: done) else none
  | _, _, _ => none

/-- The octets of the letters, last first, in front of `done`.  Only the last group may hold
anything else. -/
def pull? (done : Bytes) : Bytes → Option Bytes
  | [] => some done
  | a :: b :: c :: d :: rest =>
    match value? a, value? b, value? c, value? d with
    | some a, some b, some c, some d => pull? (pushOctets a b c d done) rest
    | _, _, _, _ => if rest.isEmpty then pushLast? a b c d done else none
  | _ => none

/-- The octets that the letters stand for, if they are written as `encode` writes them. -/
def decode? (letters : Bytes) : Option Bytes := (pull? [] letters).map List.reverse

end RemoteSigner.Base64
