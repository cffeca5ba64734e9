import RemoteSigner.Octets

/-!
# Slots

The slot of a token is written in hexadecimal digits, with or without `0x` in front, and is a
number of 32 bits.  A sign is allowed behind the `0x`.
-/

namespace RemoteSigner.Config

/-- Why a text is no slot. -/
inductive SlotFault where
  /-- There are no digits. -/
  | empty
  /-- Something else than a digit stands there. -/
  | invalidDigit
  /-- The number needs more than 32 bits. -/
  | tooLarge
  deriving DecidableEq, Repr

/-- The fault in words. -/
def SlotFault.message : SlotFault → String
  | empty => "cannot parse integer from empty string"
  | invalidDigit => "invalid digit found in string"
  | tooLarge => "number too large to fit in target type"

/-- The value of a hexadecimal digit of either case. -/
def slotDigit? (c : Char) : Option Nat :=
  if '0' ≤ c ∧ c ≤ '9' then some (c.toNat - '0'.toNat)
  else if 'a' ≤ c ∧ c ≤ 'f' then some (c.toNat - 'a'.toNat + 10)
  else if 'A' ≤ c ∧ c ≤ 'F' then some (c.toNat - 'A'.toNat + 10)
  else none

/-- Appends digits to a number; the first character that is no digit, or one too many, decides. -/
def appendSlotDigits (n : Nat) : List Char → Except SlotFault Nat
  | [] => .ok n
  | c :: rest => match slotDigit? c with
    | none => .error .invalidDigit
    | some d =>
      if n * 16 + d < UInt32.size then appendSlotDigits (n * 16 + d) rest
      else .error .tooLarge

/-- The characters behind the mark for hexadecimal digits, if it is there. -/
def dropMark : List Char → List Char
  | '0' :: 'x' :: rest | '0' :: 'X' :: rest => rest
  | digits => digits

/-- The number that digits with or without a sign stand for. -/
def slotNumber : List Char → Except SlotFault Nat
  | [] => .error .empty
  | ['+'] => .error .invalidDigit
  | '+' :: digits => appendSlotDigits 0 digits
  | digits => appendSlotDigits 0 digits

/-- The slot that a text stands for. -/
def slot (s : String) : Except SlotFault UInt32 := (slotNumber (dropMark s.toList)).map UInt32.ofNat

end RemoteSigner.Config
