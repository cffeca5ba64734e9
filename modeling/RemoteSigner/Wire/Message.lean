import RemoteSigner.Json.Tagged
import RemoteSigner.Json.Printer
import RemoteSigner.Octets.Base64

/-!
# Messages

A message is a type of values with a JSON form.  What `encode` writes has no blanks and its members
in the order of their declaration; `decode` also takes other forms of the same message.  Octets
travel as Base64 text.

## Main definitions

* `Message`: values with a JSON form
* `Message.encode`, `Message.decode`: writing and reading them
-/

namespace RemoteSigner

open Json

/-- A type of values that have a JSON form. -/
class Message (α : Type) where
  /-- The JSON form of a value. -/
  toValue : α → Value
  /-- Reads the JSON form. -/
  read : Item → Decoder α

namespace Message

/-- The message as it is sent. -/
def encode [Message α] (a : α) : Bytes := (toValue a).compact

/-- Reads a whole document as a message. -/
def decode (α : Type) [Message α] (origin : Origin) (document : Bytes) : Except Json.Error α :=
  Json.decode read origin document

/-- The octets that a Base64 text stands for. -/
def octets (s : String) : Except String Bytes :=
  match Base64.decode? (Bytes.ofText s) with
  | some bytes => .ok bytes
  | none => .error "invalid Base64 encoding"

/-- Reads octets. -/
def readBytes (item : Item) : Decoder Bytes := do
  Decoder.ofExcept (octets (← item.text "a string"))

/-- Reads a list of octet strings.  All texts are read before the first one is taken apart. -/
def readByteList (item : Item) : Decoder (List Bytes) := do
  let texts ← item.list (Item.text "a string")
  Decoder.ofExcept (texts.mapM octets)

/-- The JSON form of octets. -/
def bytesValue (bytes : Bytes) : Value := .text (Base64.encodeText bytes)

/-- A member that is left out if it has no value. -/
def optional (name : String) (value : Option Value) : List (String × Value) :=
  match value with
  | some value => [(name, value)]
  | none => []

/-- Reads a number of 64 bits; `expected` is its name in messages. -/
def readWord64 (expected : String) (item : Item) : Decoder UInt64 :=
  return UInt64.ofNat (← item.natural UInt64.size expected)

/-- Reads a number of 32 bits. -/
def readWord32 (item : Item) : Decoder UInt32 :=
  return UInt32.ofNat (← item.natural UInt32.size "u32")

end Message

end RemoteSigner
