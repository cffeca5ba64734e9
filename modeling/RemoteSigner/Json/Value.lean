import RemoteSigner.Json.Quoted
import RemoteSigner.Json.Number
import RemoteSigner.Text.Quoted

/-!
# JSON values

`Value` is a whole value, for what is written and for what has to be kept while something else is
read first.  `Head` is the first look at a value, which is all that a message about a value of the
wrong kind needs.

## Main definitions

* `Value`: a whole value
* `Head`: a value at first sight
* `Head.wrongKind`, `missing`, `duplicate`, `unknownName`: complaints
* `Decoder.head`: the first look at the next value
-/

namespace RemoteSigner.Json

/-- A JSON value.  The members of an object keep their order and their repetitions. -/
inductive Value where
  | null
  | bool (value : Bool)
  | number (value : Number)
  | text (value : String)
  | list (items : List Value)
  | object (members : List (String × Value))

/-- A whole number as a value. -/
def Value.natural (n : Nat) : Value := .number (.whole n)

/-- What a value is at first sight. -/
inductive Head where
  | null
  | bool (value : Bool)
  | number (value : Number)
  | text (value : String)
  | list
  | object

/-- What the value is at first sight. -/
def Value.head : Value → Head
  | null => .null
  | bool value => .bool value
  | number value => .number value
  | text value => .text value
  | list _ => .list
  | object _ => .object

namespace Head

/-- How a message names a value. -/
def description : Head → String
  | null => "null"
  | bool value => "boolean `" ++ toString value ++ "`"
  | number (.whole value) => "integer `" ++ value.repr ++ "`"
  | number (.float value) => "floating point `" ++ floatStyle.writeFloat value ++ "`"
  | text value => "string " ++ Text.quote value
  | list => "sequence"
  | object => "map"

/-- The complaint about a value of the wrong kind. -/
def wrongKind (head : Head) (expected : String) : String :=
  "invalid type: " ++ head.description ++ ", expected " ++ expected

/-- The complaint about a value of the right kind that is not allowed. -/
def wrongValue (head : Head) (expected : String) : String :=
  "invalid value: " ++ head.description ++ ", expected " ++ expected

end Head

/-- The complaint about a member that is not there. -/
def missing (name : String) : String := "missing field `" ++ name ++ "`"

/-- The complaint about a member that is there twice. -/
def duplicate (name : String) : String := "duplicate field `" ++ name ++ "`"

/-- The complaint about a list that is too short, or too long. -/
def wrongLength (length : Nat) (expected : String) : String :=
  "invalid length " ++ length.repr ++ ", expected " ++ expected

/-- The names that may be used, in words. -/
def alternatives : List String → String
  | [] => "there are no variants"
  | [a] => "expected `" ++ a ++ "`"
  | [a, b] => "expected `" ++ a ++ "` or `" ++ b ++ "`"
  | names => "expected one of " ++ ", ".intercalate (names.map fun name => "`" ++ name ++ "`")

/-- The complaint about a name that is none of those that may be used. -/
def unknownName (name : String) (names : List String) : String :=
  "unknown variant `" ++ name ++ "`, " ++ alternatives names

namespace Decoder

/-- The first look at the next value.  A value without parts is read whole; a list or an object
stays where it is. -/
def head : Decoder Head := do
  match ← token with
  | none => ahead .endInValue
  | some b =>
    if b = 0x6E then do advance; word [0x75, 0x6C, 0x6C]; pure .null
    else if b = 0x74 then do advance; word [0x72, 0x75, 0x65]; pure (.bool true)
    else if b = 0x66 then do advance; word [0x61, 0x6C, 0x73, 0x65]; pure (.bool false)
    else if b = 0x2D then do advance; return .number (← number false)
    else if isDigit b then return .number (← number true)
    else if b = 0x22 then do advance; return .text (← text)
    else if b = 0x5B then pure .list
    else if b = 0x7B then pure .object
    else ahead .expectedValue

end Decoder

end RemoteSigner.Json
