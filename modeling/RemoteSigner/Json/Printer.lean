import RemoteSigner.Json.Value

/-!
# Writing values

Messages are written without any blanks (`Value.compact`).  A file that people may look at is
written with one member or item a line, indented by two blanks for every bracket that is open
(`Value.pretty`).

## Main definitions

* `Value.compact`: a value without blanks
* `Value.pretty`: a value with a line for every part
-/

namespace RemoteSigner.Json

/-- A number as a document holds it. -/
def Number.octets : Number → Bytes
  | whole value => Bytes.ofText value.repr
  | float value => Bytes.ofText (floatStyle.writeFloat value)

/-- A truth value as a document holds it. -/
def truth (value : Bool) : Bytes := Bytes.ofText (toString value)

namespace Value

/-! ## Without blanks -/

mutual

/-- The value without blanks. -/
def compact : Value → Bytes
  | null => Bytes.ofText "null"
  | bool value => truth value
  | number value => value.octets
  | text value => quoted value
  | list items => 0x5B :: (compactItems true items ++ [0x5D])
  | object members => 0x7B :: (compactMembers true members ++ [0x7D])

/-- The items of a list, with separators. -/
def compactItems : Bool → List Value → Bytes
  | _, [] => []
  | first, item :: items =>
      (if first then [] else [0x2C]) ++ (compact item ++ compactItems false items)

/-- The members of an object, with separators. -/
def compactMembers : Bool → List (String × Value) → Bytes
  | _, [] => []
  | first, (key, value) :: members =>
    (if first then [] else [0x2C]) ++
      (quoted key ++ (0x3A :: (compact value ++ compactMembers false members)))

end

/-! ## With a line for every part -/

/-- The beginning of a line with `depth` brackets open. -/
def newLine (depth : Nat) : Bytes := 0x0A :: List.replicate (2 * depth) 0x20

mutual

/-- The value with a line for every part; `depth` brackets are open around it. -/
def prettyAt (depth : Nat) : Value → Bytes
  | null => Bytes.ofText "null"
  | bool value => truth value
  | number value => value.octets
  | text value => quoted value
  | list [] => [0x5B, 0x5D]
  | list (item :: items) =>
      0x5B :: (prettyItems (depth + 1) true (item :: items) ++ (newLine depth ++ [0x5D]))
  | object [] => [0x7B, 0x7D]
  | object (member :: members) =>
    0x7B :: (prettyMembers (depth + 1) true (member :: members) ++ (newLine depth ++ [0x7D]))

/-- The items of a list, each on a line of its own. -/
def prettyItems (depth : Nat) : Bool → List Value → Bytes
  | _, [] => []
  | first, item :: items =>
    (if first then [] else [0x2C]) ++
      (newLine depth ++ (prettyAt depth item ++ prettyItems depth false items))

/-- The members of an object, each on a line of its own. -/
def prettyMembers (depth : Nat) : Bool → List (String × Value) → Bytes
  | _, [] => []
  | first, (key, value) :: members =>
    (if first then [] else [0x2C]) ++ (newLine depth ++
      (quoted key ++ (0x3A :: 0x20 :: (prettyAt depth value ++ prettyMembers depth false members))))

end

/-- The value with a line for every part. -/
def pretty (value : Value) : Bytes := prettyAt 0 value

end Value

end RemoteSigner.Json
