import RemoteSigner.Json.Skip

/-!
# Reading values of a known kind

Most values are read straight from the document.  Where the members of an object come in an unlucky
order, a value has to be kept until it is known what it stands for, and is read from there
afterwards.  An `Item` is either, and every reader below takes both, so that a kind of value is
described once.

## Main definitions

* `Item`: the next value of the document, or one that has been kept
* `Item.natural`, `Item.text`, `Item.choice`: values without parts
* `Item.option`, `Item.list`: values with parts
* `decode`: a whole document of a known kind
-/

namespace RemoteSigner.Json

open Decoder

/-- A value that is about to be read. -/
inductive Item where
  /-- The next value of the document, in which at most `levels` more lists and objects may be open
  at once. -/
  | next (levels : Nat)
  /-- A value that has been kept. -/
  | held (value : Value)

namespace Item

/-! ## Values without parts -/

/-- Reads a value that can be judged at first sight. -/
def scalar (read : Head → Except String α) : Item → Decoder α
  | next _ => placed do ofExcept (read (← head))
  | held value => ofExcept (read value.head)

/-- Reads a number from zero to below `limit`. -/
def natural (limit : Nat) (expected : String) : Item → Decoder Nat :=
  scalar fun
    | .number (.whole n) =>
      if 0 ≤ n ∧ n < limit then .ok n.toNat
      else .error (Head.wrongValue (.number (.whole n)) expected)
    | head => .error (head.wrongKind expected)

/-- Reads a text. -/
def text (expected : String) : Item → Decoder String :=
  scalar fun
    | .text s => .ok s
    | head => .error (head.wrongKind expected)

/-- Looks a name up among those that may be used. -/
def lookup (names : List (String × α)) : Head → Except String α
  | .text name => match names.lookup name with
    | some value => .ok value
    | none => .error (unknownName name (names.map (·.1)))
  | head => .error (head.wrongKind "variant identifier")

/-- Reads the value of a choice that needs none.  An empty object will do too, but only where it has
been kept. -/
def unit : Item → Decoder Unit
  | held (.object []) => pure ()
  | item => scalar (fun | .null => .ok () | head => .error (head.wrongKind "unit")) item

/-! ## Names -/

/-- Reads a name as the only key of an object. -/
def key (names : List (String × α)) : Decoder α := do
  match ← token with
  | none => ahead .endInObject
  | some b =>
    if b = 0x22 then scalar (lookup names) (next 0)
    else if b = 0x7D then ahead .expectedValue
    else ahead .keyNotText

/-- Reads a name that stands for a choice: the bare name, or an object with the name as its only
key and no value.  What is wrong with the end of that object is placed behind an octet, and not
ahead of it as elsewhere. -/
def choice (names : List (String × α)) : Item → Decoder α
  | next levels => do
    match ← token with
    | none => ahead .endInValue
    | some b =>
      if b = 0x22 then scalar (lookup names) (next levels)
      else if b = 0x7B then match levels with
        | 0 => ahead .nestedTooDeeply
        | levels + 1 => do
          advance
          let value ← key names
          colon
          unit (next levels)
          match ← token with
          | none => behind .endInObject
          | some c =>
            if c = 0x7D then do advance; pure value
            else behind .expectedValue
      else ahead .expectedValue
  | held (.text name) => ofExcept (lookup names (.text name))
  | held (.object [(name, value)]) => do
    let choice ← ofExcept (lookup names (.text name))
    unit (held value)
    pure choice
  | held (.object _) => unfit (Head.object.wrongValue "map with a single key")
  | held value => unfit (value.head.wrongKind "string or map")

/-- Reads a name, or in a kept value also its place among the names that may be used. -/
def nameOrIndex (names : List (String × α)) : Item → Decoder α
  | held (.number (.whole (.ofNat n))) => match names[n]? with
    | some (_, value) => pure value
    | none => unfit <|
        Head.wrongValue (.number (.whole n)) ("variant index 0 <= i < " ++ names.length.repr)
  | item => scalar (lookup names) item

/-! ## Values with parts -/

/-- Reads `null` as nothing, and any other value with `read`.  The first letter decides, as no other
value begins with it. -/
def option (read : Item → Decoder α) : Item → Decoder (Option α)
  | next levels => do
    if (← token) = some 0x6E then do
      advance
      word [0x75, 0x6C, 0x6C]
      pure none
    else return some (← read (next levels))
  | held .null => pure none
  | held value => return some (← read (held value))

/-- Reads a list of any length. -/
def list (read : Item → Decoder α) : Item → Decoder (List α)
  | next levels => placed do
    match ← head with
    | .list => match levels with
      | 0 => ahead .nestedTooDeeply
      | levels + 1 => items (read (next levels))
    | head => unfit (head.wrongKind "a sequence")
  | held (.list values) => values.mapM fun value => read (held value)
  | held value => unfit (value.head.wrongKind "a sequence")

/-- Reads what goes with a choice that needs no value: only `null` will do. -/
def nothing (expected : String) : Item → Decoder Unit
  | next levels => placed do
    match ← head with
    | .null => pure ()
    | .list => inside levels endList fun _ => unfit (Head.list.wrongKind expected)
    | .object => inside levels endObject fun _ => unfit (Head.object.wrongKind expected)
    | head => unfit (head.wrongKind expected)
  | held .null => pure ()
  | held value => unfit (value.head.wrongKind expected)

/-- Passes a value that nobody asked for. -/
def skip : Item → Decoder Unit
  | next _ => Decoder.skip
  | held _ => pure ()

/-- Keeps a value for later. -/
def keep : Item → Decoder Value
  | next levels => Decoder.value levels
  | held value => pure value

/-! ## Members -/

/-- What to do about the member with a given key: how to read its value into the state, or why it
can not be there. -/
abbrev Step (σ : Type) := σ → String → Except String (Item → Decoder σ)

/-- Reads the members of an object into a state, between the brackets. -/
def readMembers (step : Step σ) (state : σ) (levels : Nat) : Decoder σ :=
  foldMembers (fun state key => do
    let read ← ofExcept (step state key)
    colon
    read (next levels)) state

/-- Reads kept members into a state. -/
def heldMembers (step : Step σ) (state : σ) : List (String × Value) → Decoder σ
  | [] => pure state
  | (key, value) :: rest => do
    let read ← ofExcept (step state key)
    heldMembers step (← read (held value)) rest

end Item

/-- Decodes a whole document. -/
def decode (read : Item → Decoder α) (origin : Origin) (text : Bytes) : Except Error α :=
  (read (.next maxLevels)).decode origin text

end RemoteSigner.Json
