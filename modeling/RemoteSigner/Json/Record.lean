import RemoteSigner.Json.Item

/-!
# Records

A record is an object whose members are known by name, in any order; unknown members are passed
over, and a known one may stand there only once.  A record may also be written as the list of its
members in the order of their declaration.  `Record` describes the members once for both.

## Main definitions

* `Field`: a member that is collected in a draft
* `Record.read`: a record from an object or from a list
-/

namespace RemoteSigner.Json

open Decoder

/-- A member of a record that is collected in a draft of type `σ`. -/
structure Field (σ : Type) where
  /-- The key of the member. -/
  name : String
  /-- Whether the draft has the member already. -/
  isSet : σ → Bool
  /-- Reads the member into the draft. -/
  read : σ → Item → Decoder σ

/-- A member of the draft: how to look at it, how to set it and how to read it. -/
def Field.of (name : String) (get : σ → Option β) (set : σ → β → σ) (read : Item → Decoder β) :
    Field σ where
  name := name
  isSet draft := (get draft).isSome
  read draft item := return set draft (← read item)

/-- How a record is read. -/
structure Record (σ α : Type) where
  /-- What a message calls the record. -/
  expected : String
  /-- The members, in the order of their declaration. -/
  fields : List (Field σ)
  /-- The draft before the first member. -/
  empty : σ
  /-- Completes the draft.  The first member that is missing is reported, in the words of the first
  argument. -/
  finish : (String → String) → σ → Except String α

namespace Record

/-- What a message calls a list of the members. -/
def expectedList (r : Record σ α) : String :=
  r.expected ++
    (if r.fields.length = 1 then " with 1 element"
     else " with " ++ r.fields.length.repr ++ " elements")

/-- What to do about a member. -/
def step (r : Record σ α) : Item.Step σ := fun draft key =>
  match r.fields.find? (·.name == key) with
  | some field => if field.isSet draft then .error (duplicate key) else .ok (field.read draft)
  | none => .ok fun item => do item.skip; pure draft

/-- Reads the members in the order of their declaration, as long as there are items. -/
def readItems (levels : Nat) : Bool → List (Field σ) → σ → Decoder σ
  | _, [], draft => pure draft
  | first, field :: fields, draft => do
    if ← moreItems first then readItems levels false fields (← field.read draft (.next levels))
    else pure draft

/-- Reads the members from kept values; also gives the values that are left. -/
def heldItems : List (Field σ) → List Value → σ → Decoder (σ × List Value)
  | field :: fields, value :: values, draft => do
      heldItems fields values (← field.read draft (.held value))
  | _, values, draft => pure (draft, values)

/-- The complaint about a list that ends before the given member. -/
def tooShort (r : Record σ α) (name : String) : String :=
  wrongLength (r.fields.findIdx (·.name == name)) r.expectedList

/-- Reads a record.  Of a list that is too long a document misses the closing bracket, and a kept
list has the wrong length. -/
def read (r : Record σ α) : Item → Decoder α
  | .next levels => placed do
    match ← head with
    | .list => inside levels endList fun levels => do
      ofExcept (r.finish r.tooShort (← readItems levels true r.fields r.empty))
    | .object => inside levels endObject fun levels => do
      ofExcept (r.finish missing (← Item.readMembers r.step r.empty levels))
    | head => unfit (head.wrongKind r.expected)
  | .held (.list values) => do
    let (draft, left) ← heldItems r.fields values r.empty
    let result ← ofExcept (r.finish r.tooShort draft)
    if left.isEmpty then pure result
    else
      let n := r.fields.length
      unfit <| wrongLength values.length <|
        n.repr ++ (if n = 1 then " element in sequence" else " elements in sequence")
  | .held (.object members) => do
    ofExcept (r.finish missing (← Item.heldMembers r.step r.empty members))
  | .held value => unfit (value.head.wrongKind r.expected)

end Record

/-- A member that has to be there. -/
def required (complain : String → String) (name : String) : Option α → Except String α
  | some value => .ok value
  | none => .error (complain name)

end RemoteSigner.Json
