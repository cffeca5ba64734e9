import RemoteSigner.Json.Container
import RemoteSigner.Json.Printer

/-!
# The written forms of a value

A value may be written with blanks around all of its parts.  `Spells v text` says that `text` is a
form of the value `v`; what `Value.compact` writes is the form without any blanks.

Only what messages need is spelled: numbers are whole and fit into 64 bits, and texts stand in the
form in which they are written.

## Main definitions

* `Gap`, `Closes`: what may stand between the parts of a document, and what may follow a value
* `Value.depth`: how many lists and objects are open at once
* `Value.Plain`, `Spells`: the values that are spelled, and their forms

## Main results

* `spells_compact`: a plain value is spelled by its compact form
-/

namespace RemoteSigner.Json

/-! ## Around a value -/

/-- Octets that may stand between the parts of a document. -/
def Gap (octets : Bytes) : Prop := ∀ b ∈ octets, Decoder.isBlank b = true

theorem Gap.nil : Gap [] := fun _ h => absurd h List.not_mem_nil

/-- Whether an octet could be a further part of a number. -/
def extendsNumber (b : UInt8) : Bool := isDigit b || b == 0x2E || b == 0x65 || b == 0x45

/-- What may follow a value: nothing in it can be taken for a part of a number. -/
def Closes (rest : Bytes) : Prop := ∀ b ∈ rest.head?, extendsNumber b = false

theorem Closes.nil : Closes [] := by simp [Closes]

theorem Closes.cons {b : UInt8} (rest : Bytes) (h : extendsNumber b = false) :
    Closes (b :: rest) := by
  simpa [Closes] using h

theorem extendsNumber_of_isBlank {b : UInt8} (h : Decoder.isBlank b = true) :
    extendsNumber b = false := by
  simp only [Decoder.isBlank, Bool.or_eq_true, beq_iff_eq, or_assoc] at h
  rcases h with rfl | rfl | rfl | rfl <;> decide

theorem Closes.gap_append {gap rest : Bytes} (hg : Gap gap) (hr : Closes rest) :
    Closes (gap ++ rest) := by
  cases gap with
  | nil => exact hr
  | cons b gap => exact .cons _ (extendsNumber_of_isBlank (hg b List.mem_cons_self))

theorem Closes.of_gap {gap : Bytes} (blank : Gap gap) : Closes gap := by
  rw [← List.append_nil gap]
  exact .gap_append blank .nil

/-! ## Depth -/

namespace Value

mutual

/-- How many lists and objects of the value are open at once. -/
def depth : Value → Nat
  | list items => depthItems items + 1
  | object members => depthMembers members + 1
  | _ => 0

/-- The greatest depth of an item. -/
def depthItems : List Value → Nat
  | [] => 0
  | item :: items => max item.depth (depthItems items)

/-- The greatest depth of a member. -/
def depthMembers : List (String × Value) → Nat
  | [] => 0
  | (_, value) :: members => max value.depth (depthMembers members)

end

mutual

/-- Whether all numbers of the value are whole and fit into 64 bits. -/
def Plain : Value → Prop
  | number (.whole (.ofNat n)) => n < UInt64.size
  | number _ => False
  | list items => PlainItems items
  | object members => PlainMembers members
  | _ => True

/-- Whether all items are plain. -/
def PlainItems : List Value → Prop
  | [] => True
  | item :: items => item.Plain ∧ PlainItems items

/-- Whether all members are plain. -/
def PlainMembers : List (String × Value) → Prop
  | [] => True
  | (_, value) :: members => value.Plain ∧ PlainMembers members

end

theorem plain_natural {n : Nat} : (natural n).Plain ↔ n < UInt64.size := by
  change Plain (number (.whole (.ofNat n))) ↔ _
  rw [Plain]

end Value

/-! ## Spelling -/

mutual

/-- A text is a written form of a value, without blanks at either end. -/
inductive Spells : Value → Bytes → Prop where
  | null : Spells .null (Bytes.ofText "null")
  | bool (b : Bool) : Spells (.bool b) (truth b)
  | natural {n : Nat} (small : n < UInt64.size) : Spells (.natural n) (Bytes.ofText n.repr)
  | text (s : String) : Spells (.text s) (quoted s)
  | list {items : List Value} {body : Bytes} (inner : SpellsItems true items body) :
      Spells (.list items) (0x5B :: (body ++ [0x5D]))
  | object {members : List (String × Value)} {body : Bytes}
      (inner : SpellsMembers true members body) :
      Spells (.object members) (0x7B :: (body ++ [0x7D]))

/-- A text is a written form of the items of a list up to the bracket that closes it; `first` says
that no item comes before them. -/
inductive SpellsItems : Bool → List Value → Bytes → Prop where
  | nil (first : Bool) {gap : Bytes} (blank : Gap gap) : SpellsItems first [] gap
  | first {item : Value} {items : List Value} {gap text body : Bytes} (blank : Gap gap)
      (spelled : Spells item text) (more : SpellsItems false items body) :
      SpellsItems true (item :: items) (gap ++ (text ++ body))
  | next {item : Value} {items : List Value} {before after text body : Bytes}
      (blankBefore : Gap before) (blankAfter : Gap after) (spelled : Spells item text)
      (more : SpellsItems false items body) :
      SpellsItems false (item :: items) (before ++ 0x2C :: (after ++ (text ++ body)))

/-- A text is a written form of the members of an object up to the bracket that closes it; `first`
says that no member comes before them. -/
inductive SpellsMembers : Bool → List (String × Value) → Bytes → Prop where
  | nil (first : Bool) {gap : Bytes} (blank : Gap gap) : SpellsMembers first [] gap
  | first {key : String} {value : Value} {members : List (String × Value)}
      {gap colon space text body : Bytes} (blank : Gap gap) (blankColon : Gap colon)
      (blankSpace : Gap space) (spelled : Spells value text)
      (more : SpellsMembers false members body) :
      SpellsMembers true ((key, value) :: members)
        (gap ++ (quoted key ++ (colon ++ 0x3A :: (space ++ (text ++ body)))))
  | next {key : String} {value : Value} {members : List (String × Value)}
      {before after colon space text body : Bytes} (blankBefore : Gap before)
      (blankAfter : Gap after) (blankColon : Gap colon) (blankSpace : Gap space)
      (spelled : Spells value text) (more : SpellsMembers false members body) :
      SpellsMembers false ((key, value) :: members)
        (before ++ 0x2C :: (after ++ (quoted key ++ (colon ++ 0x3A :: (space ++ (text ++ body))))))

end

mutual

/-- A plain value is spelled by its compact form. -/
theorem spells_compact : ∀ {value : Value}, value.Plain → Spells value value.compact
  | .null, _ => by rw [Value.compact]; exact .null
  | .bool b, _ => by rw [Value.compact]; exact .bool b
  | .text s, _ => by rw [Value.compact]; exact .text s
  | .number (.whole (.ofNat n)), plain => by
    rw [Value.Plain] at plain
    rw [Value.compact]
    exact .natural plain
  | .list items, plain => by
    rw [Value.Plain] at plain
    rw [Value.compact]
    exact .list (spellsItems_compact plain true)
  | .object members, plain => by
    rw [Value.Plain] at plain
    rw [Value.compact]
    exact .object (spellsMembers_compact plain true)

theorem spellsItems_compact : ∀ {items : List Value}, Value.PlainItems items → ∀ first : Bool,
    SpellsItems first items (Value.compactItems first items)
  | [], _, first => by rw [Value.compactItems]; exact .nil first .nil
  | item :: items, plain, first => by
    rw [Value.PlainItems] at plain
    have head := spells_compact plain.1
    have tail := spellsItems_compact plain.2 false
    rw [Value.compactItems]
    cases first with
    | true => exact .first .nil head tail
    | false => exact .next .nil .nil head tail

theorem spellsMembers_compact : ∀ {members : List (String × Value)}, Value.PlainMembers members →
    ∀ first : Bool, SpellsMembers first members (Value.compactMembers first members)
  | [], _, first => by rw [Value.compactMembers]; exact .nil first .nil
  | (key, value) :: members, plain, first => by
    rw [Value.PlainMembers] at plain
    have head := spells_compact plain.1
    have tail := spellsMembers_compact plain.2 false
    rw [Value.compactMembers]
    cases first with
    | true => exact .first .nil .nil .nil head tail
    | false => exact .next .nil .nil .nil .nil head tail

end

end RemoteSigner.Json
