import RemoteSigner.Json.Record

/-!
# Choices

A choice between kinds of values is written with a tag that names the kind.  The tag stands beside
the content as a member of its own (`Tagged`), or among the members of the content (`Inline`).

The members may come in any order.  Content that comes before its tag is kept until the tag is
known; content that comes after its tag is read at once.

## Main definitions

* `Tagged.readItem`: a choice with its tag beside its content
* `Inline.readItem`: a choice with its tag among its members
-/

namespace RemoteSigner.Json

open Decoder

/-! ## The tag beside the content -/

/-- How a choice with its tag beside its content is read.  `τ` is the type of tags. -/
structure Tagged (τ α : Type) where
  /-- What a message calls the choice. -/
  expected : String
  /-- The key of the tag. -/
  tag : String
  /-- The key of the content. -/
  content : String
  /-- The names of the tags. -/
  names : List (String × τ)
  /-- What a tag without content stands for, if it can stand alone. -/
  alone : τ → Option α
  /-- Reads the content that belongs to a tag. -/
  read : τ → Item → Decoder α

namespace Tagged

/-- What is known of a choice while its members are read. -/
inductive Draft (τ α : Type) where
  | empty
  | tagged (tag : τ)
  | kept (content : Value)
  | complete (value : α)

/-- What to do about a member.  What kept content stands for is known from the tag on. -/
def step (t : Tagged τ α) : Item.Step (Draft τ α) := fun draft key =>
  if key = t.tag then
    match draft with
    | .empty => .ok fun item => return .tagged (← item.choice t.names)
    | .kept content => .ok fun item => do
        return .complete (← t.read (← item.choice t.names) (.held content))
    | _ => .error (duplicate t.tag)
  else if key = t.content then
    match draft with
    | .empty => .ok fun item => return .kept (← item.keep)
    | .tagged tag => .ok fun item => return .complete (← t.read tag item)
    | _ => .error (duplicate t.content)
  else .ok fun item => do item.skip; pure draft

/-- What the members amount to. -/
def finish (t : Tagged τ α) : Draft τ α → Except String α
  | .complete value => .ok value
  | .tagged tag => required missing t.content (t.alone tag)
  | _ => .error (missing t.tag)

/-- Reads a choice.  As a list it has exactly the tag and the content, and the tag is a bare name.
-/
def readItem (t : Tagged τ α) : Item → Decoder α
  | .next levels => placed do
    match ← head with
    | .list => inside levels endList fun levels => do
      if ← moreItems true then
        let tag ← (Item.next levels).nameOrIndex t.names
        if ← moreItems false then t.read tag (.next levels) else unfit (wrongLength 1 t.expected)
      else unfit (wrongLength 0 t.expected)
    | .object => inside levels endObject fun levels => do
      ofExcept (t.finish (← Item.readMembers t.step .empty levels))
    | head => unfit (head.wrongKind t.expected)
  | .held (.list []) => unfit (wrongLength 0 t.expected)
  | .held (.list (tag :: rest)) => do
    let tag ← (Item.held tag).nameOrIndex t.names
    match rest with
    | [] => unfit (wrongLength 1 t.expected)
    | content :: rest =>
      let value ← t.read tag (.held content)
      if rest.isEmpty then pure value
      else unfit (wrongLength (rest.length + 2) "2 elements in sequence")
  | .held (.object members) => do ofExcept (t.finish (← Item.heldMembers t.step .empty members))
  | .held value => unfit (value.head.wrongKind t.expected)

end Tagged

/-! ## The tag among the members -/

/-- How a choice with its tag among its members is read.  `τ` is the type of tags. -/
structure Inline (τ α : Type) where
  /-- What a message calls the choice. -/
  expected : String
  /-- The key of the tag. -/
  tag : String
  /-- The names of the tags. -/
  names : List (String × τ)
  /-- Reads the other members. -/
  read : τ → Item → Decoder α

namespace Inline

/-- The tag if it has been read, and the members that have been kept, last first. -/
abbrev Draft (τ : Type) := Option τ × List (String × Value)

/-- What to do about a member. -/
def step (t : Inline τ α) : Item.Step (Draft τ) := fun (tag, kept) key =>
  if key = t.tag then
    match tag with
    | some _ => .error (duplicate t.tag)
    | none => .ok fun item => do return (some (← item.nameOrIndex t.names), kept)
  else .ok fun item => do return (tag, (key, ← item.keep) :: kept)

/-- The tag, and the rest of the members in their order. -/
def finish (t : Inline τ α) : Draft τ → Except String (τ × Value)
  | (some tag, kept) => .ok (tag, .object kept.reverse)
  | (none, _) => .error (missing t.tag)

/-- Takes the tag out of the members.  In a list the tag comes first, and the items behind it are
kept as they are, however many there are. -/
def split (t : Inline τ α) : Item → Decoder (τ × Value)
  | .next levels => placed do
    match ← head with
    | .list => inside levels endList fun levels => do
      if ← moreItems true then
        let tag ← (Item.next levels).nameOrIndex t.names
        let rest ← foldItems false (fun rest => do return (← Decoder.value levels) :: rest) []
        pure (tag, .list rest.reverse)
      else unfit (missing t.tag)
    | .object => inside levels endObject fun levels => do
      ofExcept (t.finish (← Item.readMembers t.step (none, []) levels))
    | head => unfit (head.wrongKind t.expected)
  | .held (.list []) => unfit (missing t.tag)
  | .held (.list (tag :: rest)) => do return (← (Item.held tag).nameOrIndex t.names, .list rest)
  | .held (.object members) => do ofExcept (t.finish (← Item.heldMembers t.step (none, []) members))
  | .held value => unfit (value.head.wrongKind t.expected)

/-- Reads a choice. -/
def readItem (t : Inline τ α) (item : Item) : Decoder α := do
  let (tag, rest) ← t.split item
  t.read tag (.held rest)

end Inline

end RemoteSigner.Json
