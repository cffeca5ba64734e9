import RemoteSigner.Json.Fault

/-!
# Decoders

A decoder reads a value off the front of a document and leaves the rest, or stops at the first
problem.  It never makes the document longer, and the type says so: loops over the members of a
list or an object end because every round after the first takes a separator.

Where a document comes from matters in two ways.  A document in memory is inspected without being
taken, and a document that is still being delivered may break off with a failure where another one
ends.

## Main definitions

* `Decoder`: a reader that never makes a document longer
* `peek`, `next`, `advance`, `token`, `word`: steps over octets
* `document`, `decode`: a whole document

## Main results

* `ahead_of_token`: where a part begins with an octet, that octet is ahead
-/

namespace RemoteSigner.Json

/-- Where a document comes from. -/
inductive Origin where
  /-- All of it is in memory. -/
  | memory
  /-- It is delivered piece by piece, to its end. -/
  | stream
  /-- It is delivered piece by piece, and the delivery fails after the octets at hand. -/
  | broken (message : String)
  deriving DecidableEq, Repr

/-- What a decoder makes of a document. -/
inductive Outcome (α : Type) where
  | done (value : α) (rest : Bytes)
  | failed (fault : Fault) (rest : Bytes)

/-- What is left of the document. -/
def Outcome.rest : Outcome α → Bytes
  | done _ rest | failed _ rest => rest

/-- Changes the value. -/
def Outcome.map (f : α → β) : Outcome α → Outcome β
  | done value rest => done (f value) rest
  | failed fault rest => failed fault rest

/-- Gives a problem of meaning the place that has been reached, if it has none yet. -/
def Outcome.placed : Outcome α → Outcome α
  | done value rest => done value rest
  | failed fault rest => failed (fault.at rest.length) rest

/-- A reader of values of type `α` that never makes the document longer. -/
structure Decoder (α : Type) where
  /-- Reads off the front of a document. -/
  run : Origin → Bytes → Outcome α
  /-- What is left is not longer than what was there. -/
  shortens : ∀ {origin text value rest}, run origin text = .done value rest →
    rest.length ≤ text.length

namespace Decoder

instance : Monad Decoder where
  /- Reads nothing. -/
  pure value :=
    { run := fun _ text => .done value text
      shortens := fun h => by cases h; exact Nat.le_refl _ }
  /- Reads on with a decoder that depends on what was read. -/
  bind d next :=
    { run := fun origin text => match d.run origin text with
        | .done value rest => (next value).run origin rest
        | .failed fault rest => .failed fault rest
      shortens := fun {origin text value rest} h => by
        cases first : d.run origin text with
        | done a middle =>
          rw [first] at h
          exact Nat.le_trans ((next a).shortens h) (d.shortens first)
        | failed fault middle => rw [first] at h; cases h }

/-- Stops with a problem that depends on what is ahead. -/
def fail (fault : Bytes → Fault) : Decoder α where
  run _ text := .failed (fault text) text
  shortens h := by cases h

/-- Stops at what has just been read. -/
def behind (error : SyntaxError) : Decoder α := fail fun text => .malformed error text.length

/-- Stops at the octet ahead, or at the end of the document. -/
def ahead (error : SyntaxError) : Decoder α := fail fun text => .malformed error (text.length - 1)

/-- Stops because the value does not say what was asked for. -/
def unfit (message : String) : Decoder α := fail fun _ => .unfit message none

/-- Goes on if the answer is a value, and stops with the problem of meaning otherwise. -/
def ofExcept : Except String α → Decoder α
  | .ok value => pure value
  | .error message => unfit message

/-- Reads with `d`, and gives a problem of meaning the place that was reached if it has none yet. -/
def placed (d : Decoder α) : Decoder α where
  run origin text := (d.run origin text).placed
  shortens {origin text value rest} h := by
    cases first : d.run origin text with
    | done a middle => rw [first] at h; cases h; exact d.shortens first
    | failed fault middle => rw [first] at h; cases h

/-- Reads with `d` and then with `closing`.  A problem of `d` is the one that is reported, but what
`closing` can read after it has been left behind all the same: a problem of meaning has no place
yet, and will get the one where the document is left. -/
def enclosed (d : Decoder α) (closing : Decoder Unit) : Decoder α where
  run origin text := match d.run origin text with
    | .done value rest => match closing.run origin rest with
      | .done _ rest => .done value rest
      | .failed fault rest => .failed fault rest
    | .failed fault rest => .failed fault (closing.run origin rest).rest
  shortens {origin text value rest} h := by
    cases first : d.run origin text with
    | done a middle =>
      cases second : closing.run origin middle with
      | done u last =>
        simp only [first, second] at h
        cases h
        exact Nat.le_trans (closing.shortens second) (d.shortens first)
      | failed fault last => simp [first, second] at h
    | failed fault middle => simp [first] at h

/-- Where the document comes from. -/
def origin : Decoder Origin where
  run origin text := .done origin text
  shortens h := by cases h; exact Nat.le_refl _

/-- The octet ahead, or nothing at the end of the document. -/
def peek : Decoder (Option UInt8) where
  run
    | .broken message, [] => .failed (.unreadable message) []
    | _, text => .done text.head? text
  shortens {origin text value rest} h := by
    cases origin <;> cases text <;> simp_all

/-- Takes the octet ahead, if there is one. -/
def next : Decoder (Option UInt8) where
  run
    | .broken message, [] => .failed (.unreadable message) []
    | _, text => .done text.head? text.tail
  shortens {origin text value rest} h := by
    have left : rest = text.tail := by
      cases origin <;> cases text <;> cases h <;> rfl
    rw [left, List.length_tail]
    exact Nat.sub_le ..

/-- Passes the octet ahead, which has been looked at. -/
def advance : Decoder Unit where
  run _ text := .done () text.tail
  shortens {origin text value rest} h := by cases h; cases text <;> simp

/-- Takes the octets ahead as long as they are of one class. -/
def takeWhile (p : UInt8 → Bool) : Decoder Bytes where
  run _ text := .done (text.takeWhile p) (text.dropWhile p)
  shortens {origin text value rest} h := by cases h; exact (List.dropWhile_sublist p).length_le

/-- The octets that may stand between the parts of a document. -/
def isBlank (b : UInt8) : Bool := b == 0x20 || b == 0x0A || b == 0x09 || b == 0x0D

/-- The first octet of the next part of the document, or nothing at its end. -/
def token : Decoder (Option UInt8) := do
  let _ ← takeWhile isBlank
  peek

/-- Takes the given octets; something else in their place is no word of the format. -/
def word : Bytes → Decoder Unit
  | [] => pure ()
  | b :: rest => do
    match ← next with
    | none => behind .endInValue
    | some c => if c = b then word rest else behind .expectedWord

/-! ## One step at a time -/

@[simp] theorem run_bind (d : Decoder α) (next : α → Decoder β) (origin : Origin) (text : Bytes) :
    (d >>= next).run origin text = match d.run origin text with
      | .done value rest => (next value).run origin rest
      | .failed fault rest => .failed fault rest := rfl

@[simp] theorem run_pure (value : α) (origin : Origin) (text : Bytes) :
    (pure value : Decoder α).run origin text = .done value text := rfl

@[simp] theorem run_ahead (error : SyntaxError) (origin : Origin) (text : Bytes) :
    (ahead error : Decoder α).run origin text =
      .failed (.malformed error (text.length - 1)) text := rfl

@[simp] theorem run_behind (error : SyntaxError) (origin : Origin) (text : Bytes) :
    (behind error : Decoder α).run origin text = .failed (.malformed error text.length) text := rfl

@[simp] theorem run_advance (origin : Origin) (text : Bytes) :
    advance.run origin text = .done () text.tail := rfl

theorem run_token (origin : Origin) (text : Bytes) :
    token.run origin text = peek.run origin (text.dropWhile isBlank) := rfl

/-- Where the next part of a document begins with an octet, that octet is ahead. -/
theorem ahead_of_token {origin : Origin} {text rest : Bytes} {b : UInt8}
    (h : token.run origin text = .done (some b) rest) : ∃ tail, rest = b :: tail := by
  rw [run_token] at h
  generalize text.dropWhile isBlank = text at h
  cases origin <;> cases text <;> simp_all [peek]
  all_goals exact ⟨_, h.1 ▸ h.2.symm⟩

/-! ## Whole documents -/

/-- Reads a whole document with `d`: nothing but blanks may follow. -/
def document (d : Decoder α) : Decoder α := do
  let value ← d
  match ← token with
  | none => pure value
  | some _ => ahead .trailingCharacters

/-- Reads a whole document. -/
def decode (d : Decoder α) (origin : Origin) (text : Bytes) : Except Error α :=
  match d.document.run origin text with
  | .done value _ => .ok value
  | .failed fault _ => .error (.ofFault text fault)

end Decoder

end RemoteSigner.Json
