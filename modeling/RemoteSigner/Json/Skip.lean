import RemoteSigner.Json.Container

/-!
# Values that nobody asked for

A member with an unknown name is passed over without building its value.  Its writing is still
checked, but less is asked of it than of a value that is read: it may be nested to any depth, its
numbers may be of any size, and what stands between quotes need not be text.  The open brackets are
kept in a list, innermost first.

## Main definitions

* `skipHead`: a value without parts, or an opening bracket
* `pass`: values and brackets until all brackets are closed
* `skip`: one value, whatever it is

## Main results

* `length_lt_of_lead`, `length_lt_of_closed`: every step takes an octet
* `length_pass_le`: passing a value never makes the document longer
-/

namespace RemoteSigner.Json.Decoder

/-! ## Parts that have no parts -/

/-- Passes an escape, after its backslash.  Halves of surrogate pairs need not match. -/
def skipEscape : Decoder Unit := do
  let b ← nextInText
  if b = 0x75 then
    let _ ← fourDigits
  else if b = 0x22 ∨ b = 0x5C ∨ b = 0x2F ∨ b = 0x62 ∨ b = 0x66 ∨ b = 0x6E ∨ b = 0x72 ∨ b = 0x74 then
    pure ()
  else behind .invalidEscape

/-- Passes the octets between two quotes, and the closing quote.  In memory, a control character is
noticed before it is taken. -/
def passText (origin : Origin) (text : Bytes) : Outcome Unit :=
  match text with
  | [] => (nextInText.run origin []).map fun _ => ()
  | b :: rest =>
    if b = 0x22 then .done () rest
    else if b = 0x5C then
      match _ : skipEscape.run origin rest with
      | .done _ rest => passText origin rest
      | .failed fault rest => .failed fault rest
    else if b < 0x20 then
      .failed (.malformed .controlCharacter
        (if origin = .memory then rest.length + 1 else rest.length)) rest
    else passText origin rest
termination_by text.length
decreasing_by
  · exact Nat.lt_succ_of_le (skipEscape.shortens ‹_›)
  · exact Nat.lt_succ_self _

theorem length_passText_le {origin : Origin} {text rest : Bytes} {u : Unit}
    (h : passText origin text = .done u rest) : rest.length ≤ text.length := by
  fun_induction passText origin text with
  | case1 => cases origin <;> cases h
  | case2 => cases h; simp
  | case3 rest' _ _ rest'' run ih =>
    exact Nat.le_succ_of_le (Nat.le_trans (ih h) (skipEscape.shortens ‹skipEscape.run _ _ = _›))
  | case4 => cases h
  | case5 => cases h
  | case6 b rest' _ _ _ ih => exact Nat.le_succ_of_le (ih h)

/-- Passes a text after its opening quote. -/
def skipText : Decoder Unit := ⟨fun origin text => passText origin text, length_passText_le⟩

/-- Passes a power of ten after its letter. -/
def skipExponent : Decoder Unit := do
  let sign ← peek
  if sign = some 0x2B ∨ sign = some 0x2D then advance
  if (← next).any isDigit then
    let _ ← takeWhile isDigit
    let _ ← peek
  else behind .invalidNumber

/-- Passes what may follow the digits of a number: a power of ten or nothing. -/
def skipPower : Decoder Unit := do
  let b ← peek
  if b = some 0x65 ∨ b = some 0x45 then
    advance
    skipExponent

/-- Passes a number after its first octet, which is `b`. -/
def skipNumber (b : UInt8) : Decoder Unit := do
  if b = 0x30 then
    if (← peek).any isDigit then ahead .invalidNumber
  else if isDigit b then
    let _ ← takeWhile isDigit
  else behind .invalidNumber
  if (← peek) = some 0x2E then
    advance
    let part ← takeWhile isDigit
    let _ ← peek
    if part.isEmpty then ahead .invalidNumber else skipPower
  else skipPower

/-! ## Nesting -/

/-- A bracket that has been opened. -/
inductive Bracket where
  | list
  | object
  deriving DecidableEq

namespace Bracket

/-- The octet that closes it. -/
def closing : Bracket → UInt8
  | list => 0x5D
  | object => 0x7D

/-- The complaint about a document that ends before the bracket is closed. -/
def unclosed : Bracket → SyntaxError
  | list => .endInList
  | object => .endInObject

/-- The complaint about something else than a separator or the closing bracket. -/
def unseparated : Bracket → SyntaxError
  | list => .expectedListSeparator
  | object => .expectedObjectSeparator

end Bracket

/-- Takes the first octet of the next part of the document. -/
def lead (atEnd : SyntaxError) (next : UInt8 → Decoder α) : Decoder α where
  run origin text := match token.run origin text with
    | .done none rest => .failed (.malformed atEnd (rest.length - 1)) rest
    | .done (some b) rest => (next b).run origin rest.tail
    | .failed fault rest => .failed fault rest
  shortens {origin text value rest} h := by
    cases first : token.run origin text with
    | failed fault middle => simp [first] at h
    | done b middle =>
      cases b with
      | none => simp [first] at h
      | some b =>
        simp only [first] at h
        have := (next b).shortens h
        have := token.shortens first
        simp only [List.length_tail] at *
        omega

theorem length_lt_of_lead {atEnd : SyntaxError} {next : UInt8 → Decoder α} {origin : Origin}
    {text rest : Bytes} {value : α}
    (h : (lead atEnd next).run origin text = .done value rest) :
    rest.length < text.length := by
  simp only [lead] at h
  cases first : token.run origin text with
  | failed fault middle => simp [first] at h
  | done b middle =>
    cases b with
    | none => simp [first] at h
    | some b =>
      obtain ⟨tail, rfl⟩ := ahead_of_token first
      simp only [first, List.tail_cons] at h
      exact Nat.lt_of_le_of_lt ((next b).shortens h) (token.shortens first)

/-- Passes a value without parts, or the opening bracket of one with parts. -/
def skipHead : Decoder (Option Bracket) := lead .endInValue fun b => do
  if b = 0x6E then do word [0x75, 0x6C, 0x6C]; pure none
  else if b = 0x74 then do word [0x72, 0x75, 0x65]; pure none
  else if b = 0x66 then do word [0x61, 0x6C, 0x73, 0x65]; pure none
  else if b = 0x2D then do
    skipNumber ((← next).getD 0)
    pure none
  else if isDigit b then do skipNumber b; pure none
  else if b = 0x22 then do skipText; pure none
  else if b = 0x5B then pure (some .list)
  else if b = 0x7B then pure (some .object)
  else behind .expectedValue

/-- Passes what stands before a value: nothing in a list, a key in an object. -/
def skipKey : Bracket → Decoder Unit
  | .list => pure ()
  | .object => do
    match ← token with
    | none => ahead .endInObject
    | some b =>
      if b = 0x22 then do advance; skipText; colon
      else ahead .keyNotText

/-- What may come next inside an open bracket. -/
inductive Follow where
  /-- The bracket is closed. -/
  | closed
  /-- Another value comes. -/
  | another

/-- Passes the separator, if `after` a value, or the closing bracket.  An open bracket may be
followed by a value at once. -/
def skipSeparator (bracket : Bracket) (after : Bool) : Decoder Follow := do
  match ← token with
  | none => ahead bracket.unclosed
  | some b =>
    if b = bracket.closing then do advance; pure .closed
    else if !after then do skipKey bracket; pure .another
    else if b = 0x2C then do advance; skipKey bracket; pure .another
    else ahead bracket.unseparated

theorem length_lt_of_closed {bracket : Bracket} {after : Bool} {origin : Origin} {text rest : Bytes}
    (h : (skipSeparator bracket after).run origin text = .done .closed rest) :
    rest.length < text.length := by
  rw [skipSeparator, run_bind] at h
  cases first : token.run origin text with
  | failed fault middle => simp [first] at h
  | done b middle =>
    have shorter := token.shortens first
    cases b with
    | none => simp [first] at h
    | some b =>
      obtain ⟨tail, rfl⟩ := ahead_of_token first
      simp only [first] at h
      split at h
      · simp at h; subst h; exact shorter
      · split at h
        · simp only [run_bind, run_pure] at h
          cases second : (skipKey bracket).run origin (b :: tail) <;> simp [second] at h
        · split at h
          · simp only [run_bind, run_advance, run_pure] at h
            cases second : (skipKey bracket).run origin tail <;> simp [second] at h
          · simp at h

/-- Passes values and brackets until all brackets are closed.  `after` says whether a value has
just been passed. -/
def pass (origin : Origin) (after : Bool) (brackets : List Bracket) (text : Bytes) : Outcome Unit :=
  match after, brackets with
  | true, [] => .done () text
  | true, bracket :: outer =>
    match _ : (skipSeparator bracket true).run origin text with
    | .failed fault rest => .failed fault rest
    | .done .closed rest => pass origin true outer rest
    | .done .another rest => pass origin false (bracket :: outer) rest
  | false, brackets =>
    match _ : skipHead.run origin text with
    | .failed fault rest => .failed fault rest
    | .done none rest => pass origin true brackets rest
    | .done (some bracket) rest =>
      match _ : (skipSeparator bracket false).run origin rest with
      | .failed fault rest => .failed fault rest
      | .done .closed rest => pass origin true brackets rest
      | .done .another rest => pass origin false (bracket :: brackets) rest
termination_by 2 * text.length + after.toNat
decreasing_by
  · have := length_lt_of_closed ‹(skipSeparator _ _).run _ _ = _›; simp; omega
  · have := (skipSeparator _ _).shortens ‹(skipSeparator _ _).run _ _ = _›; simp; omega
  · have := length_lt_of_lead ‹skipHead.run _ _ = _›; simp; omega
  · have := length_lt_of_lead ‹skipHead.run _ _ = _›
    have := length_lt_of_closed ‹(skipSeparator _ _).run _ _ = _›; simp; omega
  · have := length_lt_of_lead ‹skipHead.run _ _ = _›
    have := (skipSeparator _ _).shortens ‹(skipSeparator _ _).run _ _ = _›; simp; omega

theorem length_pass_le {origin : Origin} {after : Bool} {brackets : List Bracket}
    {text rest : Bytes} {u : Unit}
    (h : pass origin after brackets text = .done u rest) : rest.length ≤ text.length := by
  fun_induction pass origin after brackets text with
  | case1 => cases h; exact Nat.le_refl _
  | case2 => cases h
  | case3 text bracket outer rest' run ih =>
    exact Nat.le_trans (ih h) ((skipSeparator _ _).shortens ‹(skipSeparator _ _).run _ _ = _›)
  | case4 text bracket outer rest' run ih =>
    exact Nat.le_trans (ih h) ((skipSeparator _ _).shortens ‹(skipSeparator _ _).run _ _ = _›)
  | case5 => cases h
  | case6 => rename_i ih; exact Nat.le_trans (ih h) (skipHead.shortens ‹skipHead.run _ _ = _›)
  | case7 => cases h
  | case8 =>
    rename_i ih
    exact Nat.le_trans (ih h) (Nat.le_trans
      ((skipSeparator _ _).shortens ‹(skipSeparator _ _).run _ _ = _›)
      (skipHead.shortens ‹skipHead.run _ _ = _›))
  | case9 =>
    rename_i ih
    exact Nat.le_trans (ih h) (Nat.le_trans
      ((skipSeparator _ _).shortens ‹(skipSeparator _ _).run _ _ = _›)
      (skipHead.shortens ‹skipHead.run _ _ = _›))

/-- Passes the next value, whatever it is. -/
def skip : Decoder Unit := ⟨fun origin text => pass origin false [] text, length_pass_le⟩

end RemoteSigner.Json.Decoder
