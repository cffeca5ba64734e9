import RemoteSigner.Json.Value

/-!
# Lists and objects

The parts of a list or an object are read one after the other, with a separator before each one but
the first.  The closing bracket is left for `endList` and `endObject`, because a reader that wants
a fixed number of parts finds out only there that there are more.

Values are nested at most `maxLevels` deep.

## Main definitions

* `moreItems`, `moreMembers`: whether a list or an object goes on
* `foldItems`, `foldMembers`: all parts, read into a state
* `value`: any value of a limited depth

## Main results

* `length_lt_of_moreItems`, `length_lt_of_moreMembers`: a separator shortens the document
-/

namespace RemoteSigner.Json

/-- How many lists and objects may be open at once. -/
def maxLevels : Nat := 127

namespace Decoder

/-! ## Separators and brackets -/

/-- What has to follow the separator of a list. -/
def anotherItem : Decoder Bool := do
  match ← token with
  | none => ahead .endInValue
  | some b => if b = 0x5D then ahead .trailingComma else pure true

/-- Whether a list goes on; passes the separator if it does. -/
def moreItems (first : Bool) : Decoder Bool := do
  match ← token with
  | none => ahead .endInList
  | some b =>
    if b = 0x5D then pure false
    else if first then pure true
    else if b = 0x2C then do advance; anotherItem
    else ahead .expectedListSeparator

/-- What has to follow the separator of an object. -/
def anotherMember : Decoder Bool := do
  match ← token with
  | none => ahead .endInValue
  | some b =>
    if b = 0x22 then pure true
    else if b = 0x7D then ahead .trailingComma
    else ahead .keyNotText

/-- Whether an object goes on; passes the separator if it does. -/
def moreMembers (first : Bool) : Decoder Bool := do
  match ← token with
  | none => ahead .endInObject
  | some b =>
    if b = 0x7D then pure false
    else if first then if b = 0x22 then pure true else ahead .keyNotText
    else if b = 0x2C then do advance; anotherMember
    else ahead .expectedObjectSeparator

/-- Passes the end of a list.  A separator in its place stands for too many items, or is itself one
too many. -/
def endList : Decoder Unit := do
  match ← token with
  | none => ahead .endInList
  | some b =>
    if b = 0x5D then advance
    else if b = 0x2C then do
      advance
      if (← token) = some 0x5D then ahead .trailingComma else ahead .trailingCharacters
    else ahead .trailingCharacters

/-- Passes the end of an object. -/
def endObject : Decoder Unit := do
  match ← token with
  | none => ahead .endInObject
  | some b =>
    if b = 0x7D then advance
    else if b = 0x2C then ahead .trailingComma
    else ahead .trailingCharacters

/-- Reads a key whose opening quote is ahead. -/
def key : Decoder String := do
  advance
  text

/-- Passes the colon between a key and its value. -/
def colon : Decoder Unit := do
  match ← token with
  | none => ahead .endInObject
  | some b => if b = 0x3A then advance else ahead .expectedColon

/-- Reads between the brackets of a list or object, one level deeper; the opening bracket is ahead.
-/
def inside (levels : Nat) (closing : Decoder Unit) (body : Nat → Decoder α) : Decoder α :=
  match levels with
  | 0 => ahead .nestedTooDeeply
  | levels + 1 => do
    advance
    (body levels).enclosed closing

/-! ## Every separator shortens the document -/

theorem length_lt_of_moreItems {origin : Origin} {text rest : Bytes}
    (h : (moreItems false).run origin text = .done true rest) : rest.length < text.length := by
  rw [moreItems, run_bind] at h
  cases first : token.run origin text with
  | failed fault middle => simp [first] at h
  | done b middle =>
    have shorter := token.shortens first
    cases b with
    | none => simp [first] at h
    | some b =>
      obtain ⟨tail, rfl⟩ := ahead_of_token first
      simp only [first] at h
      split at h
      · simp at h
      · simp only [Bool.false_eq_true, if_false] at h
        split at h
        · exact Nat.lt_of_le_of_lt (anotherItem.shortens h) shorter
        · simp at h

theorem length_lt_of_moreMembers {origin : Origin} {text rest : Bytes}
    (h : (moreMembers false).run origin text = .done true rest) : rest.length < text.length := by
  rw [moreMembers, run_bind] at h
  cases first : token.run origin text with
  | failed fault middle => simp [first] at h
  | done b middle =>
    have shorter := token.shortens first
    cases b with
    | none => simp [first] at h
    | some b =>
      obtain ⟨tail, rfl⟩ := ahead_of_token first
      simp only [first] at h
      split at h
      · simp at h
      · simp only [Bool.false_eq_true, if_false] at h
        split at h
        · exact Nat.lt_of_le_of_lt (anotherMember.shortens h) shorter
        · simp at h

/-! ## Loops over the parts -/

/-- How much is left of a loop over the parts: after the first part every round passes a separator.
-/
def loopMeasure (first : Bool) (text : Bytes) : Nat := 2 * text.length + first.toNat

/-- Reads item after item into a state, up to the closing bracket. -/
def loopItems (step : σ → Decoder σ) (origin : Origin) (first : Bool) (state : σ) (text : Bytes) :
    Outcome σ :=
  match _ : (moreItems first).run origin text with
  | .failed fault rest => .failed fault rest
  | .done false rest => .done state rest
  | .done true rest =>
    match _ : (step state).run origin rest with
    | .failed fault rest => .failed fault rest
    | .done state rest => loopItems step origin false state rest
termination_by loopMeasure first text
decreasing_by
  have shorter := (step _).shortens ‹(step _).run _ _ = _›
  have more := ‹(moreItems _).run _ _ = _›
  cases first with
  | true => have := (moreItems true).shortens more; simp [loopMeasure]; omega
  | false => have := length_lt_of_moreItems more; simp [loopMeasure]; omega

theorem length_loopItems_le {step : σ → Decoder σ} {origin : Origin} {first : Bool}
    {state result : σ} {text rest : Bytes}
    (h : loopItems step origin first state text = .done result rest) :
    rest.length ≤ text.length := by
  fun_induction loopItems step origin first state text with
  | case1 => cases h
  | case2 first state text rest more => cases h; exact (moreItems _).shortens more
  | case3 => cases h
  | case4 first state text middle more state' last read ih =>
    exact Nat.le_trans (ih h) (Nat.le_trans ((step _).shortens read) ((moreItems _).shortens more))

/-- Reads the items of a list into a state, from the first one or behind another one. -/
def foldItems (first : Bool) (step : σ → Decoder σ) (state : σ) : Decoder σ where
  run origin text := loopItems step origin first state text
  shortens := length_loopItems_le

/-- Reads member after member into a state, up to the closing bracket; `step` starts behind the
key. -/
def loopMembers (step : σ → String → Decoder σ) (origin : Origin) (first : Bool) (state : σ)
    (text : Bytes) : Outcome σ :=
  match _ : (moreMembers first).run origin text with
  | .failed fault rest => .failed fault rest
  | .done false rest => .done state rest
  | .done true rest =>
    match _ : (key >>= step state).run origin rest with
    | .failed fault rest => .failed fault rest
    | .done state rest => loopMembers step origin false state rest
termination_by loopMeasure first text
decreasing_by
  have shorter := (key >>= step _).shortens ‹(key >>= step _).run _ _ = _›
  have more := ‹(moreMembers _).run _ _ = _›
  cases first with
  | true => have := (moreMembers true).shortens more; simp [loopMeasure]; omega
  | false => have := length_lt_of_moreMembers more; simp [loopMeasure]; omega

theorem length_loopMembers_le {step : σ → String → Decoder σ} {origin : Origin} {first : Bool}
    {state result : σ} {text rest : Bytes}
    (h : loopMembers step origin first state text = .done result rest) :
    rest.length ≤ text.length := by
  fun_induction loopMembers step origin first state text with
  | case1 => cases h
  | case2 first state text rest more => cases h; exact (moreMembers _).shortens more
  | case3 => cases h
  | case4 first state text middle more state' last read ih =>
    exact Nat.le_trans (ih h) <|
      Nat.le_trans ((key >>= step _).shortens read) ((moreMembers _).shortens more)

/-- Reads all members of an object into a state. -/
def foldMembers (step : σ → String → Decoder σ) (state : σ) : Decoder σ where
  run origin text := loopMembers step origin true state text
  shortens := length_loopMembers_le

/-! ## Whole values -/

/-- Reads all items of a list whose opening bracket is ahead. -/
def items (item : Decoder α) : Decoder (List α) := do
  advance
  let items ← (foldItems true (fun items => do return (← item) :: items) []).enclosed endList
  return items.reverse

/-- Reads all members of an object whose opening bracket is ahead. -/
def members (item : Decoder α) : Decoder (List (String × α)) := do
  advance
  let step members key := do
    colon
    return (key, ← item) :: members
  let members ← (foldMembers step []).enclosed endObject
  return members.reverse

/-- Reads a value, given how lists and objects are read. -/
def valueOf (list : Decoder (List Value)) (object : Decoder (List (String × Value))) :
    Decoder Value :=
  placed do
    match ← head with
    | .null => pure .null
    | .bool b => pure (.bool b)
    | .number n => pure (.number n)
    | .text s => pure (.text s)
    | .list => return .list (← list)
    | .object => return .object (← object)

/-- Reads any value of which at most `levels` lists and objects are open at once. -/
def value : Nat → Decoder Value
  | 0 => valueOf (ahead .nestedTooDeeply) (ahead .nestedTooDeeply)
  | levels + 1 => valueOf (items (value levels)) (members (value levels))

end Decoder

end RemoteSigner.Json
