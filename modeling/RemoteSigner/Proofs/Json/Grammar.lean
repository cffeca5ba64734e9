import RemoteSigner.Json.Skip
import RemoteSigner.Proofs.Json.Loops

/-!
# Any value at all

The grammar of documents down to their octets, for values that nobody asked for.  It is wider than
`Spells`: numbers have any sign, size and precision, texts hold any escape, be it half of a surrogate
pair, and any octets beyond ASCII, and values are nested to any depth.

Passing such a value leaves exactly what follows it, with the open brackets as they were.

## Main definitions

* `Numeral`, `Characters`: numbers, and what may stand between two quotes
* `WellFormed`: a value of any kind, without blanks at either end

## Main results

* `Decoder.pass_wellFormed`: a value is passed with all of its parts
* `Decoder.run_skip`: the reader for unknown values passes it
-/

namespace RemoteSigner.Json

/-! ## Numbers -/

/-- One digit or more. -/
def Digits (text : Bytes) : Prop := text ≠ [] ∧ ∀ b ∈ text, isDigit b = true

/-- The digits of a number before its point; none stand behind a leading zero. -/
inductive WholePart : Bytes → Prop where
  | zero : WholePart [0x30]
  | digits {b : UInt8} {more : Bytes} (nonzero : b ≠ 0x30) (digit : isDigit b = true)
      (others : ∀ c ∈ more, isDigit c = true) : WholePart (b :: more)

/-- The digits of a number behind its point, or nothing. -/
inductive FractionPart : Bytes → Prop where
  | none : FractionPart []
  | some {digits : Bytes} (all : Digits digits) : FractionPart (0x2E :: digits)

/-- The power of ten of a number, or nothing. -/
inductive ExponentPart : Bytes → Prop where
  | none : ExponentPart []
  | some {letter : UInt8} {sign digits : Bytes} (known : letter = 0x65 ∨ letter = 0x45)
      (signed : sign = [] ∨ sign = [0x2B] ∨ sign = [0x2D]) (all : Digits digits) :
      ExponentPart (letter :: (sign ++ digits))

/-- A number of any size. -/
inductive Numeral : Bytes → Prop where
  | positive {whole fraction exponent : Bytes} (first : WholePart whole)
      (second : FractionPart fraction) (third : ExponentPart exponent) :
      Numeral (whole ++ (fraction ++ exponent))
  | negative {whole fraction exponent : Bytes} (first : WholePart whole)
      (second : FractionPart fraction) (third : ExponentPart exponent) :
      Numeral (0x2D :: (whole ++ (fraction ++ exponent)))

/-! ## Texts -/

/-- Four hexadecimal digits, and the number that they spell. -/
def FourDigits (digits : Bytes) (n : Nat) : Prop :=
  ∃ a b c d a' b' c' d', digits = [a, b, c, d] ∧ Decoder.hexValue? a = some a' ∧
    Decoder.hexValue? b = some b' ∧ Decoder.hexValue? c = some c' ∧ Decoder.hexValue? d = some d' ∧
    n = ((a' * 16 + b') * 16 + c') * 16 + d'

/-- The escapes of one letter, with the octets that they stand for. -/
def shortEscapes : List (UInt8 × UInt8) :=
  [(0x22, 0x22), (0x5C, 0x5C), (0x2F, 0x2F), (0x62, 0x08), (0x66, 0x0C), (0x6E, 0x0A), (0x72, 0x0D),
    (0x74, 0x09)]

/-- What may stand between two quotes, whether it is text or not. -/
inductive Characters : Bytes → Prop where
  | nil : Characters []
  | plain {b : UInt8} {more : Bytes} (notQuote : b ≠ 0x22) (notBackslash : b ≠ 0x5C)
      (printable : ¬ b < 0x20) (others : Characters more) : Characters (b :: more)
  | short {letter b : UInt8} {more : Bytes} (known : (letter, b) ∈ shortEscapes)
      (others : Characters more) : Characters (0x5C :: letter :: more)
  | numbered {digits more : Bytes} {n : Nat} (four : FourDigits digits n)
      (others : Characters more) : Characters (0x5C :: 0x75 :: (digits ++ more))

/-! ## Values -/

mutual

/-- A value of any kind, without blanks at either end. -/
inductive WellFormed : Bytes → Prop where
  | null : WellFormed (Bytes.ofText "null")
  | bool (b : Bool) : WellFormed (truth b)
  | number {text : Bytes} (numeral : Numeral text) : WellFormed text
  | text {inner : Bytes} (characters : Characters inner) : WellFormed (0x22 :: (inner ++ [0x22]))
  | list {body : Bytes} (inner : WellFormedItems true body) : WellFormed (0x5B :: (body ++ [0x5D]))
  | object {body : Bytes} (inner : WellFormedMembers true body) :
      WellFormed (0x7B :: (body ++ [0x7D]))

/-- The items of a list up to the bracket that closes it; `first` says that no item comes before
them. -/
inductive WellFormedItems : Bool → Bytes → Prop where
  | nil (first : Bool) {gap : Bytes} (blank : Gap gap) : WellFormedItems first gap
  | first {gap text body : Bytes} (blank : Gap gap) (value : WellFormed text)
      (more : WellFormedItems false body) : WellFormedItems true (gap ++ (text ++ body))
  | next {before after text body : Bytes} (blankBefore : Gap before) (blankAfter : Gap after)
      (value : WellFormed text) (more : WellFormedItems false body) :
      WellFormedItems false (before ++ 0x2C :: (after ++ (text ++ body)))

/-- The members of an object up to the bracket that closes it; `first` says that no member comes
before them. -/
inductive WellFormedMembers : Bool → Bytes → Prop where
  | nil (first : Bool) {gap : Bytes} (blank : Gap gap) : WellFormedMembers first gap
  | first {gap key colon space text body : Bytes} (blank : Gap gap) (characters : Characters key)
      (blankColon : Gap colon) (blankSpace : Gap space) (value : WellFormed text)
      (more : WellFormedMembers false body) :
      WellFormedMembers true
        (gap ++ 0x22 :: (key ++ 0x22 :: (colon ++ 0x3A :: (space ++ (text ++ body)))))
  | next {before after key colon space text body : Bytes} (blankBefore : Gap before)
      (blankAfter : Gap after) (characters : Characters key) (blankColon : Gap colon)
      (blankSpace : Gap space) (value : WellFormed text) (more : WellFormedMembers false body) :
      WellFormedMembers false (before ++ 0x2C ::
        (after ++ 0x22 :: (key ++ 0x22 :: (colon ++ 0x3A :: (space ++ (text ++ body))))))

end

namespace Decoder

variable {origin : Origin} {gap rest : Bytes} {b : UInt8}

/-! ## Passing numbers -/

/-- No digit is ahead. -/
def Undigited (text : Bytes) : Prop := text.head?.any isDigit = false

theorem undigited_of_closes (closes : Closes rest) : Undigited rest := by
  cases rest with
  | nil => rfl
  | cons b rest =>
    have := closes b rfl
    simp only [extendsNumber, Bool.or_eq_false_iff] at this
    simpa [Undigited] using this.1.1.1

theorem takeWhile_digits (origin : Origin) {digits : Bytes} (all : ∀ b ∈ digits, isDigit b = true)
    (stop : Undigited rest) : (takeWhile isDigit).run origin (digits ++ rest) =
      .done digits rest := by
  have none : rest.takeWhile isDigit = [] ∧ rest.dropWhile isDigit = rest := by
    cases rest with
    | nil => exact ⟨rfl, rfl⟩
    | cons b rest =>
      have : isDigit b = false := by simpa [Undigited] using stop
      simp [this]
  rw [run_takeWhile, List.takeWhile_append_of_pos all, List.dropWhile_append_of_pos all, none.1,
    none.2, List.append_nil]

theorem run_skipExponent (whole : origin.Whole) {sign digits : Bytes}
    (signed : sign = [] ∨ sign = [0x2B] ∨ sign = [0x2D]) (isDigits : Digits digits)
    (closes : Closes rest) : skipExponent.run origin (sign ++ (digits ++ rest)) = .done () rest := by
  obtain ⟨some, all⟩ := isDigits
  obtain ⟨d, digits, rfl⟩ := List.exists_cons_of_ne_nil some
  rw [List.forall_mem_cons] at all
  have taken := takeWhile_digits origin all.2 (undigited_of_closes closes)
  have notPlus : d ≠ 0x2B := fun h => absurd (h ▸ all.1) (by decide)
  have notMinus : d ≠ 0x2D := fun h => absurd (h ▸ all.1) (by decide)
  have digitsLeft : (do
      if (← next).any isDigit then
        let _ ← takeWhile isDigit
        let _ ← peek
      else behind .invalidNumber : Decoder Unit).run origin (d :: (digits ++ rest)) =
        .done () rest := by
    simp only [run_bind, run_next_cons, Option.any_some, all.1, if_true, taken, run_peek whole]
    rfl
  rcases signed with rfl | rfl | rfl
  · simp only [List.nil_append, List.cons_append, skipExponent, run_bind, run_peek whole,
      List.head?_cons, Option.some.injEq, notPlus, notMinus, or_self, if_false]
    exact digitsLeft
  · simp only [List.cons_append, List.nil_append, skipExponent, run_bind, run_peek whole,
      List.head?_cons, true_or, if_true, run_advance, List.tail_cons]
    exact digitsLeft
  · simp only [List.cons_append, List.nil_append, skipExponent, run_bind, run_peek whole,
      List.head?_cons, or_true, if_true, run_advance, List.tail_cons]
    exact digitsLeft

theorem run_skipPower (whole : origin.Whole) {exponent : Bytes} (part : ExponentPart exponent)
    (closes : Closes rest) : skipPower.run origin (exponent ++ rest) = .done () rest := by
  cases part with
  | none =>
    rw [List.nil_append, skipPower, run_bind, run_peek whole]
    cases rest with
    | nil => rfl
    | cons b rest =>
      have := closes b rfl
      simp only [extendsNumber, Bool.or_eq_false_iff, beq_eq_false_iff_ne] at this
      simp [this]
  | some known signed all =>
    have passed := run_skipExponent whole signed all closes
    rw [List.cons_append, List.append_assoc, skipPower, run_bind, run_peek whole]
    rcases known with rfl | rfl <;>
      simp only [List.head?_cons, true_or, or_true, if_true, run_bind, run_advance, List.tail_cons,
        passed]

theorem undigited_of_parts {fraction exponent : Bytes} (part : FractionPart fraction)
    (part' : ExponentPart exponent) (closes : Closes rest) :
    Undigited (fraction ++ (exponent ++ rest)) := by
  cases part with
  | some => rfl
  | none =>
    cases part' with
    | none => exact undigited_of_closes closes
    | some known => rcases known with rfl | rfl <;> rfl

/-- What follows the digits before the point is passed. -/
theorem run_skipDecimals (whole : origin.Whole) {fraction exponent : Bytes}
    (part : FractionPart fraction) (part' : ExponentPart exponent) (closes : Closes rest) :
    (do
      if (← peek) = some 0x2E then
        advance
        let part ← takeWhile isDigit
        let _ ← peek
        if part.isEmpty then ahead .invalidNumber else skipPower
      else skipPower : Decoder Unit).run origin (fraction ++ (exponent ++ rest)) =
        .done () rest := by
  have power := run_skipPower whole part' closes
  have stop := undigited_of_parts .none part' closes
  cases part with
  | some all =>
    obtain ⟨some, all⟩ := all
    have taken := takeWhile_digits origin all stop
    simp only [List.cons_append, run_bind, run_peek whole, List.head?_cons, if_true, run_advance,
      List.tail_cons, List.nil_append] at taken ⊢
    simp only [taken, List.isEmpty_eq_false_iff.mpr some, Bool.false_eq_true, if_false, power]
  | none =>
    have noPoint : (exponent ++ rest).head? ≠ some 0x2E := by
      cases part' with
      | some known => rcases known with rfl | rfl <;> simp
      | none =>
        cases rest with
        | nil => simp
        | cons b rest =>
          have := closes b rfl
          simp only [extendsNumber, Bool.or_eq_false_iff, beq_eq_false_iff_ne] at this
          simpa using this.1.1.2
    simp only [List.nil_append, run_bind, run_peek whole, noPoint, if_false, power]

theorem run_skipNumber (whole : origin.Whole) {more fraction exponent : Bytes}
    (digits : WholePart (b :: more)) (part : FractionPart fraction)
    (part' : ExponentPart exponent) (closes : Closes rest) :
    (skipNumber b).run origin (more ++ (fraction ++ (exponent ++ rest))) = .done () rest := by
  have decimals := run_skipDecimals whole part part' closes
  have stop := undigited_of_parts part part' closes
  cases digits with
  | zero =>
    have none : (fraction ++ (exponent ++ rest)).head?.any isDigit = false := stop
    simp only [List.nil_append, skipNumber, if_true, run_bind, run_peek whole, none,
      Bool.false_eq_true, if_false] at decimals ⊢
    exact decimals
  | digits nonzero digit others =>
    have taken := takeWhile_digits origin others stop
    simp only [skipNumber, if_neg nonzero, digit, if_true, run_bind, taken] at decimals ⊢
    exact decimals

/-! ## Passing texts -/

theorem run_fourDigits_of {digits : Bytes} {n : Nat} (four : FourDigits digits n) (rest : Bytes) :
    fourDigits.run origin (digits ++ rest) = .done n rest := by
  obtain ⟨a, b, c, d, a', b', c', d', rfl, ha, hb, hc, hd, rfl⟩ := four
  simp [fourDigits, ha, hb, hc, hd]

theorem passText_of_escape {text : Bytes} (h : skipEscape.run origin text = .done () rest) :
    passText origin (0x5C :: text) = passText origin rest := by
  rw [passText, if_neg (by decide), if_pos rfl]
  split <;> simp_all

/-- What stands between two quotes is passed, with the closing one. -/
theorem passText_characters {inner : Bytes} (characters : Characters inner) (rest : Bytes) :
    passText origin (inner ++ 0x22 :: rest) = .done () rest := by
  induction characters with
  | nil => rw [List.nil_append, passText, if_pos rfl]
  | plain notQuote notBackslash printable _ ih =>
    rw [List.cons_append, passText, if_neg notQuote, if_neg notBackslash, if_neg printable, ih]
  | @short letter b more known _ ih =>
    have passed : skipEscape.run origin (letter :: (more ++ 0x22 :: rest)) =
        .done () (more ++ 0x22 :: rest) := by
      simp only [shortEscapes, List.mem_cons, Prod.mk.injEq, List.not_mem_nil, or_false] at known
      rcases known with ⟨rfl, -⟩ | ⟨rfl, -⟩ | ⟨rfl, -⟩ | ⟨rfl, -⟩ | ⟨rfl, -⟩ | ⟨rfl, -⟩ | ⟨rfl, -⟩ |
        ⟨rfl, -⟩ <;> simp [skipEscape]
    rw [List.cons_append, List.cons_append, passText_of_escape passed, ih]
  | @numbered digits more n four _ ih =>
    have passed : skipEscape.run origin (0x75 :: (digits ++ (more ++ 0x22 :: rest))) =
        .done () (more ++ 0x22 :: rest) := by
      simp [skipEscape, run_fourDigits_of four]
    rw [List.cons_append, List.cons_append, List.append_assoc, passText_of_escape passed, ih]

theorem run_skipText {inner : Bytes} (characters : Characters inner) (rest : Bytes) :
    skipText.run origin (inner ++ 0x22 :: rest) = .done () rest :=
  passText_characters characters rest

/-! ## Passing values -/

/-- A value without parts, or an opening bracket, is passed behind any gap. -/
theorem run_skipHead (blank : Gap gap) (solid : isBlank b = false) (tail : Bytes) :
    skipHead.run origin (gap ++ b :: tail) = (do
      if b = 0x6E then do word [0x75, 0x6C, 0x6C]; pure none
      else if b = 0x74 then do word [0x72, 0x75, 0x65]; pure none
      else if b = 0x66 then do word [0x61, 0x6C, 0x73, 0x65]; pure none
      else if b = 0x2D then do
        skipNumber ((← next).getD 0)
        pure none
      else if isDigit b then do skipNumber b; pure none
      else if b = 0x22 then do skipText; pure none
      else if b = 0x5B then pure (some .list)
      else if b = 0x7B then pure (some .object)
      else behind .expectedValue : Decoder (Option Bracket)).run origin tail := by
  simp only [skipHead, lead, run_token_cons blank solid, List.tail_cons]

theorem run_skipHead_null (blank : Gap gap) (rest : Bytes) :
    skipHead.run origin (gap ++ (Bytes.ofText "null" ++ rest)) = .done none rest := by
  have written : Bytes.ofText "null" = 0x6E :: [0x75, 0x6C, 0x6C] := by decide
  rw [written, List.cons_append, run_skipHead blank rfl]
  simp only [if_true, run_bind, run_word, run_pure]

theorem run_skipHead_truth (b : Bool) (blank : Gap gap) (rest : Bytes) :
    skipHead.run origin (gap ++ (truth b ++ rest)) = .done none rest := by
  cases b with
  | true =>
    have written : truth true = 0x74 :: [0x72, 0x75, 0x65] := by decide
    rw [written, List.cons_append, run_skipHead blank rfl]
    simp +decide only [if_true, if_false, run_bind, run_word, run_pure]
  | false =>
    have written : truth false = 0x66 :: [0x61, 0x6C, 0x73, 0x65] := by decide
    rw [written, List.cons_append, run_skipHead blank rfl]
    simp +decide only [if_true, if_false, run_bind, run_word, run_pure]

theorem exists_cons_of_wholePart {whole : Bytes} (digits : WholePart whole) :
    ∃ b more, whole = b :: more ∧ isDigit b = true := by
  cases digits with
  | zero => exact ⟨_, _, rfl, rfl⟩
  | digits nonzero digit others => exact ⟨_, _, rfl, digit⟩

/-- A number is passed over: its first octet is none of those that begin something else. -/
theorem run_skipHead_numeral (whole : origin.Whole) {text : Bytes} (numeral : Numeral text)
    (blank : Gap gap) (closes : Closes rest) :
    skipHead.run origin (gap ++ (text ++ rest)) = .done none rest := by
  cases numeral with
  | positive first second third =>
    obtain ⟨b, more, rfl, digit⟩ := exists_cons_of_wholePart first
    have passed := run_skipNumber whole first second third closes
    have other {c : UInt8} (h : isDigit c = false) : b ≠ c := by
      rintro rfl
      exact absurd digit (by simp [h])
    have solid : isBlank b = false := by
      simp [isBlank, other (show isDigit 0x20 = false from rfl),
        other (show isDigit 0x0A = false from rfl), other (show isDigit 0x09 = false from rfl),
        other (show isDigit 0x0D = false from rfl)]
    rw [List.cons_append, List.cons_append, run_skipHead blank solid, if_neg (other rfl),
      if_neg (other rfl), if_neg (other rfl), if_neg (other rfl), if_pos digit, run_bind,
      List.append_assoc, List.append_assoc, passed]
    rfl
  | negative first second third =>
    obtain ⟨b, more, rfl, digit⟩ := exists_cons_of_wholePart first
    have passed := run_skipNumber whole first second third closes
    rw [List.cons_append, run_skipHead blank rfl]
    simp only [List.cons_append, List.append_assoc] at passed ⊢
    simp +decide only [if_true, if_false, run_bind, run_next_cons, Option.getD_some, passed,
      run_pure]

theorem run_skipHead_text {inner : Bytes} (characters : Characters inner) (blank : Gap gap)
    (rest : Bytes) :
    skipHead.run origin (gap ++ 0x22 :: (inner ++ 0x22 :: rest)) = .done none rest := by
  rw [run_skipHead blank rfl]
  simp +decide only [if_true, if_false, run_bind, run_skipText characters, run_pure]

theorem run_skipHead_list (blank : Gap gap) (tail : Bytes) :
    skipHead.run origin (gap ++ 0x5B :: tail) = .done (some .list) tail := by
  rw [run_skipHead blank rfl]
  rfl

theorem run_skipHead_object (blank : Gap gap) (tail : Bytes) :
    skipHead.run origin (gap ++ 0x7B :: tail) = .done (some .object) tail := by
  rw [run_skipHead blank rfl]
  rfl

/-- What `pass` does inside an open bracket, behind a value or not. -/
def follow (origin : Origin) (after : Bool) (bracket : Bracket) (outer : List Bracket)
    (text : Bytes) : Outcome Unit :=
  match (skipSeparator bracket after).run origin text with
  | .failed fault rest => .failed fault rest
  | .done .closed rest => pass origin true outer rest
  | .done .another rest => pass origin false (bracket :: outer) rest

theorem pass_after (bracket : Bracket) (outer : List Bracket) (text : Bytes) :
    pass origin true (bracket :: outer) text = follow origin true bracket outer text := by
  rw [pass, follow]
  split <;> simp_all

theorem pass_of_head {brackets : List Bracket} {text : Bytes}
    (head : skipHead.run origin text = .done none rest) :
    pass origin false brackets text = pass origin true brackets rest := by
  rw [pass]
  split <;> simp_all

theorem pass_of_bracket {bracket : Bracket} {brackets : List Bracket} {text : Bytes}
    (head : skipHead.run origin text = .done (some bracket) rest) :
    pass origin false brackets text = follow origin false bracket brackets rest := by
  rw [pass, follow]
  split
  · simp_all
  · simp_all
  · rename_i h
    obtain ⟨rfl, rfl⟩ : bracket = _ ∧ rest = _ := by simpa using head.symm.trans h
    split <;> simp_all

/-- A value begins with an octet that is neither a blank nor a bracket that closes a list. -/
theorem exists_cons_of_wellFormed {text : Bytes} (value : WellFormed text) :
    ∃ b tail, text = b :: tail ∧ isBlank b = false ∧ b ≠ 0x5D := by
  cases value with
  | null => exact ⟨_, _, rfl, rfl, by decide⟩
  | bool b => cases b <;> exact ⟨_, _, rfl, rfl, by decide⟩
  | number numeral =>
    cases numeral with
    | positive first second third =>
      obtain ⟨b, more, rfl, digit⟩ := exists_cons_of_wholePart first
      refine ⟨b, _, rfl, ?_, ?_⟩
      · simp only [isBlank, Bool.or_eq_false_iff, beq_eq_false_iff_ne]
        refine ⟨⟨⟨?_, ?_⟩, ?_⟩, ?_⟩ <;> (rintro rfl; exact absurd digit (by decide))
      · rintro rfl
        exact absurd digit (by decide)
    | negative => exact ⟨_, _, rfl, rfl, by decide⟩
  | text => exact ⟨_, _, rfl, rfl, by decide⟩
  | list => exact ⟨_, _, rfl, rfl, by decide⟩
  | object => exact ⟨_, _, rfl, rfl, by decide⟩

theorem follow_closed (after : Bool) (bracket : Bracket) (outer : List Bracket) (blank : Gap gap)
    (rest : Bytes) :
    follow origin after bracket outer (gap ++ bracket.closing :: rest) =
      pass origin true outer rest := by
  have solid : isBlank bracket.closing = false := by cases bracket <;> rfl
  simp only [follow, skipSeparator, run_bind, run_token_cons blank solid, if_true, run_advance,
    List.tail_cons, run_pure]

theorem follow_item (outer : List Bracket) (blank : Gap gap) (solid : isBlank b = false)
    (open' : b ≠ 0x5D) (tail : Bytes) :
    follow origin false .list outer (gap ++ b :: tail) =
      pass origin false (.list :: outer) (b :: tail) := by
  have another : (skipSeparator .list false).run origin (gap ++ b :: tail) =
      .done .another (b :: tail) := by
    rw [skipSeparator, run_bind, run_token_cons blank solid]
    simp [Bracket.closing, open', skipKey]
  rw [follow, another]

theorem follow_next_item (outer : List Bracket) (blank : Gap gap) (tail : Bytes) :
    follow origin true .list outer (gap ++ 0x2C :: tail) =
      pass origin false (.list :: outer) tail := by
  have another : (skipSeparator .list true).run origin (gap ++ 0x2C :: tail) =
      .done .another tail := by
    rw [skipSeparator, run_bind, run_token_cons blank rfl]
    simp +decide [skipKey]
  rw [follow, another]

theorem run_skipKey (origin : Origin) {key colon : Bytes} (characters : Characters key) (blank : Gap gap)
    (blankColon : Gap colon) (tail : Bytes) :
    (skipKey .object).run origin (gap ++ 0x22 :: (key ++ 0x22 :: (colon ++ 0x3A :: tail))) =
      .done () tail := by
  rw [skipKey, run_bind, run_token_cons blank rfl]
  simp [run_skipText characters, run_colon blankColon]

theorem follow_member (outer : List Bracket) {key colon : Bytes} (characters : Characters key)
    (blank : Gap gap) (blankColon : Gap colon) (tail : Bytes) :
    follow origin false .object outer
        (gap ++ 0x22 :: (key ++ 0x22 :: (colon ++ 0x3A :: tail))) =
      pass origin false (.object :: outer) tail := by
  have passed := run_skipKey origin characters .nil blankColon tail
  have another : (skipSeparator .object false).run origin
      (gap ++ 0x22 :: (key ++ 0x22 :: (colon ++ 0x3A :: tail))) = .done .another tail := by
    rw [List.nil_append] at passed
    rw [skipSeparator, run_bind, run_token_cons blank rfl]
    simp +decide [passed]
  rw [follow, another]

theorem follow_next_member (outer : List Bracket) {after key colon : Bytes} (blank : Gap gap)
    (blankAfter : Gap after) (characters : Characters key) (blankColon : Gap colon)
    (tail : Bytes) :
    follow origin true .object outer
        (gap ++ 0x2C :: (after ++ 0x22 :: (key ++ 0x22 :: (colon ++ 0x3A :: tail)))) =
      pass origin false (.object :: outer) tail := by
  have another : (skipSeparator .object true).run origin
      (gap ++ 0x2C :: (after ++ 0x22 :: (key ++ 0x22 :: (colon ++ 0x3A :: tail)))) =
        .done .another tail := by
    rw [skipSeparator, run_bind, run_token_cons blank rfl]
    simp +decide [run_skipKey origin characters blankAfter blankColon]
  rw [follow, another]

theorem closes_of_items {body : Bytes} (items : WellFormedItems false body) (rest : Bytes) :
    Closes (body ++ 0x5D :: rest) := by
  cases items with
  | nil _ blank => exact .gap_append blank (.cons _ rfl)
  | next blankBefore =>
    rw [List.append_assoc, List.cons_append]
    exact .gap_append blankBefore (.cons _ rfl)

theorem closes_of_members {body : Bytes} (members : WellFormedMembers false body) (rest : Bytes) :
    Closes (body ++ 0x7D :: rest) := by
  cases members with
  | nil _ blank => exact .gap_append blank (.cons _ rfl)
  | next blankBefore =>
    rw [List.append_assoc, List.cons_append]
    exact .gap_append blankBefore (.cons _ rfl)

mutual

/-- A value of any kind is passed with all of its parts, whatever brackets are open around it. -/
theorem pass_wellFormed (whole : origin.Whole) : ∀ {text : Bytes}, WellFormed text →
    ∀ (brackets : List Bracket) {gap rest : Bytes}, Gap gap → Closes rest →
      pass origin false brackets (gap ++ (text ++ rest)) = pass origin true brackets rest
  | _, .null, _, _, rest, blank, _ => pass_of_head (run_skipHead_null blank rest)
  | _, .bool b, _, _, rest, blank, _ => pass_of_head (run_skipHead_truth b blank rest)
  | _, .number numeral, _, _, _, blank, closes =>
    pass_of_head (run_skipHead_numeral whole numeral blank closes)
  | _, .text characters, _, _, rest, blank, _ => by
    rw [List.cons_append, List.append_assoc, List.singleton_append]
    exact pass_of_head (run_skipHead_text characters blank rest)
  | _, .list inner, brackets, _, rest, blank, _ => by
    rw [List.cons_append, List.append_assoc, List.singleton_append,
      pass_of_bracket (run_skipHead_list blank _)]
    exact follow_items whole inner brackets rest
  | _, .object inner, brackets, _, rest, blank, _ => by
    rw [List.cons_append, List.append_assoc, List.singleton_append,
      pass_of_bracket (run_skipHead_object blank _)]
    exact follow_members whole inner brackets rest

/-- The items of a list are passed, with the bracket that closes it. -/
theorem follow_items (whole : origin.Whole) : ∀ {first : Bool} {body : Bytes},
    WellFormedItems first body → ∀ (outer : List Bracket) (rest : Bytes),
      follow origin (!first) .list outer (body ++ 0x5D :: rest) = pass origin true outer rest
  | first, _, .nil _ blank, outer, rest => follow_closed (!first) .list outer blank rest
  | _, _, .first blank value more, outer, rest => by
    have passed := pass_wellFormed whole value (.list :: outer) .nil (closes_of_items more rest)
    have others := follow_items whole more outer rest
    obtain ⟨b, tail, rfl, solid, open'⟩ := exists_cons_of_wellFormed value
    simp only [List.append_assoc, List.cons_append, List.nil_append, Bool.not_true] at passed ⊢
    rw [follow_item outer blank solid open', passed, pass_after]
    exact others
  | _, _, .next blankBefore blankAfter value more, outer, rest => by
    have passed :=
      pass_wellFormed whole value (.list :: outer) blankAfter (closes_of_items more rest)
    have others := follow_items whole more outer rest
    simp only [List.append_assoc, List.cons_append, Bool.not_false] at passed ⊢
    rw [follow_next_item outer blankBefore, passed, pass_after]
    exact others

/-- The members of an object are passed, with the bracket that closes it. -/
theorem follow_members (whole : origin.Whole) : ∀ {first : Bool} {body : Bytes},
    WellFormedMembers first body → ∀ (outer : List Bracket) (rest : Bytes),
      follow origin (!first) .object outer (body ++ 0x7D :: rest) = pass origin true outer rest
  | first, _, .nil _ blank, outer, rest => follow_closed (!first) .object outer blank rest
  | _, _, .first blank characters blankColon blankSpace value more, outer, rest => by
    have passed :=
      pass_wellFormed whole value (.object :: outer) blankSpace (closes_of_members more rest)
    have others := follow_members whole more outer rest
    simp only [List.append_assoc, List.cons_append, Bool.not_true] at passed ⊢
    rw [follow_member outer characters blank blankColon, passed, pass_after]
    exact others
  | _, _, .next blankBefore blankAfter characters blankColon blankSpace value more, outer, rest => by
    have passed :=
      pass_wellFormed whole value (.object :: outer) blankSpace (closes_of_members more rest)
    have others := follow_members whole more outer rest
    simp only [List.append_assoc, List.cons_append, Bool.not_false] at passed ⊢
    rw [follow_next_member outer blankBefore blankAfter characters blankColon, passed, pass_after]
    exact others

end

/-- The reader for unknown values passes a value of any kind, and nothing else. -/
theorem run_skip (whole : origin.Whole) {text : Bytes} (value : WellFormed text)
    (blank : Gap gap) (closes : Closes rest) :
    Decoder.skip.run origin (gap ++ (text ++ rest)) = .done () rest := by
  change pass origin false [] (gap ++ (text ++ rest)) = _
  rw [pass_wellFormed whole value [] blank closes, pass]

end Decoder

end RemoteSigner.Json
