import Mathlib.Tactic.SplitIfs
import RemoteSigner.Proofs.Json.Spelling
import RemoteSigner.Proofs.Octets.Faithful

/-!
# Reading values without parts

A word, a number or a text is read from its written form, whatever follows it.  Nothing is asked of
the origin of the document but that it ends where the octets end.

## Main results

* `run_token_cons`: the next part of a document, behind any gap
* `run_number_digits`: a number of at most 64 bits
* `run_text`: a text
* `run_head`: the first look at a value
-/

namespace RemoteSigner.Json

/-- A document from this origin ends where its octets end. -/
def Origin.Whole : Origin → Prop
  | broken _ => False
  | _ => True

/-- A value that the first look reads whole. -/
def Value.Scalar : Value → Prop
  | .list _ | .object _ => False
  | _ => True

namespace Decoder

variable {origin : Origin} {gap rest : Bytes} {b : UInt8}

/-! ## Octets -/

theorem run_peek (whole : origin.Whole) (text : Bytes) :
    peek.run origin text = .done text.head? text := by
  cases origin <;> cases text <;> first | rfl | exact whole.elim

theorem run_next_cons (origin : Origin) (b : UInt8) (rest : Bytes) :
    next.run origin (b :: rest) = .done (some b) rest := by
  cases origin <;> rfl

@[simp] theorem run_takeWhile (p : UInt8 → Bool) (origin : Origin) (text : Bytes) :
    (takeWhile p).run origin text = .done (text.takeWhile p) (text.dropWhile p) := rfl

/-- The next part of a document is found behind any gap. -/
theorem run_token_cons (blank : Gap gap) (solid : isBlank b = false) (rest : Bytes) :
    token.run origin (gap ++ b :: rest) = .done (some b) (b :: rest) := by
  rw [run_token, List.dropWhile_append_of_pos blank, List.dropWhile_cons_of_neg (by simp [solid])]
  cases origin <;> rfl

theorem run_token_nil (whole : origin.Whole) (blank : Gap gap) :
    token.run origin gap = .done none [] := by
  rw [run_token, ← List.append_nil gap, List.dropWhile_append_of_pos blank, run_peek whole]
  rfl

theorem run_word (octets rest : Bytes) :
    (word octets).run origin (octets ++ rest) = .done () rest := by
  induction octets with
  | nil => rfl
  | cons b octets ih => simp [word, run_next_cons, ih]

/-! ## Numbers -/

theorem ofText_repr_of_lt {n : Nat} (h : n < 10) :
    Bytes.ofText n.repr = [0x30 + UInt8.ofNat n] := by
  have table : ∀ m < 10, Bytes.ofText (Nat.repr m) = [0x30 + UInt8.ofNat m] := by decide
  exact table n h

theorem ofText_repr_of_ge {n : Nat} (h : 10 ≤ n) :
    Bytes.ofText n.repr = Bytes.ofText (n / 10).repr ++ [0x30 + UInt8.ofNat (n % 10)] := by
  rw [Nat.repr_eq_repr_append_repr h, Bytes.ofText_append,
    ofText_repr_of_lt (Nat.mod_lt n (by decide))]

/-- A number below a power of ten has so many digits at most. -/
theorem length_repr_le {n digits : Nat} (small : n < 10 ^ (digits + 1)) :
    (Bytes.ofText n.repr).length ≤ digits + 1 := by
  induction digits generalizing n with
  | zero =>
    rw [ofText_repr_of_lt small]
    exact Nat.le_refl 1
  | succ digits ih =>
    by_cases single : n < 10
    · rw [ofText_repr_of_lt single]
      exact Nat.le_add_left 1 _
    · have fewer : n / 10 < 10 ^ (digits + 1) := by
        rw [Nat.div_lt_iff_lt_mul (by decide)]
        exact small
      rw [ofText_repr_of_ge (Nat.not_lt.mp single), List.length_append, List.length_singleton]
      exact Nat.succ_le_succ (ih fewer)

theorem isDigit_ofNat {n : Nat} (h : n < 10) : isDigit (0x30 + UInt8.ofNat n) = true := by
  have table : ∀ m < 10, isDigit (0x30 + UInt8.ofNat m) = true := by decide
  exact table n h

theorem toNat_digit {n : Nat} (h : n < 10) : (0x30 + UInt8.ofNat n).toNat - 0x30 = n := by
  have table : ∀ m < 10, (0x30 + UInt8.ofNat m).toNat - 0x30 = m := by decide
  exact table n h

theorem appendDigits_digit {limit n d : Nat} (small : d < 10) (fits : n * 10 + d < limit)
    (count : Nat) (rest : Bytes) :
    appendDigits limit n count ((0x30 + UInt8.ofNat d) :: rest) =
      appendDigits limit (n * 10 + d) (count + 1) rest := by
  rw [appendDigits, toNat_digit small, if_pos ⟨isDigit_ofNat small, fits⟩]

theorem appendDigits_of_closes (limit n count : Nat) (closes : Closes rest) :
    appendDigits limit n count rest = (n, count, rest) := by
  cases rest with
  | nil => rfl
  | cons b rest =>
    have : isDigit b = false := by
      have := closes b rfl
      simp only [extendsNumber, Bool.or_eq_false_iff] at this
      exact this.1.1.1
    simp [appendDigits, this]

/-- The digits of a number: the first one, and what the others make of it.  The first digit is that
of the number without its last digit, which is appended to what the others make. -/
theorem exists_digits (n : Nat) : ∃ d tail, d < 10 ∧ (d = 0 → n = 0 ∧ tail = []) ∧
    Bytes.ofText n.repr = (0x30 + UInt8.ofNat d) :: tail ∧ ∀ limit rest, n < limit →
      appendDigits limit d 0 (tail ++ rest) = appendDigits limit n tail.length rest := by
  induction n using Nat.strongRecOn with
  | _ n ih =>
    by_cases h : n < 10
    · exact ⟨n, [], h, fun zero => ⟨zero, rfl⟩, ofText_repr_of_lt h, fun _ _ _ => rfl⟩
    · obtain ⟨d, tail, small, leading, written, run⟩ := ih (n / 10) (by omega)
      refine ⟨d, tail ++ [0x30 + UInt8.ofNat (n % 10)], small, ?_, ?_, ?_⟩
      · intro zero
        have := (leading zero).1
        omega
      · rw [ofText_repr_of_ge (by omega), written, List.cons_append]
      · intro limit rest fits
        have whole : n / 10 * 10 + n % 10 = n := by omega
        rw [List.append_assoc, List.singleton_append, run limit _ (by omega),
          appendDigits_digit (Nat.mod_lt n (by decide)) (by omega), whole, List.length_append,
          List.length_singleton]

theorem run_fraction (whole : origin.Whole) (n : Nat) (closes : Closes rest) :
    (fraction true n 0).run origin rest = .done (.whole n) rest := by
  cases rest with
  | nil => simp [fraction, run_peek whole]
  | cons b rest =>
    have := closes b rfl
    simp only [extendsNumber, Bool.or_eq_false_iff, beq_eq_false_iff_ne] at this
    simp [fraction, run_peek whole, this]

/-- A number is read from its digits: a zero stands alone, and of another number all digits are read
up to the one octet that is none. -/
theorem run_number_digits (whole : origin.Whole) {n : Nat} (small : n < UInt64.size)
    (closes : Closes rest) :
    (number true).run origin (Bytes.ofText n.repr ++ rest) = .done (.whole n) rest := by
  have stop : rest.takeWhile isDigit = [] ∧ rest.dropWhile isDigit = rest ∧
      rest.head?.any isDigit = false := by
    cases rest with
    | nil => simp
    | cons b rest =>
      have := closes b rfl
      simp only [extendsNumber, Bool.or_eq_false_iff] at this
      simp [this.1.1.1]
  obtain ⟨d, tail, digit, leading, written, run⟩ := exists_digits n
  rw [written, List.cons_append]
  by_cases zero : d = 0
  · obtain ⟨rfl, rfl⟩ := leading zero
    subst zero
    simp [number, run_next_cons, run_peek whole, stop.2.2]
    exact run_fraction whole 0 closes
  · have nonzero : 0x30 + UInt8.ofNat d ≠ 0x30 := by
      have table : ∀ m < 10, m ≠ 0 → 0x30 + UInt8.ofNat m ≠ 0x30 := by decide
      exact table d digit zero
    have more : (digits UInt64.size d).run origin (tail ++ rest) = .done (n, tail.length) rest := by
      simp only [digits, run _ rest small, appendDigits_of_closes _ _ _ closes]
    simp only [number, run_bind, run_next_cons, if_neg nonzero, isDigit_ofNat digit, if_true,
      toNat_digit digit, more, run_takeWhile, stop.1, stop.2.1, List.length_nil]
    exact run_fraction whole n closes

/-! ## Texts -/

theorem length_escaped_le (b : UInt8) : (escaped b).length ≤ 6 := by
  rw [escaped]
  split_ifs <;> simp

theorem length_quoted_le (s : String) : (quoted s).length ≤ 6 * (Bytes.ofText s).length + 2 := by
  have flat (octets : Bytes) : (octets.flatMap escaped).length ≤ 6 * octets.length := by
    induction octets with
    | nil => exact Nat.le_refl 0
    | cons b octets ih =>
      have := length_escaped_le b
      rw [List.flatMap_cons, List.length_append, List.length_cons]
      omega
  have := flat (Bytes.ofText s)
  simp only [quoted, List.length_cons, List.length_append, List.length_nil]
  omega

@[simp] theorem run_nextInText_cons (origin : Origin) (b : UInt8) (rest : Bytes) :
    nextInText.run origin (b :: rest) = .done b rest := by
  simp [nextInText, run_next_cons]

theorem hexValue?_hexDigit {n : Nat} (h : n < 16) : hexValue? (hexDigit n) = some n := by
  have table : ∀ m < 16, hexValue? (hexDigit m) = some m := by decide
  exact table n h

theorem run_fourDigits {n : Nat} (h : n < 0x100) (origin : Origin) (rest : Bytes) :
    fourDigits.run origin (0x30 :: 0x30 :: hexDigit (n / 16) :: hexDigit (n % 16) :: rest) =
      .done n rest := by
  have zero : hexValue? 0x30 = some 0 := by decide
  have value : n / 16 * 16 + n % 16 = n := by omega
  simp [fourDigits, zero, hexValue?_hexDigit (show n / 16 < 16 by omega),
    hexValue?_hexDigit (show n % 16 < 16 by omega), value]

theorem run_escape_numbered {b : UInt8} (control : b < 0x20) (origin : Origin) (rest : Bytes) :
    escape.run origin
      (0x75 :: 0x30 :: 0x30 :: hexDigit (b.toNat / 16) :: hexDigit (b.toNat % 16) :: rest) =
        .done [b] rest := by
  have small : b.toNat < 0x20 := UInt8.lt_iff_toNat_lt.mp control
  have ascii : ∀ c ∈ [b], c < 0x80 := by
    simpa using UInt8.lt_trans control (show (0x20 : UInt8) < 0x80 by decide)
  have char : Bytes.ofText (String.singleton (Char.ofNat b.toNat)) = [b] := by
    rw [String.singleton_eq_ofList]
    exact Bytes.ofText_ofList ascii
  have low : ¬ 0xDC00 ≤ b.toNat := by omega
  have high : b.toNat < 0xD800 := by omega
  simp [escape, numbered, run_fourDigits (show b.toNat < 0x100 by omega), low, high, char]

theorem unescape_quote (origin : Origin) (done rest : Bytes) :
    unescape origin done (0x22 :: rest) = .done done.reverse rest := by
  rw [unescape, if_pos rfl]

theorem unescape_of_escape {done bytes text rest : Bytes}
    (h : escape.run origin text = .done bytes rest) :
    unescape origin done (0x5C :: text) = unescape origin (bytes.reverseAux done) rest := by
  rw [unescape, if_neg (by decide), if_pos rfl]
  split <;> simp_all

/-- An octet of a text is written as it is, or as an escape that stands for it.  Behind a backslash,
the quote and the backslash stand for themselves, five control characters have a letter of their
own, and the others are written by their number. -/
theorem escaped_cases (b : UInt8) :
    (b ≠ 0x22 ∧ b ≠ 0x5C ∧ ¬ b < 0x20 ∧ escaped b = [b]) ∨
      ∃ code, escaped b = 0x5C :: code ∧
        ∀ origin rest, escape.run origin (code ++ rest) = .done [b] rest := by
  unfold escaped
  split_ifs with special h8 h9 hA hC hD control
  · refine .inr ⟨[b], rfl, ?_⟩
    intro origin rest
    rcases special with rfl | rfl <;> simp [escape]
  · exact .inr ⟨[0x62], rfl, fun origin rest => by simp [escape, h8]⟩
  · exact .inr ⟨[0x74], rfl, fun origin rest => by simp [escape, h9]⟩
  · exact .inr ⟨[0x6E], rfl, fun origin rest => by simp [escape, hA]⟩
  · exact .inr ⟨[0x66], rfl, fun origin rest => by simp [escape, hC]⟩
  · exact .inr ⟨[0x72], rfl, fun origin rest => by simp [escape, hD]⟩
  · exact .inr ⟨_, rfl, run_escape_numbered control⟩
  · exact .inl ⟨fun h => special (.inl h), fun h => special (.inr h), control, rfl⟩

/-- An octet of a text is read from the form in which it is written. -/
theorem unescape_escaped (origin : Origin) (done : Bytes) (b : UInt8) (rest : Bytes) :
    unescape origin done (escaped b ++ rest) = unescape origin (b :: done) rest := by
  rcases escaped_cases b with ⟨notQuote, notBackslash, printable, written⟩ | ⟨code, written, run⟩
  · rw [written, List.singleton_append, unescape, if_neg notQuote, if_neg notBackslash,
      if_neg printable]
  · rw [written, List.cons_append, unescape_of_escape (run origin rest)]
    rfl

theorem unescape_flatMap_escaped (origin : Origin) (done bytes rest : Bytes) :
    unescape origin done (bytes.flatMap escaped ++ 0x22 :: rest) =
      .done (done.reverse ++ bytes) rest := by
  induction bytes generalizing done with
  | nil => simp [unescape_quote]
  | cons b bytes ih => rw [List.flatMap_cons, List.append_assoc, unescape_escaped, ih]; simp

/-- A text is read from its written form, of which the opening quote has been taken. -/
theorem run_text (origin : Origin) (s : String) (rest : Bytes) :
    text.run origin ((Bytes.ofText s).flatMap escaped ++ 0x22 :: rest) = .done s rest := by
  simp [text, unescape_flatMap_escaped, Bytes.toText?_ofText]

theorem run_key (origin : Origin) (s : String) (rest : Bytes) :
    key.run origin (quoted s ++ rest) = .done s rest := by
  simp [key, quoted, run_text]

/-! ## Values at first sight -/

/-- A number without a sign is found ahead: its first octet is none of those that begin something
else. -/
theorem run_head_natural (whole : origin.Whole) {n : Nat} (small : n < UInt64.size)
    (blank : Gap gap) (closes : Closes rest) :
    head.run origin (gap ++ (Bytes.ofText n.repr ++ rest)) = .done (.number (.whole n)) rest := by
  have read := run_number_digits whole small closes
  obtain ⟨d, tail, digit, -, written, -⟩ := exists_digits n
  have table : ∀ m < 10, isBlank (0x30 + UInt8.ofNat m) = false ∧ 0x30 + UInt8.ofNat m ≠ 0x6E ∧
      0x30 + UInt8.ofNat m ≠ 0x74 ∧ 0x30 + UInt8.ofNat m ≠ 0x66 ∧
      0x30 + UInt8.ofNat m ≠ 0x2D := by decide
  obtain ⟨solid, hn, ht, hf, hminus⟩ := table d digit
  rw [written, List.cons_append] at read ⊢
  rw [head, run_bind, run_token_cons blank solid]
  simp only [if_neg hn, if_neg ht, if_neg hf, if_neg hminus, isDigit_ofNat digit, if_true,
    run_bind, read, run_pure]

/-- A value without parts is read whole at first sight. -/
theorem run_head (whole : origin.Whole) {v : Value} {text : Bytes} (spelled : Spells v text)
    (scalar : v.Scalar) (blank : Gap gap) (closes : Closes rest) :
    head.run origin (gap ++ (text ++ rest)) = .done v.head rest := by
  cases spelled with
  | null =>
    have written : Bytes.ofText "null" = 0x6E :: [0x75, 0x6C, 0x6C] := by decide
    rw [written, List.cons_append, head, run_bind, run_token_cons blank rfl]
    simp only [reduceIte, run_bind, run_advance, List.tail_cons, run_word, run_pure]
    rfl
  | bool b =>
    cases b with
    | true =>
      have written : truth true = 0x74 :: [0x72, 0x75, 0x65] := by decide
      rw [written, List.cons_append, head, run_bind, run_token_cons blank rfl]
      simp +decide only [reduceIte, run_bind, run_advance, List.tail_cons, run_word, run_pure]
      rfl
    | false =>
      have written : truth false = 0x66 :: [0x61, 0x6C, 0x73, 0x65] := by decide
      rw [written, List.cons_append, head, run_bind, run_token_cons blank rfl]
      simp +decide only [reduceIte, run_bind, run_advance, List.tail_cons, run_word, run_pure]
      rfl
  | natural small => exact run_head_natural whole small blank closes
  | text s =>
    rw [quoted, List.cons_append, List.append_assoc, head, run_bind,
      run_token_cons blank rfl]
    simp +decide only [reduceIte, run_bind, run_advance, List.tail_cons, List.singleton_append,
      run_text, run_pure]
    rfl
  | list inner => exact scalar.elim
  | object inner => exact scalar.elim

theorem run_head_list (blank : Gap gap) (rest : Bytes) :
    head.run origin (gap ++ 0x5B :: rest) = .done .list (0x5B :: rest) := by
  rw [head, run_bind, run_token_cons blank rfl]
  rfl

theorem run_head_object (blank : Gap gap) (rest : Bytes) :
    head.run origin (gap ++ 0x7B :: rest) = .done .object (0x7B :: rest) := by
  rw [head, run_bind, run_token_cons blank rfl]
  rfl

/-- A value begins with an octet that is neither a blank nor a bracket that closes a list, and with
an `n` only if it is `null`. -/
theorem exists_cons_of_spells {v : Value} {text : Bytes} (spelled : Spells v text) :
    ∃ b tail, text = b :: tail ∧ isBlank b = false ∧ b ≠ 0x5D ∧ (b = 0x6E → v = .null) := by
  cases spelled with
  | null => exact ⟨_, _, rfl, rfl, by decide, fun _ => rfl⟩
  | bool b => cases b <;> exact ⟨_, _, rfl, rfl, by decide, fun h => absurd h (by decide)⟩
  | @natural n small =>
    obtain ⟨d, tail, digit, -, written, -⟩ := exists_digits n
    have table : ∀ m < 10, isBlank (0x30 + UInt8.ofNat m) = false ∧
      0x30 + UInt8.ofNat m ≠ 0x5D ∧ 0x30 + UInt8.ofNat m ≠ 0x6E := by decide
    obtain ⟨solid, notClosing, notNull⟩ := table d digit
    exact ⟨_, _, written, solid, notClosing, fun h => absurd h notNull⟩
  | text s => exact ⟨_, _, rfl, rfl, by decide, fun h => absurd h (by decide)⟩
  | list inner => exact ⟨_, _, rfl, rfl, by decide, fun h => absurd h (by decide)⟩
  | object inner => exact ⟨_, _, rfl, rfl, by decide, fun h => absurd h (by decide)⟩

end Decoder

end RemoteSigner.Json
