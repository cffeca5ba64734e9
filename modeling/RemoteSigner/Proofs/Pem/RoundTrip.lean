import RemoteSigner.Pem.Reader
import RemoteSigner.Proofs.Octets.Base64

/-!
# Sections are read back

A file to which sections have been written, one behind the other, holds these sections and nothing
else, and there is nothing wrong with it.  Writing breaks the text of a section into lines, and
reading passes over the breaks again, so it does not matter how many octets a section has, or where
their last group and the last line of their text end.

## Main definitions

* `Complete`: groups that may be the last one of a text
* `Closed`: texts that end with the end of a line
* `beginLine`, `textLines`, `endLine`: a section as it is written, in parts

## Main results

* `decodeText_of_letters`: the octets of a text, whatever blanks stand among their letters
* `splitLines_append`: no line runs on behind the end of a closed text
* `read_encode`: a file of sections is read as these sections
-/

namespace RemoteSigner

namespace Base64

/-! ## Whole groups -/

theorem letter_ne_pad {n : Nat} (small : n < 64) : letter n ≠ pad := by
  have table : ∀ m < 64, letter m ≠ pad := by decide
  exact table n small

/-- Behind whole groups, the letters go on with those of what follows. -/
theorem encode_append {left : Bytes} (whole : left.length % 3 = 0) (right : Bytes) :
    encode (left ++ right) = encode left ++ encode right := by
  induction left using induction_groups with
  | nil => rfl
  | one a => simp at whole
  | two a b => simp at whole
  | group a b c rest ih =>
    have wholeRest : rest.length % 3 = 0 := by
      simp only [List.length_cons] at whole
      omega
    simp only [List.cons_append, encode_group, ih wholeRest]

/-- Whole groups need no padding. -/
theorem pad_not_mem_encode {bytes : Bytes} (whole : bytes.length % 3 = 0) :
    pad ∉ encode bytes := by
  induction bytes using induction_groups with
  | nil => exact List.not_mem_nil
  | one a => simp at whole
  | two a b => simp at whole
  | group a b c rest ih =>
    have ha := a.toNat_lt
    have hb := b.toNat_lt
    have hc := c.toNat_lt
    have wholeRest : rest.length % 3 = 0 := by
      simp only [List.length_cons] at whole
      omega
    rw [encode_group]
    simp only [List.mem_cons, not_or]
    exact ⟨(letter_ne_pad (by omega)).symm, (letter_ne_pad (by omega)).symm,
      (letter_ne_pad (by omega)).symm, (letter_ne_pad (by omega)).symm, ih wholeRest⟩

end Base64

namespace Pem

open Base64

/-! ## Texts without faults -/

/-- A group that may be the last one: it has four letters, of which the last two may be pads. -/
structure Complete (group : Bytes) : Prop where
  length : group.length = 4
  padding : group.dropWhile (· != pad) = [] ∨ group.dropWhile (· != pad) = [pad] ∨
    group.dropWhile (· != pad) = [pad, pad]

/-- Up to three octets make a group. -/
theorem complete_encode {bytes : Bytes} (one : bytes ≠ []) (short : bytes.length ≤ 3) :
    Complete (encode bytes) := by
  constructor
  case length =>
    have := List.length_pos_iff.mpr one
    rw [length_encode]
    omega
  case padding =>
    match bytes, one with
    | [a], _ =>
      have ha := a.toNat_lt
      simp [encode_one, letter_ne_pad (show a.toNat / 4 < 64 by omega),
        letter_ne_pad (show a.toNat % 4 * 16 < 64 by omega)]
    | [a, b], _ =>
      have ha := a.toNat_lt
      have hb := b.toNat_lt
      simp [encode_two, letter_ne_pad (show a.toNat / 4 < 64 by omega),
        letter_ne_pad (show a.toNat % 4 * 16 + b.toNat / 16 < 64 by omega),
        letter_ne_pad (show b.toNat % 16 * 4 < 64 by omega)]
    | [a, b, c], _ =>
      have ha := a.toNat_lt
      have hb := b.toNat_lt
      have hc := c.toNat_lt
      simp [encode_group, encode_nil, letter_ne_pad (show a.toNat / 4 < 64 by omega),
        letter_ne_pad (show a.toNat % 4 * 16 + b.toNat / 16 < 64 by omega),
        letter_ne_pad (show b.toNat % 16 * 4 + c.toNat / 64 < 64 by omega),
        letter_ne_pad (show c.toNat % 64 < 64 by omega)]

theorem lastFault?_complete {early group : Bytes} (complete : Complete group) (plain : pad ∉ early)
    (len : early.length = 0 ∨ early.length = 4) : lastFault? (early ++ group) = none := by
  have split : (if 4 < (early ++ group).length then (early ++ group).splitAt 4
      else ([], early ++ group)) = (early, group) := by
    rcases len with len | len
    · rw [List.length_eq_zero_iff.mp len]
      simp [complete.length]
    · simp [len, complete.length, List.splitAt_eq]
  rw [lastFault?, split]
  rcases complete.padding with padding | padding | padding <;>
    simp [padding, plain, complete.length]

/-- The last letters of some octets, up to two groups of them, have no fault.  The first of two
groups is whole, so pads can only stand in the second one. -/
theorem lastFault?_encode {bytes : Bytes} (short : bytes.length ≤ 6) :
    lastFault? (encode bytes) = none := by
  by_cases one : bytes = []
  · subst one
    rfl
  by_cases group : bytes.length ≤ 3
  · exact lastFault?_complete (complete_encode one group) List.not_mem_nil (.inl rfl)
  · have front : (bytes.take 3).length = 3 := List.length_take_of_le (by omega)
    have behind : bytes.drop 3 ≠ [] := by
      rw [ne_eq, List.drop_eq_nil_iff]
      omega
    rw [← List.take_append_drop 3 bytes, encode_append (by omega)]
    refine lastFault?_complete (complete_encode behind ?_) (pad_not_mem_encode (by omega)) (.inr ?_)
    · rw [List.length_drop]
      omega
    · rw [length_encode, front]

theorem find?_isStray_take (bytes : Bytes) (n : Nat) :
    ((encode bytes).take n).find? isStray = none := by
  rw [List.find?_eq_none]
  intro letter mem
  have plain : isStray letter = false :=
    forall_mem_encode (p := (isStray · = false)) (by decide) (by decide) bytes letter
      (List.mem_of_mem_take mem)
  simp [plain]

/-- The letters of octets have no fault.  The reader takes eight letters at a time, which stand for
six octets. -/
theorem fault?_encode (bytes : Bytes) : fault? (encode bytes) = none := by
  induction len : bytes.length using Nat.strongRecOn generalizing bytes with
  | _ n ih =>
    by_cases short : bytes.length ≤ 6
    · have last : (encode bytes).drop 8 = [] := by
        rw [List.drop_eq_nil_iff, length_encode]
        omega
      rw [fault?]
      simp only [find?_isStray_take]
      split
      · exact lastFault?_encode short
      · next more => cases last.symm.trans more
    · have front : (bytes.take 6).length = 6 := List.length_take_of_le (by omega)
      have letters : (encode (bytes.take 6)).length = 8 := by rw [length_encode, front]
      have split : encode bytes = encode (bytes.take 6) ++ encode (bytes.drop 6) := by
        rw [← encode_append (by omega), List.take_append_drop]
      have behind : (encode bytes).drop 8 = encode (bytes.drop 6) := by
        rw [split, List.drop_left' letters]
      have plain : (encode bytes).take 8 = encode (bytes.take 6) := by
        rw [split, List.take_left' letters]
      have unpadded : (encode (bytes.take 6)).contains pad = false := by
        rw [Bool.eq_false_iff, ne_eq, List.contains_iff_mem]
        exact pad_not_mem_encode (by omega)
      rw [fault?]
      simp only [find?_isStray_take]
      split
      · next last =>
        rw [List.drop_eq_nil_iff, length_encode] at last
        omega
      · next b rest more =>
        rw [plain, unpadded, ← more, behind]
        exact ih _ (by rw [List.length_drop]; omega) _ rfl

theorem pushNumbers_encode (done bytes : Bytes) :
    pushNumbers done ((encode bytes).filterMap value?) = some (bytes.reverse ++ done) := by
  induction bytes using induction_groups generalizing done with
  | nil => rfl
  | one a =>
    have ha := a.toNat_lt
    have octet : a.toNat / 4 * 4 + a.toNat % 4 * 16 / 16 = a.toNat := by omega
    simp only [encode_one, List.filterMap_cons, List.filterMap_nil,
      value?_letter (show a.toNat / 4 < 64 by omega),
      value?_letter (show a.toNat % 4 * 16 < 64 by omega), value?_pad, pushNumbers, octet,
      UInt8.ofNat_toNat]
    rfl
  | two a b =>
    have ha := a.toNat_lt
    have hb := b.toNat_lt
    have first : a.toNat / 4 * 4 + (a.toNat % 4 * 16 + b.toNat / 16) / 16 = a.toNat := by omega
    have second : (a.toNat % 4 * 16 + b.toNat / 16) % 16 * 16 + b.toNat % 16 * 4 / 4 = b.toNat := by
      omega
    simp only [encode_two, List.filterMap_cons, List.filterMap_nil,
      value?_letter (show a.toNat / 4 < 64 by omega),
      value?_letter (show a.toNat % 4 * 16 + b.toNat / 16 < 64 by omega),
      value?_letter (show b.toNat % 16 * 4 < 64 by omega), value?_pad, pushNumbers, first, second,
      UInt8.ofNat_toNat]
    rfl
  | group a b c rest ih =>
    have ha := a.toNat_lt
    have hb := b.toNat_lt
    have hc := c.toNat_lt
    rw [encode_group]
    simp only [List.filterMap_cons, value?_letter (show a.toNat / 4 < 64 by omega),
      value?_letter (show a.toNat % 4 * 16 + b.toNat / 16 < 64 by omega),
      value?_letter (show b.toNat % 16 * 4 + c.toNat / 64 < 64 by omega),
      value?_letter (show c.toNat % 64 < 64 by omega)]
    rw [pushNumbers, pushOctets_eq, ih]
    simp

/-- A text stands for the octets whose letters are in it; blanks do not matter. -/
theorem decodeText_of_letters {text bytes : Bytes}
    (letters : text.filter (!isBlank ·) = encode bytes) : decodeText text = .ok bytes := by
  simp only [decodeText, letters, fault?_encode, pushNumbers_encode, List.append_nil,
    List.reverse_reverse]

/-! ## Line breaks -/

/-- Breaks are blanks, so the letters stay what they are. -/
theorem filter_pushLines (done : Bytes) (room : Nat) (letters : Bytes) :
    (pushLines done room letters).reverse.filter (!isBlank ·) =
      done.reverse.filter (!isBlank ·) ++ letters.filter (!isBlank ·) := by
  have dropped : [0x0A].filter (!isBlank ·) = [] := rfl
  induction letters generalizing done room with
  | nil => rw [pushLines, List.filter_nil, List.append_nil]
  | cons b letters ih =>
    cases room with
    | zero =>
      rw [pushLines, ih, List.reverse_cons, List.reverse_cons, List.filter_append,
        List.filter_append, dropped, List.append_nil, List.append_assoc, ← List.filter_append]
      rfl
    | succ room =>
      rw [pushLines, ih, List.reverse_cons, List.filter_append, List.append_assoc,
        ← List.filter_append]
      rfl

theorem mem_pushLines {b : UInt8} {done letters : Bytes} {room : Nat}
    (h : b ∈ pushLines done room letters) : b ∈ done ∨ b ∈ letters ∨ b = 0x0A := by
  induction letters generalizing done room with
  | nil => exact .inl h
  | cons a letters ih =>
    cases room with
    | zero =>
      rcases ih h with mem | mem | broken
      · rcases List.mem_cons.mp mem with rfl | mem
        · exact .inr (.inl List.mem_cons_self)
        · rcases List.mem_cons.mp mem with rfl | mem
          · exact .inr (.inr rfl)
          · exact .inl mem
      · exact .inr (.inl (List.mem_cons_of_mem _ mem))
      · exact .inr (.inr broken)
    | succ room =>
      rcases ih h with mem | mem | broken
      · rcases List.mem_cons.mp mem with rfl | mem
        · exact .inr (.inl List.mem_cons_self)
        · exact .inl mem
      · exact .inr (.inl (List.mem_cons_of_mem _ mem))
      · exact .inr (.inr broken)

/-! ## Lines -/

/-- A text that is empty or ends with the end of a line. -/
def Closed (text : Bytes) : Prop := (splitLines [] text).2 = []

/-- Every octet of a text stands in a line or behind the last one. -/
theorem flatten_splitLines (line text : Bytes) :
    (splitLines line text).1.flatten ++ (splitLines line text).2 = line.reverse ++ text := by
  induction text generalizing line with
  | nil => simp [splitLines]
  | cons b text ih =>
    rw [splitLines]
    split
    · have rest := ih []
      simp only [List.reverse_nil, List.nil_append] at rest
      simp [rest]
    · rw [ih]
      simp

theorem splitLines_append_of_closed {line text : Bytes} (closed : (splitLines line text).2 = [])
    (rest : Bytes) : splitLines line (text ++ rest) =
      ((splitLines line text).1 ++ (splitLines [] rest).1, (splitLines [] rest).2) := by
  induction text generalizing line with
  | nil =>
    have none : line = [] := List.reverse_eq_nil_iff.mp closed
    simp [none, splitLines]
  | cons b text ih =>
    rw [splitLines] at closed
    rw [List.cons_append, splitLines, splitLines]
    split
    · next broken =>
      rw [if_pos broken] at closed
      simp [ih closed]
    · next inside =>
      rw [if_neg inside] at closed
      exact ih closed

/-- Behind a closed text a new line begins. -/
theorem splitLines_append {text : Bytes} (closed : Closed text) (rest : Bytes) :
    splitLines [] (text ++ rest) =
      ((splitLines [] text).1 ++ (splitLines [] rest).1, (splitLines [] rest).2) :=
  splitLines_append_of_closed closed rest

theorem Closed.append {text rest : Bytes} (closed : Closed text) (closedRest : Closed rest) :
    Closed (text ++ rest) := by
  rw [Closed, splitLines_append closed]
  exact closedRest

/-- No line is left open behind a break, whatever line has begun. -/
theorem closed_break (text : Bytes) : Closed (text ++ [0x0A]) := by
  have any (line : Bytes) : (splitLines line (text ++ [0x0A])).2 = [] := by
    induction text generalizing line with
    | nil => rfl
    | cons b text ih =>
      rw [List.cons_append, splitLines]
      split
      · exact ih []
      · exact ih (b :: line)
  exact any []

/-! ## Sections -/

/-- The first line of a section. -/
def beginLine (label : Label) : Bytes := beginMark ++ label.words ++ Bytes.ofText "-----\n"

/-- The lines with the text of a section. -/
def textLines (contents : Bytes) : Bytes :=
  (pushLines [] lineLength (encode contents)).reverse ++ [0x0A]

/-- The last line of a section. -/
def endLine (label : Label) : Bytes := endMark label.words ++ [0x0A]

theorem encode_eq (s : Section) :
    s.encode = beginLine s.label ++ (textLines s.contents ++ endLine s.label) := by
  simp [Section.encode, beginLine, textLines, endLine]

theorem splitLines_beginLine (label : Label) :
    splitLines [] (beginLine label) = ([beginLine label], []) := by
  cases label <;> decide +kernel

theorem splitLines_endLine (label : Label) :
    splitLines [] (endLine label) = ([endLine label], []) := by
  cases label <;> decide +kernel

theorem closed_beginLine (label : Label) : Closed (beginLine label) :=
  congrArg Prod.snd (splitLines_beginLine label)

theorem closed_textLines (contents : Bytes) : Closed (textLines contents) := closed_break _

theorem closed_endLine (label : Label) : Closed (endLine label) := closed_break _

theorem closed_encode (s : Section) : Closed s.encode := by
  rw [encode_eq]
  exact (closed_beginLine _).append ((closed_textLines _).append (closed_endLine _))

/-- The lines of a section. -/
theorem splitLines_encode (s : Section) : (splitLines [] s.encode).1 =
    beginLine s.label :: ((splitLines [] (textLines s.contents)).1 ++ [endLine s.label]) := by
  rw [encode_eq, splitLines_append (closed_beginLine _), splitLines_append (closed_textLines _),
    splitLines_beginLine, splitLines_endLine]
  rfl

/-- The lines of a text have no dashes and make up the text. -/
theorem textLines_plain {contents line : Bytes}
    (h : line ∈ (splitLines [] (textLines contents)).1) : 0x2D ∉ line := by
  intro dash
  have whole := flatten_splitLines [] (textLines contents)
  have mem : 0x2D ∈ textLines contents := by
    rw [← List.nil_append (textLines contents), ← List.reverse_nil, ← whole]
    exact List.mem_append_left _ (List.mem_flatten.mpr ⟨line, h, dash⟩)
  rcases List.mem_append.mp mem with mem | mem
  · rcases mem_pushLines (List.mem_reverse.mp mem) with mem | mem | same
    · exact List.not_mem_nil mem
    · exact forall_mem_encode (p := (· ≠ 0x2D)) (by decide) (by decide) contents _ mem rfl
    · cases same
  · cases List.mem_singleton.mp mem

theorem decodeText_textLines (contents : Bytes) :
    decodeText (splitLines [] (textLines contents)).1.flatten = .ok contents := by
  have whole := flatten_splitLines [] (textLines contents)
  have closed : (splitLines [] (textLines contents)).2 = [] := closed_textLines contents
  rw [closed, List.append_nil, List.reverse_nil, List.nil_append] at whole
  have dropped : [0x0A].filter (!isBlank ·) = [] := rfl
  have plain : (encode contents).filter (!isBlank ·) = encode contents := by
    rw [List.filter_eq_self]
    exact forall_mem_encode (p := fun b => (!isBlank b) = true) (by decide) (by decide) contents
  rw [whole]
  apply decodeText_of_letters
  rw [textLines, List.filter_append, filter_pushLines, plain, dropped, List.append_nil]
  rfl

/-! ## Reading -/

variable {failure : Option IoError}

theorem not_isPrefixOf_of_plain {mark line : Bytes} (plain : 0x2D ∉ line) :
    (0x2D :: mark).isPrefixOf line = false := by
  cases line with
  | nil => rfl
  | cons b line =>
    have other : (0x2D : UInt8) ≠ b := fun same => plain (same ▸ List.mem_cons_self)
    simp [List.isPrefixOf, other]

/-- Lines without dashes belong to the text of a section. -/
theorem scan_plain {lines : List Bytes} (plain : ∀ line ∈ lines, 0x2D ∉ line) (words : Bytes)
    (text rest : List Bytes) :
    scan failure (some words) text (lines ++ rest) =
      scan failure (some words) (lines.reverse ++ text) rest := by
  induction lines generalizing text with
  | nil => rfl
  | cons line lines ih =>
    rw [List.forall_mem_cons] at plain
    have begins : beginMark.isPrefixOf line = false := not_isPrefixOf_of_plain plain.1
    have ends : (endMark words).isPrefixOf line = false := not_isPrefixOf_of_plain plain.1
    rw [List.cons_append, scan, begins, ends]
    simp only [Bool.false_eq_true, if_false]
    rw [ih plain.2]
    simp

/-- The first line of a section is known by its words. -/
theorem scan_beginLine (label : Label) (text rest : List Bytes) :
    scan failure none text (beginLine label :: rest) =
      scan failure (some label.words) text rest := by
  have begins : beginMark.isPrefixOf (beginLine label) = true := by
    rw [List.isPrefixOf_iff_prefix, beginLine, List.append_assoc]
    exact List.prefix_append ..
  have words : beginWords? (beginLine label) = some label.words := by
    cases label <;> decide +kernel
  rw [scan, begins, words]
  rfl

theorem Label.of?_words (label : Label) : of? label.words = some label := by
  cases label <;> decide +kernel

/-- The last line of a section ends it, if its text stands for octets. -/
theorem scan_endLine (label : Label) {text rest : List Bytes} {contents : Bytes}
    (stands : decodeText text.reverse.flatten = .ok contents) :
    scan failure (some label.words) text (endLine label :: rest) =
      (scan failure none [] rest).push ⟨label, contents⟩ := by
  have begins : beginMark.isPrefixOf (endLine label) = false := by
    cases label <;> decide +kernel
  have ends : (endMark label.words).isPrefixOf (endLine label) = true := by
    rw [List.isPrefixOf_iff_prefix, endLine]
    exact List.prefix_append ..
  rw [scan, begins]
  simp only [Bool.false_eq_true, if_false, ends, if_true, Label.of?_words, stands]

/-- A section that has been written is read, and then what follows. -/
theorem scan_encode (s : Section) (rest : List Bytes) :
    scan failure none [] ((splitLines [] s.encode).1 ++ rest) =
      (scan failure none [] rest).push s := by
  rw [splitLines_encode, List.cons_append, scan_beginLine, List.append_assoc,
    scan_plain fun _ => textLines_plain]
  apply scan_endLine
  rw [List.append_nil, List.reverse_reverse]
  exact decodeText_textLines s.contents

/-- **A file of sections is read as these sections**, and there is nothing wrong with it.  Each
section that has been read leaves the reader as at the start. -/
theorem read_encode (sections : List Section) :
    read { bytes := sections.flatMap (·.encode) } = ⟨sections, none⟩ := by
  have closed : Closed (sections.flatMap (·.encode)) := by
    induction sections with
    | nil => rfl
    | cons s sections ih =>
      rw [List.flatMap_cons]
      exact (closed_encode s).append ih
  have lines : linesOf { bytes := sections.flatMap (·.encode) } =
      (splitLines [] (sections.flatMap (·.encode))).1 := by
    have last : (splitLines [] (sections.flatMap (·.encode))).2 = [] := closed
    simp [linesOf, last]
  rw [read, lines]
  clear lines closed
  induction sections with
  | nil => rfl
  | cons s sections ih =>
    rw [List.flatMap_cons, splitLines_append (closed_encode s), scan_encode, ih]
    rfl

end Pem

end RemoteSigner
