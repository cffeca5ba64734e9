import Mathlib.Data.Nat.Digits.Defs
import RemoteSigner.Config.Error
import RemoteSigner.Proofs.Outcomes

/-!
# How slots are written

A slot is written as hexadecimal digits of either case, at least one, with `0x` or `0X` or nothing in
front of them.  Behind that mark one plus sign is taken too, and nothing else: no minus sign, no
blank, no second mark.  Zeros in front do not count, however many they are, and a number that needs
more than 32 bits is refused at the digit with which it gets too large.

## Main definitions

* `hexDigits`: the digits with their values
* `IsNumeral`: a text that stands for a number, with one of some signs in it
* `SlotFault.Explains`: why a text is no slot

## Main results

* `slotDigit?_eq_some_iff`: the digits that are read
* `slot_eq_ok_iff`, `slot_eq_error_iff`: the texts that are read, and why others are not
* `Pkcs11.slotId_numeral`: the slots of tokens
-/

namespace RemoteSigner.Config

/-! ## Numerals -/

/-- The hexadecimal digits with their values. -/
def hexDigits : List (Char × Nat) :=
  "0123456789abcdef".toList.zipIdx ++ "ABCDEF".toList.zipIdx 10

/-- Digits with the value of each of them. -/
abbrev Valued : List Char → List Nat → Prop := List.Forall₂ fun c d => (c, d) ∈ hexDigits

/-- Digits, most significant first, spell a number. -/
def Spells (digits : List Char) (n : Nat) : Prop :=
  ∃ values, Valued digits values ∧ Nat.ofDigits 16 values.reverse = n

/-- What may stand in front of the digits to say that they are hexadecimal. -/
def slotMarks : List (List Char) := [[], ['0', 'x'], ['0', 'X']]

/-- The signs that are taken: none, or a plus sign. -/
def slotSigns : List (List Char) := [[], ['+']]

/-- A text is one of some signs with at least one digit behind it. -/
def IsSigned (signs : List (List Char)) (text : List Char) (n : Nat) : Prop :=
  ∃ sign ∈ signs, ∃ digits, text = sign ++ digits ∧ digits ≠ [] ∧ Spells digits n

/-- A text is a numeral: a mark, one of some signs, and at least one digit. -/
def IsNumeral (signs : List (List Char)) (text : List Char) (n : Nat) : Prop :=
  ∃ mark ∈ slotMarks, ∃ behind, text = mark ++ behind ∧ IsSigned signs behind n

/-- The beginning of a text stands for a number of more than 32 bits. -/
def Overflows (stands : List Char → Nat → Prop) (text : List Char) : Prop :=
  ∃ front rest n, text = front ++ rest ∧ stands front n ∧ UInt32.size ≤ n

/-- Why a text is no slot. -/
def SlotFault.Explains : SlotFault → List Char → Prop
  | empty, text => text ∈ slotMarks
  | tooLarge, text => Overflows (IsNumeral slotSigns) text
  | invalidDigit, text => text ∉ slotMarks ∧ (∀ n, ¬ IsNumeral slotSigns text n) ∧
      ¬ Overflows (IsNumeral slotSigns) text

/-! ## Digits -/

theorem slotDigit?_of_mem {c : Char} {d : Nat} (listed : (c, d) ∈ hexDigits) :
    slotDigit? c = some d := by
  have table : ∀ digit ∈ hexDigits, slotDigit? digit.1 = some digit.2 := by decide
  exact table (c, d) listed

/-- A digit is read as its value, and nothing else is read.  Digits are among the first 128
characters, and these can be gone through one by one. -/
theorem slotDigit?_eq_some_iff {c : Char} {d : Nat} :
    slotDigit? c = some d ↔ (c, d) ∈ hexDigits := by
  refine ⟨fun read => ?_, slotDigit?_of_mem⟩
  have table : ∀ n < 128, ∀ d ∈ slotDigit? (Char.ofNat n), (Char.ofNat n, d) ∈ hexDigits := by
    decide +kernel
  have ascii : c.toNat < 128 := by
    unfold slotDigit? at read
    split_ifs at read with digit lower upper
    · exact Nat.lt_of_le_of_lt (Char.le_def.mp digit.2) (by decide)
    · exact Nat.lt_of_le_of_lt (Char.le_def.mp lower.2) (by decide)
    · exact Nat.lt_of_le_of_lt (Char.le_def.mp upper.2) (by decide)
  have listed := table c.toNat ascii d
  rw [Char.ofNat_toNat] at listed
  exact listed read

theorem slotDigit?_eq_none {c : Char} (stray : ∀ d, (c, d) ∉ hexDigits) : slotDigit? c = none := by
  rw [Option.eq_none_iff_forall_ne_some]
  intro d read
  exact stray d (slotDigit?_eq_some_iff.mp read)

theorem eq_of_mem_hexDigits {c : Char} {d d' : Nat} (listed : (c, d) ∈ hexDigits)
    (listed' : (c, d') ∈ hexDigits) : d = d' :=
  Option.some.inj ((slotDigit?_of_mem listed).symm.trans (slotDigit?_of_mem listed'))

/-! ## Digits behind a number -/

/-- A number with more digits behind it. -/
def extend (n : Nat) (values : List Nat) : Nat := values.foldl (fun n d => n * 16 + d) n

theorem le_extend (n : Nat) (values : List Nat) : n ≤ extend n values := by
  induction values generalizing n with
  | nil => exact Nat.le_refl n
  | cons d values ih =>
    calc n ≤ n * 16 + d := by omega
      _ ≤ extend (n * 16 + d) values := ih _

theorem extend_zero (values : List Nat) : extend 0 values = Nat.ofDigits 16 values.reverse := by
  rw [Nat.ofDigits_eq_foldr, List.foldr_reverse, extend]
  congr 1
  funext n d
  rw [Nat.cast_id, Nat.add_comm, Nat.mul_comm]

theorem spells_iff {digits : List Char} {n : Nat} : Spells digits n ↔
    ∃ values, Valued digits values ∧ extend 0 values = n := by
  simp only [Spells, extend_zero]

variable {n m : Nat} {digits : List Char}

theorem appendSlotDigits_cons {c : Char} {d : Nat} (listed : (c, d) ∈ hexDigits) :
    appendSlotDigits n (c :: digits) =
      if n * 16 + d < UInt32.size then appendSlotDigits (n * 16 + d) digits
      else .error .tooLarge := by
  simp only [appendSlotDigits, slotDigit?_of_mem listed]

theorem appendSlotDigits_stray {c : Char} (stray : ∀ d, (c, d) ∉ hexDigits) :
    appendSlotDigits n (c :: digits) = .error .invalidDigit := by
  simp only [appendSlotDigits, slotDigit?_eq_none stray]

/-- Digits are read if there is nothing else and the number does not get too large.  A number that
has become too large stays so. -/
theorem appendSlotDigits_eq_ok_iff (small : n < UInt32.size) :
    appendSlotDigits n digits = .ok m ↔
      ∃ values, Valued digits values ∧ extend n values = m ∧ m < UInt32.size := by
  induction digits generalizing n with
  | nil =>
    constructor
    · intro read
      obtain rfl := Except.ok.inj read
      exact ⟨[], .nil, rfl, small⟩
    · rintro ⟨values, _ | _, rfl, -⟩
      rfl
  | cons c digits ih =>
    by_cases digit : ∃ d, (c, d) ∈ hexDigits
    · obtain ⟨d, listed⟩ := digit
      rw [appendSlotDigits_cons listed]
      constructor
      · intro read
        split_ifs at read with fits
        obtain ⟨values, spelled, rfl, less⟩ := (ih fits).mp read
        exact ⟨d :: values, .cons listed spelled, rfl, less⟩
      · rintro ⟨values, _ | ⟨listed', spelled⟩, rfl, less⟩
        obtain rfl := eq_of_mem_hexDigits listed listed'
        have fits : n * 16 + d < UInt32.size := Nat.lt_of_le_of_lt (le_extend _ _) less
        rw [if_pos fits]
        exact (ih fits).mpr ⟨_, spelled, rfl, less⟩
    · rw [not_exists] at digit
      rw [appendSlotDigits_stray digit]
      refine iff_of_false nofun ?_
      rintro ⟨values, _ | ⟨listed, -⟩, -⟩
      exact digit _ listed

/-- A number gets too large where the digits at the front alone make it so.  The first digit makes
it so, or one of the others does; what stands behind is not looked at. -/
theorem appendSlotDigits_eq_tooLarge_iff (small : n < UInt32.size) :
    appendSlotDigits n digits = .error .tooLarge ↔
      ∃ front rest values, digits = front ++ rest ∧ Valued front values ∧
        UInt32.size ≤ extend n values := by
  induction digits generalizing n with
  | nil =>
    refine iff_of_false nofun ?_
    rintro ⟨front, rest, values, none, spelled, large⟩
    obtain ⟨rfl, rfl⟩ := List.append_eq_nil_iff.mp none.symm
    cases spelled
    exact Nat.not_lt.mpr large small
  | cons c digits ih =>
    by_cases digit : ∃ d, (c, d) ∈ hexDigits
    · obtain ⟨d, listed⟩ := digit
      rw [appendSlotDigits_cons listed]
      constructor
      · intro failed
        split_ifs at failed with fits
        · obtain ⟨front, rest, values, rfl, spelled, large⟩ := (ih fits).mp failed
          exact ⟨c :: front, rest, d :: values, rfl, .cons listed spelled, large⟩
        · exact ⟨[c], digits, [d], rfl, .cons listed .nil, Nat.not_lt.mp fits⟩
      · rintro ⟨front, rest, values, same, _ | ⟨listed', spelled⟩, large⟩
        · exact absurd small (Nat.not_lt.mpr large)
        · obtain ⟨rfl, rfl⟩ := List.cons.inj same
          obtain rfl := eq_of_mem_hexDigits listed listed'
          split_ifs with fits
          · exact (ih fits).mpr ⟨_, rest, _, rfl, spelled, large⟩
          · rfl
    · rw [not_exists] at digit
      rw [appendSlotDigits_stray digit]
      refine iff_of_false nofun ?_
      rintro ⟨front, rest, values, same, _ | ⟨listed, -⟩, large⟩
      · exact Nat.not_lt.mpr large small
      · obtain ⟨rfl, -⟩ := List.cons.inj same
        exact digit _ listed

theorem appendSlotDigits_ne_empty : appendSlotDigits n digits ≠ .error .empty := by
  induction digits generalizing n with
  | nil => nofun
  | cons c digits ih =>
    rw [appendSlotDigits]
    split
    · nofun
    · split_ifs
      · exact ih
      · nofun

theorem appendSlotDigits_zero_eq_ok_iff :
    appendSlotDigits 0 digits = .ok n ↔ Spells digits n ∧ n < UInt32.size := by
  rw [appendSlotDigits_eq_ok_iff (by decide), spells_iff]
  constructor
  · rintro ⟨values, valued, same, less⟩
    exact ⟨⟨values, valued, same⟩, less⟩
  · rintro ⟨⟨values, valued, same⟩, less⟩
    exact ⟨values, valued, same, less⟩

theorem appendSlotDigits_zero_eq_tooLarge_iff :
    appendSlotDigits 0 digits = .error .tooLarge ↔ Overflows Spells digits := by
  simp only [appendSlotDigits_eq_tooLarge_iff (show 0 < UInt32.size by decide), Overflows,
    spells_iff]
  constructor
  · rintro ⟨front, rest, values, same, valued, large⟩
    exact ⟨front, rest, _, same, ⟨values, valued, rfl⟩, large⟩
  · rintro ⟨front, rest, n, same, ⟨values, valued, rfl⟩, large⟩
    exact ⟨front, rest, values, same, valued, large⟩

/-! ## Signs -/

theorem plus_not_mem_hexDigits (d : Nat) : ('+', d) ∉ hexDigits := by
  intro listed
  cases slotDigit?_of_mem listed

theorem not_spells_stray {c : Char} (stray : ∀ d, (c, d) ∉ hexDigits) :
    ¬ Spells (c :: digits) n := by
  rintro ⟨values, _ | ⟨listed, -⟩, -⟩
  exact stray _ listed

theorem not_isSigned_nil {signs : List (List Char)} : ¬ IsSigned signs [] n := by
  rintro ⟨sign, -, digits, none, some, -⟩
  exact some (List.append_eq_nil_iff.mp none.symm).2

theorem isSigned_plus : IsSigned slotSigns ('+' :: digits) n ↔ digits ≠ [] ∧ Spells digits n := by
  constructor
  · rintro ⟨sign, known, digits', same, some, spelled⟩
    simp only [slotSigns, List.mem_cons, List.not_mem_nil, or_false] at known
    rcases known with rfl | rfl
    · rw [← show _ = digits' from same] at spelled
      exact absurd spelled (not_spells_stray plus_not_mem_hexDigits)
    · obtain ⟨-, rfl⟩ := List.cons.inj same
      exact ⟨some, spelled⟩
  · rintro ⟨some, spelled⟩
    exact ⟨['+'], by decide, digits, rfl, some, spelled⟩

theorem isSigned_plain {c : Char} (other : c ≠ '+') :
    IsSigned slotSigns (c :: digits) n ↔ Spells (c :: digits) n := by
  constructor
  · rintro ⟨sign, known, digits', same, -, spelled⟩
    simp only [slotSigns, List.mem_cons, List.not_mem_nil, or_false] at known
    rcases known with rfl | rfl
    · rwa [← show _ = digits' from same] at spelled
    · exact absurd (List.cons.inj same).1 other
  · intro spelled
    exact ⟨[], by decide, _, rfl, List.cons_ne_nil _ _, spelled⟩

theorem slotNumber_plus (some : digits ≠ []) :
    slotNumber ('+' :: digits) = appendSlotDigits 0 digits := by
  cases digits with
  | nil => exact absurd rfl some
  | cons => rfl

theorem slotNumber_plain {c : Char} (other : c ≠ '+') :
    slotNumber (c :: digits) = appendSlotDigits 0 (c :: digits) := by
  rw [slotNumber]
  · exact nofun
  · intro same
    exact absurd (List.cons.inj same).1 other
  · intro digits' same
    exact absurd (List.cons.inj same).1 other

variable {text : List Char}

/-- What is read is a signed number; a plus sign alone is read as a digit, which it is not. -/
theorem slotNumber_eq_ok_iff :
    slotNumber text = .ok n ↔ IsSigned slotSigns text n ∧ n < UInt32.size := by
  rcases text with _ | ⟨c, digits⟩
  · exact iff_of_false nofun fun both => not_isSigned_nil both.1
  by_cases plus : c = '+'
  · subst plus
    rw [isSigned_plus]
    by_cases some : digits = []
    · subst some
      exact iff_of_false nofun fun both => both.1.1 rfl
    · rw [slotNumber_plus some, appendSlotDigits_zero_eq_ok_iff, and_iff_right some]
  · rw [slotNumber_plain plus, isSigned_plain plus, appendSlotDigits_zero_eq_ok_iff]

theorem ne_nil_of_spells (spelled : Spells digits n) (large : UInt32.size ≤ n) : digits ≠ [] := by
  rintro rfl
  obtain ⟨values, _ | _, rfl⟩ := spelled
  cases large

/-- A first character that stands for no number belongs to the beginning. -/
theorem overflows_cons {stands : List Char → Nat → Prop} {c : Char}
    (some : ∀ n, UInt32.size ≤ n → ¬ stands [] n) :
    Overflows stands (c :: digits) ↔ Overflows (fun front n => stands (c :: front) n) digits := by
  constructor
  · rintro ⟨_ | ⟨c, front⟩, rest, n, same, stand, large⟩
    · exact absurd stand (some n large)
    · obtain ⟨rfl, rfl⟩ := List.cons.inj same
      exact ⟨front, rest, n, rfl, stand, large⟩
  · rintro ⟨front, rest, n, rfl, stand, large⟩
    exact ⟨c :: front, rest, n, rfl, stand, large⟩

theorem overflows_isSigned_plus :
    Overflows (IsSigned slotSigns) ('+' :: digits) ↔ Overflows Spells digits := by
  rw [overflows_cons fun _ _ => not_isSigned_nil]
  simp only [isSigned_plus]
  constructor
  · rintro ⟨front, rest, n, same, ⟨-, spelled⟩, large⟩
    exact ⟨front, rest, n, same, spelled, large⟩
  · rintro ⟨front, rest, n, same, spelled, large⟩
    exact ⟨front, rest, n, same, ⟨ne_nil_of_spells spelled large, spelled⟩, large⟩

theorem overflows_isSigned_plain {c : Char} (other : c ≠ '+') :
    Overflows (IsSigned slotSigns) (c :: digits) ↔ Overflows Spells (c :: digits) := by
  rw [overflows_cons fun _ _ => not_isSigned_nil,
    overflows_cons fun _ large spelled => ne_nil_of_spells spelled large rfl]
  simp only [isSigned_plain other]

theorem slotNumber_eq_tooLarge_iff :
    slotNumber text = .error .tooLarge ↔ Overflows (IsSigned slotSigns) text := by
  rcases text with _ | ⟨c, digits⟩
  · refine iff_of_false nofun ?_
    rintro ⟨front, rest, n, none, signed, -⟩
    rw [(List.append_eq_nil_iff.mp none.symm).1] at signed
    exact not_isSigned_nil signed
  by_cases plus : c = '+'
  · subst plus
    rw [overflows_isSigned_plus]
    by_cases some : digits = []
    · subst some
      refine iff_of_false nofun ?_
      rintro ⟨front, rest, n, none, spelled, large⟩
      exact ne_nil_of_spells spelled large (List.append_eq_nil_iff.mp none.symm).1
    · rw [slotNumber_plus some, appendSlotDigits_zero_eq_tooLarge_iff]
  · rw [slotNumber_plain plus, overflows_isSigned_plain plus,
      appendSlotDigits_zero_eq_tooLarge_iff]

theorem slotNumber_eq_empty_iff : slotNumber text = .error .empty ↔ text = [] := by
  rcases text with _ | ⟨c, digits⟩
  · exact iff_of_true rfl rfl
  refine iff_of_false ?_ (List.cons_ne_nil _ _)
  by_cases plus : c = '+'
  · subst plus
    by_cases some : digits = []
    · subst some
      nofun
    · rw [slotNumber_plus some]
      exact appendSlotDigits_ne_empty
  · rw [slotNumber_plain plus]
    exact appendSlotDigits_ne_empty

/-! ## Marks -/

theorem exists_dropMark (text : List Char) : ∃ mark ∈ slotMarks, text = mark ++ dropMark text := by
  unfold dropMark
  split
  · exact ⟨['0', 'x'], by decide, rfl⟩
  · exact ⟨['0', 'X'], by decide, rfl⟩
  · exact ⟨[], by decide, rfl⟩

theorem dropMark_cases (text : List Char) : dropMark text = text ∨
    ∃ m rest, (∀ d, (m, d) ∉ hexDigits) ∧ text = '0' :: m :: rest := by
  have stray (m : Char) (unread : slotDigit? m = none) (d : Nat) : (m, d) ∉ hexDigits := by
    intro listed
    rw [slotDigit?_of_mem listed] at unread
    cases unread
  unfold dropMark
  split
  · exact .inr ⟨'x', _, stray 'x' (by decide), rfl⟩
  · exact .inr ⟨'X', _, stray 'X' (by decide), rfl⟩
  · exact .inl rfl

/-- One digit spells a number of four bits. -/
theorem lt_of_spells_singleton {c : Char} (spelled : Spells [c] n) : n < 16 := by
  have table : ∀ digit ∈ hexDigits, digit.2 < 16 := by decide
  obtain ⟨values, _ | ⟨listed, _ | _⟩, rfl⟩ := spelled
  rw [List.reverse_singleton, Nat.ofDigits_singleton]
  exact table _ listed

/-- What begins with a signed number does not begin with a mark, as long as the number is not the
first character of that mark.  A mark would be a zero and a character that is no digit, so the
number would be that zero; but there is nothing behind it, or it is large. -/
theorem dropMark_of_isSigned {rest : List Char} (signed : IsSigned slotSigns text n)
    (more : rest = [] ∨ UInt32.size ≤ n) : dropMark (text ++ rest) = text ++ rest := by
  rcases dropMark_cases (text ++ rest) with same | ⟨m, rest', stray, begins⟩
  · exact same
  exfalso
  rcases text with _ | ⟨c, _ | ⟨m', digits⟩⟩
  · exact not_isSigned_nil signed
  · obtain ⟨rfl, behind⟩ := List.cons.inj begins
    have small := lt_of_spells_singleton ((isSigned_plain (by decide)).mp signed)
    rcases more with rfl | large
    · cases behind
    · exact absurd (Nat.lt_of_lt_of_le small (by decide)) (Nat.not_lt.mpr large)
  · obtain ⟨rfl, behind⟩ := List.cons.inj begins
    obtain ⟨rfl, -⟩ := List.cons.inj behind
    obtain ⟨values, _ | ⟨-, _ | ⟨listed, -⟩⟩, -⟩ := (isSigned_plain (by decide)).mp signed
    exact stray _ listed

theorem dropMark_append {mark rest : List Char} (known : mark ∈ slotMarks)
    (signed : IsSigned slotSigns text n) (more : rest = [] ∨ UInt32.size ≤ n) :
    dropMark (mark ++ (text ++ rest)) = text ++ rest := by
  simp only [slotMarks, List.mem_cons, List.not_mem_nil, or_false] at known
  rcases known with rfl | rfl | rfl
  · rw [List.nil_append]
    exact dropMark_of_isSigned signed more
  · rfl
  · rfl

theorem isNumeral_iff : IsNumeral slotSigns text n ↔ IsSigned slotSigns (dropMark text) n := by
  constructor
  · rintro ⟨mark, known, behind, rfl, signed⟩
    have dropped := dropMark_append known signed (.inl rfl)
    rw [List.append_nil] at dropped
    rwa [dropped]
  · intro signed
    obtain ⟨mark, known, same⟩ := exists_dropMark text
    exact ⟨mark, known, _, same, signed⟩

theorem overflows_iff :
    Overflows (IsNumeral slotSigns) text ↔ Overflows (IsSigned slotSigns) (dropMark text) := by
  constructor
  · rintro ⟨_, rest, n, rfl, ⟨mark, known, behind, rfl, signed⟩, large⟩
    rw [List.append_assoc, dropMark_append known signed (.inr large)]
    exact ⟨behind, rest, n, rfl, signed, large⟩
  · rintro ⟨front, rest, n, same, signed, large⟩
    obtain ⟨mark, known, whole⟩ := exists_dropMark text
    refine ⟨mark ++ front, rest, n, ?_, ⟨mark, known, front, rfl, signed⟩, large⟩
    rw [List.append_assoc, ← same, ← whole]

theorem mem_slotMarks_iff : text ∈ slotMarks ↔ dropMark text = [] := by
  constructor
  · intro known
    simp only [slotMarks, List.mem_cons, List.not_mem_nil, or_false] at known
    rcases known with rfl | rfl | rfl <;> rfl
  · intro none
    obtain ⟨mark, known, same⟩ := exists_dropMark text
    rw [none, List.append_nil] at same
    rwa [same]

/-! ## Slots -/

/-- A text is read as a number exactly if it is a numeral for it; since the number has 32 bits, it
is not cut off. -/
theorem slot_eq_ok_iff {s : String} {n : UInt32} :
    slot s = .ok n ↔ IsNumeral slotSigns s.toList n.toNat := by
  rw [slot, map_eq_ok_iff, isNumeral_iff]
  simp only [slotNumber_eq_ok_iff]
  constructor
  · rintro ⟨m, ⟨signed, small⟩, rfl⟩
    rwa [UInt32.toNat_ofNat_of_lt' small]
  · intro signed
    exact ⟨n.toNat, ⟨signed, n.toNat_lt⟩, UInt32.ofNat_toNat⟩

/-- A text is refused for one reason only.  A digit is wrong where there is no other reason and no
number. -/
theorem slot_eq_error_iff {s : String} {fault : SlotFault} :
    slot s = .error fault ↔ fault.Explains s.toList := by
  rw [slot, map_eq_error_iff]
  cases fault with
  | empty => exact slotNumber_eq_empty_iff.trans mem_slotMarks_iff.symm
  | tooLarge => exact slotNumber_eq_tooLarge_iff.trans overflows_iff.symm
  | invalidDigit =>
    rw [SlotFault.Explains, mem_slotMarks_iff, overflows_iff, ← slotNumber_eq_empty_iff,
      ← slotNumber_eq_tooLarge_iff]
    simp only [isNumeral_iff]
    rcases read : slotNumber (dropMark s.toList) with (_ | _ | _) | n
    · exact iff_of_false nofun fun others => others.1 rfl
    · refine iff_of_true rfl ⟨nofun, fun n signed => ?_, nofun⟩
      by_cases small : n < UInt32.size
      · cases read.symm.trans (slotNumber_eq_ok_iff.mpr ⟨signed, small⟩)
      · have whole : Overflows (IsSigned slotSigns) (dropMark s.toList) :=
          ⟨_, [], n, (List.append_nil _).symm, signed, Nat.not_lt.mp small⟩
        cases read.symm.trans (slotNumber_eq_tooLarge_iff.mpr whole)
    · exact iff_of_false nofun fun others => others.2.2 rfl
    · exact iff_of_false nofun fun others => others.2.1 n (slotNumber_eq_ok_iff.mp read).1

theorem exists_value_of_mem {values : List Nat} (valued : Valued digits values) {c : Char}
    (mem : c ∈ digits) : ∃ d, (c, d) ∈ hexDigits := by
  induction valued with
  | nil => cases mem
  | cons listed _ ih =>
    rcases List.mem_cons.mp mem with rfl | mem
    · exact ⟨_, listed⟩
    · exact ih mem

/-- A numeral without a sign has no plus sign in it. -/
theorem plus_not_mem_of_unsigned (numeral : IsNumeral [[]] text n) : '+' ∉ text := by
  obtain ⟨mark, marked, behind, rfl, sign, known, digits, rfl, -, values, valued, -⟩ := numeral
  have marks : ∀ mark ∈ slotMarks, '+' ∉ mark := by decide
  rw [List.mem_singleton.mp known, List.nil_append, List.mem_append, not_or]
  refine ⟨marks mark marked, fun mem => ?_⟩
  obtain ⟨d, listed⟩ := exists_value_of_mem valued mem
  exact plus_not_mem_hexDigits d listed

/-- The numerals without a sign are those that are taken and have no plus sign in them. -/
theorem isNumeral_unsigned_iff :
    IsNumeral [[]] text n ↔ IsNumeral slotSigns text n ∧ '+' ∉ text := by
  constructor
  · intro numeral
    refine ⟨?_, plus_not_mem_of_unsigned numeral⟩
    obtain ⟨mark, marked, behind, rfl, sign, known, signed⟩ := numeral
    rw [List.mem_singleton.mp known] at signed
    exact ⟨mark, marked, behind, rfl, [], by decide, signed⟩
  · rintro ⟨⟨mark, marked, behind, rfl, sign, known, digits, rfl, signed⟩, unsigned⟩
    simp only [slotSigns, List.mem_cons, List.not_mem_nil, or_false] at known
    rcases known with rfl | rfl
    · exact ⟨mark, marked, _, rfl, [], List.mem_singleton_self _, digits, rfl, signed⟩
    · exact absurd (List.mem_append_right mark List.mem_cons_self) unsigned

/-- **The slot of a token** is the number that its text is a numeral for, with a plus sign or
without one.  Every other text is refused, with the text as it stands and the reason.  The texts
that are taken and have no plus sign in them are the numerals without a sign. -/
theorem Pkcs11.slotId_numeral (token : Pkcs11) :
    (∀ n : UInt32, token.slotId = .ok n ↔ IsNumeral slotSigns token.slot.toList n.toNat) ∧
    (∀ error, token.slotId = .error error ↔
      ∃ fault, error = .invalidSlot token.slot fault ∧ fault.Explains token.slot.toList) ∧
    ((∃ fault, token.slotId = .error (.invalidSlot token.slot fault)) ↔
      ∀ n : UInt32, ¬ IsNumeral slotSigns token.slot.toList n.toNat) ∧
    (∀ n : UInt32, token.slotId = .ok n ∧ '+' ∉ token.slot.toList ↔
      IsNumeral [[]] token.slot.toList n.toNat) := by
  have reads (n : UInt32) :
      token.slotId = .ok n ↔ IsNumeral slotSigns token.slot.toList n.toNat := by
    rw [slotId, mapError_eq_ok_iff, slot_eq_ok_iff]
  have refuses (error : Error) : token.slotId = .error error ↔
      ∃ fault, error = .invalidSlot token.slot fault ∧ fault.Explains token.slot.toList := by
    rw [slotId, mapError_eq_error_iff]
    simp only [slot_eq_error_iff, and_comm, @eq_comm _ error]
  refine ⟨reads, refuses, ?_, ?_⟩
  · constructor
    · rintro ⟨fault, failed⟩ n numeral
      cases failed.symm.trans ((reads n).mpr numeral)
    · intro none
      rcases read : token.slotId with error | n
      · obtain ⟨fault, rfl, -⟩ := (refuses error).mp read
        exact ⟨fault, rfl⟩
      · exact absurd ((reads n).mp read) (none n)
  · intro n
    rw [reads, isNumeral_unsigned_iff]

/-- A plus sign behind the mark is taken, though it is no digit. -/
theorem Pkcs11.not_slotId_unsigned :
    ¬ ∀ (token : Pkcs11) (n : UInt32),
      token.slotId = .ok n ↔ IsNumeral [[]] token.slot.toList n.toNat := by
  intro unsigned
  let token : Pkcs11 := ⟨"0x+1", "", "", ""⟩
  have read : token.slotId = .ok 1 := by decide +kernel
  have plus : '+' ∈ token.slot.toList := by decide +kernel
  exact plus_not_mem_of_unsigned ((unsigned token 1).mp read) plus

end RemoteSigner.Config
