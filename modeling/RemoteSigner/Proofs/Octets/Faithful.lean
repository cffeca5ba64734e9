import Mathlib.Data.List.Induction
import Mathlib.Tactic.Ring
import RemoteSigner.Octets

/-!
# Numbers and texts survive as octets

A number that fits into a width is read back from it, and a text is read back from its UTF-8 form.

## Main results

* `toNatural_ofNatural`, `ofNatural_toNatural`: a number in a width that holds it
* `toText?_ofText`: a text
* `ofText_ofList`: texts of ASCII characters, octet by octet
* `prefix_ofText_iff`: ASCII characters at the beginning of a text
-/

namespace RemoteSigner.Bytes

/-! ## Numbers -/

/-- The number of octets behind others, of which the last one is the least significant one. -/
theorem toNatural_append (left right : Bytes) :
    toNatural (left ++ right) = toNatural left * 256 ^ right.length + toNatural right := by
  induction right using List.reverseRecOn generalizing left with
  | nil => simp [toNatural]
  | append_singleton right b ih =>
    have step : ∀ bytes : Bytes, toNatural (bytes ++ [b]) = toNatural bytes * 256 + b.toNat := by
      intro bytes
      simp [toNatural, List.foldl_append]
    rw [← List.append_assoc, step, step, ih, List.length_append, List.length_singleton, pow_succ]
    ring

theorem toNatural_singleton (b : UInt8) : toNatural [b] = b.toNat := by
  simp [toNatural]

/-- Octets spell a number that their width holds. -/
theorem toNatural_lt (bytes : Bytes) : toNatural bytes < 256 ^ bytes.length := by
  induction bytes using List.reverseRecOn with
  | nil => simp [toNatural]
  | append_singleton bytes b ih =>
    have small : b.toNat < 256 := b.toNat_lt
    rw [toNatural_append, toNatural_singleton, List.length_append, List.length_singleton, pow_one,
      pow_succ]
    omega

/-- Octets spell a number of no more bits than there are in the first octet and all others. -/
theorem toNatural_cons_lt {b : UInt8} {bits : Nat} (first : b.toNat < 2 ^ bits) (rest : Bytes) :
    toNatural (b :: rest) < 2 ^ (bits + 8 * rest.length) := by
  have behind := toNatural_lt rest
  rw [← List.singleton_append, toNatural_append, toNatural_singleton, pow_add, pow_mul]
  calc b.toNat * 256 ^ rest.length + toNatural rest
      < b.toNat * 256 ^ rest.length + 256 ^ rest.length := Nat.add_lt_add_left behind _
    _ = (b.toNat + 1) * 256 ^ rest.length := (Nat.succ_mul _ _).symm
    _ ≤ 2 ^ bits * 256 ^ rest.length := Nat.mul_le_mul_right _ first

theorem toNatural_pushNatural {width n : Nat} (rest : Bytes) (fits : n < 256 ^ width) :
    toNatural (pushNatural width n rest) = n * 256 ^ rest.length + toNatural rest := by
  induction width generalizing n rest with
  | zero =>
    have : n = 0 := by simpa using fits
    simp [pushNatural, this]
  | succ width ih =>
    have high : n / 256 < 256 ^ width := by
      rw [pow_succ] at fits
      exact Nat.div_lt_of_lt_mul (by rwa [Nat.mul_comm] at fits)
    have low : (UInt8.ofNat (n % 256)).toNat = n % 256 := by simp
    have front : toNatural (UInt8.ofNat (n % 256) :: rest) =
        n % 256 * 256 ^ rest.length + toNatural rest := by
      rw [← List.singleton_append, toNatural_append, toNatural_singleton, low]
    rw [pushNatural, ih _ high, front, List.length_cons, pow_succ]
    conv_rhs => rw [← Nat.div_add_mod n 256]
    ring

/-- A number is read back from any width that holds it. -/
theorem toNatural_ofNatural {width n : Nat} (fits : n < 256 ^ width) :
    toNatural (ofNatural width n) = n := by
  rw [ofNatural, toNatural_pushNatural [] fits]
  simp [toNatural]

theorem pushNatural_toNatural (bytes rest : Bytes) :
    pushNatural bytes.length (toNatural bytes) rest = bytes ++ rest := by
  induction bytes using List.reverseRecOn generalizing rest with
  | nil => rfl
  | append_singleton bytes b ih =>
    have small : b.toNat < 256 := b.toNat_lt
    have high : (toNatural bytes * 256 + b.toNat) / 256 = toNatural bytes := by omega
    have low : (toNatural bytes * 256 + b.toNat) % 256 = b.toNat := by omega
    rw [toNatural_append, toNatural_singleton, List.length_append, List.length_singleton,
      pushNatural, pow_one, high, low, ih, UInt8.ofNat_toNat, List.append_assoc,
      List.singleton_append]

/-- Octets are the number that they spell, in the width that they have. -/
theorem ofNatural_toNatural {bytes : Bytes} {width : Nat} (h : bytes.length = width) :
    ofNatural width (toNatural bytes) = bytes := by
  rw [ofNatural, ← h, pushNatural_toNatural, List.append_nil]

/-! ## Texts -/

theorem ofText_ofByteArray (bytes : ByteArray) (valid : bytes.IsValidUTF8) :
    ofText (String.ofByteArray bytes valid) = bytes.data.toList := rfl

/-- A text is read back from its UTF-8 form. -/
theorem toText?_ofText (s : String) : toText? (ofText s) = some s := by
  rcases s with ⟨bytes, valid⟩
  simp [toText?, String.fromUTF8?, String.fromUTF8, ofText_ofByteArray, valid]

@[simp] theorem ofText_append (s t : String) : ofText (s ++ t) = ofText s ++ ofText t := by
  simp [ofText]

theorem ofText_ofList_cons (c : Char) (cs : List Char) :
    ofText (String.ofList (c :: cs)) = String.utf8EncodeChar c ++ ofText (String.ofList cs) := by
  simp [ofText, List.utf8Encode]

theorem utf8EncodeChar_ofNat {n : Nat} (ascii : n < 128) :
    String.utf8EncodeChar (Char.ofNat n) = [UInt8.ofNat n] := by
  have valid : n.isValidChar := Or.inl (by omega)
  have value : (Char.ofNat n).val.toNat = n := by
    rw [Char.ofNat, dif_pos valid]
    rfl
  have small : n ≤ 127 := by omega
  simp [String.utf8EncodeChar, value, small]

/-- A text of ASCII characters has one octet for each of them. -/
theorem ofText_ofList {bytes : Bytes} (ascii : ∀ b ∈ bytes, b < 0x80) :
    ofText (String.ofList (bytes.map fun b => Char.ofNat b.toNat)) = bytes := by
  induction bytes with
  | nil => simp [ofText]
  | cons b bytes ih =>
    have small : b.toNat < 128 := UInt8.lt_iff_toNat_lt.mp (ascii b List.mem_cons_self)
    rw [List.map_cons, ofText_ofList_cons, utf8EncodeChar_ofNat small,
      ih fun c h => ascii c (List.mem_cons_of_mem b h)]
    simp

/-- A character beyond ASCII begins with an octet beyond ASCII. -/
theorem exists_utf8EncodeChar {c : Char} (great : 127 < c.toNat) :
    ∃ first more, String.utf8EncodeChar c = first :: more ∧ 128 ≤ first.toNat := by
  have value : ¬ c.val.toNat ≤ 127 := Nat.not_le.mpr great
  simp only [String.utf8EncodeChar, if_neg value]
  split
  · exact ⟨_, _, rfl, by rw [UInt8.toNat_ofNat']; omega⟩
  · split
    · exact ⟨_, _, rfl, by rw [UInt8.toNat_ofNat']; omega⟩
    · exact ⟨_, _, rfl, by rw [UInt8.toNat_ofNat']; omega⟩

/-- A text begins with an octet of ASCII only if it begins with that character. -/
theorem exists_of_ofText_cons {cs : List Char} {b : UInt8} {tail : Bytes} (ascii : b < 0x80)
    (h : ofText (String.ofList cs) = b :: tail) :
    ∃ cs', cs = Char.ofNat b.toNat :: cs' ∧ tail = ofText (String.ofList cs') := by
  have small : b.toNat < 128 := UInt8.lt_iff_toNat_lt.mp ascii
  cases cs with
  | nil => cases h
  | cons c cs =>
    rw [ofText_ofList_cons] at h
    by_cases one : c.toNat ≤ 127
    · have form := utf8EncodeChar_ofNat (Nat.lt_succ_of_le one)
      rw [Char.ofNat_toNat] at form
      rw [form] at h
      obtain ⟨rfl, rfl⟩ := List.cons.inj h
      refine ⟨cs, ?_, rfl⟩
      rw [UInt8.toNat_ofNat', Nat.mod_eq_of_lt (by omega), Char.ofNat_toNat]
    · obtain ⟨first, more, form, great⟩ := exists_utf8EncodeChar (Nat.not_le.mp one)
      rw [form] at h
      obtain ⟨rfl, -⟩ := List.cons.inj h
      omega

/-- Octets of ASCII stand at the beginning of a text exactly if their characters do.  Each octet of
the mark is a character of the text. -/
theorem prefix_ofText_iff {mark : Bytes} (ascii : ∀ b ∈ mark, b < 0x80) (s : String) :
    mark <+: ofText s ↔
      ∃ rest, s = String.ofList (mark.map fun b => Char.ofNat b.toNat) ++ rest := by
  constructor
  · rintro ⟨tail, same⟩
    have characters : ∀ cs, mark ++ tail = ofText (String.ofList cs) →
        ∃ rest, cs = (mark.map fun b => Char.ofNat b.toNat) ++ rest := by
      clear same
      induction mark with
      | nil => exact fun cs _ => ⟨cs, rfl⟩
      | cons b mark ih =>
        intro cs same
        rw [List.forall_mem_cons] at ascii
        obtain ⟨others, rfl, more⟩ := exists_of_ofText_cons ascii.1 same.symm
        obtain ⟨rest, rfl⟩ := ih ascii.2 others more
        exact ⟨rest, rfl⟩
    obtain ⟨rest, same⟩ := characters s.toList (by rw [String.ofList_toList]; exact same)
    refine ⟨String.ofList rest, ?_⟩
    rw [← String.ofList_append, ← same, String.ofList_toList]
  · rintro ⟨rest, rfl⟩
    rw [ofText_append, ofText_ofList ascii]
    exact List.prefix_append ..

end RemoteSigner.Bytes
