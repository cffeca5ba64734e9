import RemoteSigner.Octets.Base64
import RemoteSigner.Proofs.Octets.Faithful

/-!
# Base64 is read back

Every octet string is read back from its letters, and its letters are as many as its length says.

## Main results

* `decode?_encode`: octets from their letters
* `length_encode`: four letters for every group of up to three octets
* `ofText_encodeText`: the letters as a text are the letters
-/

namespace RemoteSigner.Base64

/-! ## Letters -/

theorem value?_letter {n : Nat} (small : n < 64) : value? (letter n) = some n := by
  have table : ∀ m < 64, value? (letter m) = some m := by decide
  exact table n small

theorem letter_lt {n : Nat} (small : n < 64) : letter n < 0x80 := by
  have table : ∀ m < 64, letter m < 0x80 := by decide
  exact table n small

theorem value?_pad : value? pad = none := by decide

/-! ## Groups -/

/-- Induction over the groups of an octet string, of which the last one may be short. -/
@[elab_as_elim]
theorem induction_groups {motive : Bytes → Prop} (nil : motive []) (one : ∀ a, motive [a])
    (two : ∀ a b, motive [a, b])
    (group : ∀ a b c rest, motive rest → motive (a :: b :: c :: rest)) : ∀ bytes, motive bytes
  | [] => nil
  | [a] => one a
  | [a, b] => two a b
  | a :: b :: c :: rest => group a b c rest (induction_groups nil one two group rest)

theorem push_eq_append (done bytes : Bytes) : push done bytes = push [] bytes ++ done := by
  induction bytes using induction_groups generalizing done with
  | nil => simp [push]
  | one => simp [push]
  | two => simp [push]
  | group a b c rest ih =>
    rw [push, push, ih, ih (pushGroup _ _ _ []), List.append_assoc]
    rfl

theorem encode_nil : encode [] = [] := rfl

theorem encode_one (a : UInt8) :
    encode [a] = [letter (a.toNat / 4), letter (a.toNat % 4 * 16), pad, pad] := rfl

theorem encode_two (a b : UInt8) : encode [a, b] =
    [letter (a.toNat / 4), letter (a.toNat % 4 * 16 + b.toNat / 16), letter (b.toNat % 16 * 4),
      pad] :=
  rfl

theorem encode_group (a b c : UInt8) (rest : Bytes) : encode (a :: b :: c :: rest) =
    letter (a.toNat / 4) :: letter (a.toNat % 4 * 16 + b.toNat / 16) ::
      letter (b.toNat % 16 * 4 + c.toNat / 64) :: letter (c.toNat % 64) :: encode rest := by
  rw [encode, push, push_eq_append]
  simp [encode, pushGroup]

/-! ## Reading back -/

theorem pull?_letters {p q r s : Nat} (done letters : Bytes) (hp : p < 64) (hq : q < 64)
    (hr : r < 64) (hs : s < 64) :
    pull? done (letter p :: letter q :: letter r :: letter s :: letters) =
      pull? (pushOctets p q r s done) letters := by
  rw [pull?, value?_letter hp, value?_letter hq, value?_letter hr, value?_letter hs]

/-- The six-bit numbers of three octets give the octets again. -/
theorem pushOctets_eq (a b c : UInt8) (done : Bytes) :
    pushOctets (a.toNat / 4) (a.toNat % 4 * 16 + b.toNat / 16) (b.toNat % 16 * 4 + c.toNat / 64)
      (c.toNat % 64) done = c :: b :: a :: done := by
  have ha := a.toNat_lt
  have hb := b.toNat_lt
  have hc := c.toNat_lt
  have first : a.toNat / 4 * 4 + (a.toNat % 4 * 16 + b.toNat / 16) / 16 = a.toNat := by omega
  have second : (a.toNat % 4 * 16 + b.toNat / 16) % 16 * 16 +
      (b.toNat % 16 * 4 + c.toNat / 64) / 4 = b.toNat := by omega
  have third : (b.toNat % 16 * 4 + c.toNat / 64) % 4 * 64 + c.toNat % 64 = c.toNat := by omega
  simp only [pushOctets, first, second, third, UInt8.ofNat_toNat]

/-- Octets are pulled from their letters group by group; no bit is left under the padding of the
last one. -/
theorem pull?_encode (done bytes : Bytes) :
    pull? done (encode bytes) = some (bytes.reverse ++ done) := by
  induction bytes using induction_groups generalizing done with
  | nil => rfl
  | one a =>
    have ha := a.toNat_lt
    have octet : a.toNat / 4 * 4 + a.toNat % 4 * 16 / 16 = a.toNat := by omega
    have clear : a.toNat % 4 * 16 % 16 = 0 := by omega
    simp only [encode_one, pull?, value?_letter (show a.toNat / 4 < 64 by omega),
      value?_letter (show a.toNat % 4 * 16 < 64 by omega), value?_pad, pushLast?, octet, clear,
      UInt8.ofNat_toNat]
    simp
  | two a b =>
    have ha := a.toNat_lt
    have hb := b.toNat_lt
    have first : a.toNat / 4 * 4 + (a.toNat % 4 * 16 + b.toNat / 16) / 16 = a.toNat := by omega
    have second : (a.toNat % 4 * 16 + b.toNat / 16) % 16 * 16 + b.toNat % 16 * 4 / 4 = b.toNat := by
      omega
    have clear : b.toNat % 16 * 4 % 4 = 0 := by omega
    simp only [encode_two, pull?, value?_letter (show a.toNat / 4 < 64 by omega),
      value?_letter (show a.toNat % 4 * 16 + b.toNat / 16 < 64 by omega),
      value?_letter (show b.toNat % 16 * 4 < 64 by omega), value?_pad, pushLast?, first, second,
      clear, UInt8.ofNat_toNat]
    simp
  | group a b c rest ih =>
    have ha := a.toNat_lt
    have hb := b.toNat_lt
    have hc := c.toNat_lt
    rw [encode_group, pull?_letters done _ (by omega) (by omega) (by omega) (by omega),
      pushOctets_eq, ih]
    simp

/-- Octets are read back from their letters. -/
theorem decode?_encode (bytes : Bytes) : decode? (encode bytes) = some bytes := by
  simp [decode?, pull?_encode]

/-! ## The written form -/

theorem length_encode (bytes : Bytes) : (encode bytes).length = (bytes.length + 2) / 3 * 4 := by
  induction bytes using induction_groups with
  | nil => rfl
  | one a => simp [encode_one]
  | two a b => simp [encode_two]
  | group a b c rest ih =>
    rw [encode_group]
    simp only [List.length_cons, ih]
    omega

/-- What all letters and the pad have in common is true of all that is written. -/
theorem forall_mem_encode {p : UInt8 → Prop} (letters : ∀ n < 64, p (letter n)) (padding : p pad)
    (bytes : Bytes) : ∀ b ∈ encode bytes, p b := by
  intro written h
  induction bytes using induction_groups with
  | nil => simp [encode_nil] at h
  | one a =>
    have ha := a.toNat_lt
    simp only [encode_one, List.mem_cons, List.not_mem_nil, or_false] at h
    rcases h with rfl | rfl | rfl | rfl
    · exact letters _ (by omega)
    · exact letters _ (by omega)
    · exact padding
    · exact padding
  | two a b =>
    have ha := a.toNat_lt
    have hb := b.toNat_lt
    simp only [encode_two, List.mem_cons, List.not_mem_nil, or_false] at h
    rcases h with rfl | rfl | rfl | rfl
    · exact letters _ (by omega)
    · exact letters _ (by omega)
    · exact letters _ (by omega)
    · exact padding
  | group a b c rest ih =>
    have ha := a.toNat_lt
    have hb := b.toNat_lt
    have hc := c.toNat_lt
    simp only [encode_group, List.mem_cons] at h
    rcases h with rfl | rfl | rfl | rfl | h
    · exact letters _ (by omega)
    · exact letters _ (by omega)
    · exact letters _ (by omega)
    · exact letters _ (by omega)
    · exact ih h

theorem lt_of_mem_encode {bytes : Bytes} {letter : UInt8} (h : letter ∈ encode bytes) :
    letter < 0x80 := by
  have padding : pad < 0x80 := by decide
  exact forall_mem_encode (p := fun b => b < 0x80) (fun _ => letter_lt) padding bytes letter h

theorem ofText_encodeText (bytes : Bytes) : Bytes.ofText (encodeText bytes) = encode bytes :=
  Bytes.ofText_ofList fun _ h => lt_of_mem_encode h

end RemoteSigner.Base64
