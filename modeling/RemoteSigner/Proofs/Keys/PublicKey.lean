import RemoteSigner.Keys.PublicKey
import RemoteSigner.Proofs.Der.Elements

/-!
# Public keys are read back

A public key that has been written is read back as the same key, except for two kinds of keys that
can be written and are not taken from another program: RSA keys with a modulus of more than 4096
bits, or with numbers that can not be those of a key, and octets that are no Ed25519 key.  Reading
these gives the identifier of their algorithm.

## Main definitions

* `PublicKey.algorithm`, `PublicKey.octets`: what is written of a key
* `PublicKey.isTaken`: whether a key is taken from another program

## Main results

* `Curve.decodePoint?_encode`: a point is read back
* `PublicKey.read_encode`: what has been written of a key is read, whether the key is taken or not
* `PublicKey.decode_encode`: a key is read back exactly if it is taken
-/

namespace RemoteSigner

open Der

/-! ## Points -/

namespace Curve

variable {c : Curve}

theorem prime_lt (c : Curve) : c.prime < 256 ^ c.size := by
  cases c <;> decide

/-- A point is read back. -/
theorem decodePoint?_encode (p : c.Point) : c.decodePoint? p.encode = some p := by
  obtain ⟨x, y, onCurve⟩ := p
  have x_lt : x < 256 ^ c.size := Nat.lt_trans onCurve.1 c.prime_lt
  have y_lt : y < 256 ^ c.size := Nat.lt_trans onCurve.2.1 c.prime_lt
  have width : (Bytes.ofNatural c.size x).length = c.size := Bytes.length_ofNatural ..
  have whole : (Bytes.ofNatural c.size x ++ Bytes.ofNatural c.size y).length = 2 * c.size := by
    rw [List.length_append, Bytes.length_ofNatural, Bytes.length_ofNatural]
    omega
  rw [Point.encode, decodePoint?, if_pos rfl, if_pos whole, List.take_left' width,
    List.drop_left' width, Bytes.toNatural_ofNatural x_lt, Bytes.toNatural_ofNatural y_lt]
  exact dif_pos onCurve

theorem Point.length_encode (p : c.Point) : p.encode.length = 2 * c.size + 1 := by
  rw [Point.encode, List.length_cons, List.length_append, Bytes.length_ofNatural,
    Bytes.length_ofNatural]
  omega

end Curve

/-! ## Numbers of RSA keys -/

theorem Rsa.PublicKey.read_encode {key : Rsa.PublicKey} (short : key.encode.length < maxContents) :
    read.all key.encode = some key := by
  have parts := short_parts short
  simp only [List.forall_mem_cons] at parts
  have numbers : Reads (do return Rsa.PublicKey.mk (← readNatural) (← readNatural))
      (encodeNatural key.modulus ++ (encodeNatural key.exponent ++ [])) key :=
    (reads_natural parts.1).bind ((reads_natural parts.2.1).bind (.pure key))
  exact (reads_within short numbers.all).all

/-- The exponent of a key has no more than five octets. -/
theorem Rsa.PublicKey.length_encode_le {key : Rsa.PublicKey} {width : Nat}
    (valid : key.isValid = true) (below : key.modulus < 256 ^ width) (positive : 0 < width)
    (short : width + 32 < maxContents) : key.encode.length ≤ width + 32 := by
  have exponent_lt : key.exponent < 256 ^ 5 := by
    simp only [isValid, Bool.and_eq_true, decide_eq_true_eq] at valid
    exact Nat.lt_of_le_of_lt valid.1.2 (by decide)
  have modulus := length_naturalOctets_le below positive
  have exponent := length_naturalOctets_le exponent_lt (by decide)
  have first := Der.length_encode_le integerTag (Nat.lt_of_le_of_lt modulus (by omega))
  have second := Der.length_encode_le integerTag (Nat.lt_of_le_of_lt exponent (by omega))
  rw [← encodeNatural] at first second
  have whole := length_encodePair_le (Nat.lt_of_le_of_lt (Nat.add_le_add first second) (by omega))
  rw [encode]
  omega

/-! ## Algorithms -/

namespace Der.Algorithm

/-- An algorithm as it is written. -/
def encode (a : Algorithm) : Bytes :=
  encodeSequence (a.identifier.encode :: a.parameters.toList.map Element.encode)

theorem read_encode {a : Algorithm} (known : ∀ e ∈ a.parameters, isTag e.tag)
    (short : a.encode.length < maxContents) : Reads read a.encode a := by
  obtain ⟨identifier, parameters⟩ := a
  have identified := reads_identifier identifier
  refine reads_within short ?_
  rw [Reader.all_eq_some_iff]
  refine Reader.bind_eq_some_iff.mpr ⟨identifier, _, identified _, ?_⟩
  cases parameters with
  | none => rfl
  | some e =>
    have parts := short_parts short
    simp only [Option.toList_some, List.map_cons, List.map_nil, List.forall_mem_cons] at parts
    have element := reads_element (known e rfl) parts.2.1 []
    refine Reader.bind_eq_some_iff.mpr ⟨some e.tag, _, rfl, ?_⟩
    exact Reader.bind_eq_some_iff.mpr ⟨e, [], element, rfl⟩

end Der.Algorithm

/-! ## Keys with their algorithms -/

namespace KeyInfo

variable {info : KeyInfo}

theorem rsa?_eq_none (other : info.algorithm.isRsa = false) : info.rsa? = none := by
  simp [rsa?, other]

theorem point?_eq_none {c : Curve} (other : info.algorithm.isOn c = false) :
    info.point? c = none := by
  simp [point?, other]

theorem ed25519?_eq_none (other : info.algorithm.isEd25519 = false) : info.ed25519? = none := by
  simp [ed25519?, other]

end KeyInfo

namespace PublicKey

/-- The algorithm that is written of a key. -/
def algorithm : PublicKey → Algorithm
  | rsa _ => ⟨rsaIdentifier, some ⟨nullTag, []⟩⟩
  | ecdsa c _ => ⟨ecIdentifier, some ⟨identifierTag, c.identifier.contents⟩⟩
  | ed25519 _ => ⟨ed25519Identifier, none⟩

/-- The octets that are written of a key. -/
def octets : PublicKey → Bytes
  | rsa key => key.encode
  | ecdsa _ p => p.encode
  | ed25519 octets => octets

/-- Whether a key is taken from another program. -/
def isTaken : PublicKey → Bool
  | rsa key => key.isValid && decide (key.bits ≤ Rsa.PublicKey.maxBits)
  | ecdsa .. => true
  | ed25519 octets => Edwards.isPoint octets

theorem encode_eq (key : PublicKey) :
    key.encode = encodeSequence [key.algorithm.encode, encodeBits key.octets] := by
  cases key <;> rfl

variable {key : PublicKey}

/-- What has been written of a key is read, whether the key is taken or not. -/
theorem read_encode (short : key.encode.length < maxContents) :
    KeyInfo.read.all key.encode = some ⟨key.algorithm, ⟨0, key.octets⟩⟩ := by
  rw [encode_eq] at short ⊢
  have parts := short_parts short
  simp only [List.forall_mem_cons] at parts
  have known : ∀ e ∈ key.algorithm.parameters, isTag e.tag := by
    intro e mem
    cases key <;> cases mem <;> rfl
  have both : Reads (do return KeyInfo.mk (← Algorithm.read) (← readBits))
      (key.algorithm.encode ++ (encodeBits key.octets ++ [])) ⟨key.algorithm, ⟨0, key.octets⟩⟩ :=
    (Algorithm.read_encode known parts.1).bind ((reads_bits parts.2.1).bind (.pure _))
  exact (reads_within short both.all).all

/-- The key that is read is the one that has been written, or none.  The kinds are tried in a row,
and only that of the key has the identifier that is written. -/
theorem key?_algorithm (short : key.octets.length < maxContents) :
    KeyInfo.key? ⟨key.algorithm, ⟨0, key.octets⟩⟩ = if key.isTaken then some key else none := by
  cases key with
  | rsa key =>
    have read : Rsa.PublicKey.read.all key.encode = some key := Rsa.PublicKey.read_encode short
    have numbers : KeyInfo.rsa? ⟨(rsa key).algorithm, ⟨0, key.encode⟩⟩ =
        if (rsa key).isTaken then some key else none := by
      have named : (rsa key).algorithm.isRsa = true := rfl
      simp only [isTaken, Bool.and_eq_true, decide_eq_true_eq]
      split_ifs with taken <;>
        simp [KeyInfo.rsa?, named, BitString.whole?, read, taken]
    rw [octets, KeyInfo.key?, numbers, KeyInfo.point?_eq_none (c := .p256) rfl,
      KeyInfo.point?_eq_none (c := .p384) rfl, KeyInfo.ed25519?_eq_none rfl]
    split_ifs <;> rfl
  | ecdsa c p =>
    have point : KeyInfo.point? c ⟨(ecdsa c p).algorithm, ⟨0, p.encode⟩⟩ = some p := by
      have named : (ecdsa c p).algorithm.isOn c = true := by cases c <;> rfl
      simp [KeyInfo.point?, named, BitString.whole?, Curve.decodePoint?_encode]
    rw [octets, KeyInfo.key?, KeyInfo.rsa?_eq_none rfl]
    cases c with
    | p256 =>
      rw [point]
      rfl
    | p384 =>
      rw [KeyInfo.point?_eq_none (c := .p256) rfl, point]
      rfl
  | ed25519 octets =>
    have held : KeyInfo.ed25519? ⟨(ed25519 octets).algorithm, ⟨0, octets⟩⟩ =
        if (ed25519 octets).isTaken then some octets else none := by
      have named : (ed25519 octets).algorithm.isEd25519 = true := rfl
      simp only [isTaken]
      split_ifs with taken <;> simp [KeyInfo.ed25519?, named, BitString.whole?, taken]
    rw [PublicKey.octets, KeyInfo.key?, held, KeyInfo.rsa?_eq_none rfl,
      KeyInfo.point?_eq_none (c := .p256) rfl, KeyInfo.point?_eq_none (c := .p384) rfl]
    split_ifs <;> rfl

/-- Beside the octets of a key there are few others. -/
theorem length_encode_lt (short : key.octets.length + 64 < maxContents) :
    key.encode.length < maxContents := by
  have named : key.algorithm.encode.length ≤ 32 := by
    cases key with
    | rsa => exact Nat.le_of_ble_eq_true rfl
    | ecdsa c => cases c <;> exact Nat.le_of_ble_eq_true rfl
    | ed25519 => exact Nat.le_of_ble_eq_true rfl
  have bits : (encodeBits key.octets).length ≤ key.octets.length + 7 := by
    have unused : (0 :: key.octets : Bytes).length = key.octets.length + 1 := List.length_cons
    have contents : (0 :: key.octets : Bytes).length < maxContents := by omega
    have element := Der.length_encode_le bitStringTag contents
    rw [encodeBits]
    omega
  have whole := length_encodePair_le (Nat.lt_of_le_of_lt (Nat.add_le_add named bits) (by omega))
  rw [encode_eq]
  omega

/-- **A public key that has been written is read back**, if it is a key that is taken. -/
theorem decode_encode (short : key.encode.length < maxContents) : decode key.encode =
    if key.isTaken then .ok key else .error (.unsupported key.algorithm.identifier) := by
  have inside : key.octets.length < maxContents := by
    rw [encode_eq] at short
    have bits := short_contents (short_parts short _ (List.mem_cons_of_mem _ List.mem_cons_self))
    exact Nat.lt_trans (Nat.lt_succ_self _) bits
  simp only [decode, read_encode short, key?_algorithm inside]
  split_ifs <;> rfl

end PublicKey

end RemoteSigner
