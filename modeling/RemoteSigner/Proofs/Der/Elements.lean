import Mathlib.Tactic.SplitIfs
import RemoteSigner.Der.Identifier
import RemoteSigner.Proofs.Octets.Faithful

/-!
# Elements are read back

There is one way to write an element, and that one is read, wherever it stands: a reader takes the
octets of the element and leaves those that follow.  The length of an element has no more than four
octets, so its contents are fewer than `maxContents` octets.  What stands inside of an element is
shorter than the element, and so it is enough to ask this of the outermost one.

## Main definitions

* `maxContents`: what the length of an element can not say
* `Reads`: the octets of a value are read as this value, whatever follows

## Main results

* `readElement_eq_some_iff`: when an element is read, and which one
* `reads_natural`, `reads_bits`, `reads_identifier`, `reads_within`: elements of a known kind
* `length_encode_le`, `length_encodePair_le`, `length_encodeNatural_le`: how many octets an element
  has
-/

namespace RemoteSigner

/-! ## Numbers in as few octets as possible -/

namespace Bytes

theorem widthOf_le {n width : Nat} (below : n < 256 ^ width) : widthOf n ≤ width := by
  rw [widthOf]
  split_ifs with zero
  · exact Nat.zero_le _
  · have bits : Nat.log2 n < 8 * width := by
      rw [Nat.log2_lt zero, Nat.pow_mul]
      exact below
    omega

theorem lt_pow_widthOf (n : Nat) : n < 256 ^ widthOf n := by
  rw [widthOf]
  split_ifs with zero
  · rw [zero]
    decide
  · calc n < 2 ^ (Nat.log2 n + 1) := Nat.lt_log2_self
      _ ≤ 2 ^ (8 * (Nat.log2 n / 8 + 1)) := Nat.pow_le_pow_right (by decide) (by omega)
      _ = 256 ^ (Nat.log2 n / 8 + 1) := Nat.pow_mul 2 8 _

theorem widthOf_pos {n : Nat} (positive : 0 < n) : 0 < widthOf n := by
  rw [widthOf, if_neg (Nat.ne_of_gt positive)]
  exact Nat.succ_pos _

theorem length_minimal_le {n width : Nat} (below : n < 256 ^ width) (positive : 0 < width) :
    (minimal n).length ≤ width := by
  rw [minimal, length_ofNatural]
  exact Nat.max_le.mpr ⟨positive, widthOf_le below⟩

theorem toNatural_minimal (n : Nat) : toNatural (minimal n) = n := by
  apply toNatural_ofNatural
  calc n < 256 ^ widthOf n := lt_pow_widthOf n
    _ ≤ 256 ^ max 1 (widthOf n) := Nat.pow_le_pow_right (by decide) (Nat.le_max_right ..)

theorem toNatural_zero_cons (bytes : Bytes) : toNatural (0 :: bytes) = toNatural bytes := rfl

/-- Of several octets the first one is needed.  Behind a zero, one octet less would be enough. -/
theorem head_minimal_ne_zero {n : Nat} {first second : UInt8} {rest : Bytes}
    (octets : minimal n = first :: second :: rest) : first ≠ 0 := by
  rintro rfl
  have small : n < 256 ^ (second :: rest).length := by
    rw [← toNatural_minimal n, octets, toNatural_zero_cons]
    exact toNatural_lt _
  have short := length_minimal_le small (Nat.succ_pos _)
  rw [octets, List.length_cons] at short
  exact Nat.not_succ_le_self _ short

end Bytes

namespace Der

/-- How many octets the contents of an element may not have. -/
def maxContents : Nat := 256 ^ 4

/-! ## Lengths -/

theorem length_lengthOctets_le {n : Nat} (short : n < maxContents) :
    (lengthOctets n).length ≤ 5 := by
  rw [lengthOctets]
  split_ifs
  · exact Nat.le_add_left 1 4
  · rw [List.length_cons, Bytes.length_ofNatural]
    exact Nat.succ_le_succ (Bytes.widthOf_le short)

/-- A length is read from its octets: the reader compares with what it would have written, which is
why no other length is read. -/
theorem readLength_lengthOctets {n : Nat} (short : n < maxContents) (rest : Bytes) :
    readLength (lengthOctets n ++ rest) = some (n, rest) := by
  by_cases small : n < 0x80
  · have octet : (UInt8.ofNat n).toNat = n := by
      rw [UInt8.toNat_ofNat', Nat.mod_eq_of_lt (by omega)]
    have below : UInt8.ofNat n < 0x80 := by
      rw [UInt8.lt_iff_toNat_lt, octet]
      exact small
    rw [lengthOctets, if_pos small, List.singleton_append, readLength, if_pos below, octet]
  · have octets : lengthOctets n =
        UInt8.ofNat (0x80 + Bytes.widthOf n) :: Bytes.ofNatural (Bytes.widthOf n) n := by
      rw [lengthOctets, if_neg small]
    have positive : 1 ≤ Bytes.widthOf n := Bytes.widthOf_pos (by omega)
    have narrow : Bytes.widthOf n ≤ 4 := Bytes.widthOf_le short
    have octet : (UInt8.ofNat (0x80 + Bytes.widthOf n)).toNat = 0x80 + Bytes.widthOf n := by
      rw [UInt8.toNat_ofNat', Nat.mod_eq_of_lt (by omega)]
    have above : ¬ UInt8.ofNat (0x80 + Bytes.widthOf n) < 0x80 := by
      rw [UInt8.lt_iff_toNat_lt, octet]
      exact Nat.not_lt.mpr (Nat.le_add_right ..)
    have width : (Bytes.ofNatural (Bytes.widthOf n) n).length = Bytes.widthOf n :=
      Bytes.length_ofNatural ..
    have spelled : Bytes.toNatural (Bytes.ofNatural (Bytes.widthOf n) n) = n :=
      Bytes.toNatural_ofNatural (Bytes.lt_pow_widthOf n)
    rw [octets, List.cons_append, readLength, if_neg above, octet, Nat.add_sub_cancel_left]
    dsimp only
    rw [List.take_left' width, List.drop_left' width, spelled]
    refine if_pos ⟨positive, narrow, ?_, octets⟩
    rw [List.length_append, width]
    exact Nat.le_add_right ..

/-- **A length is read exactly where it is written.** -/
theorem readLength_eq_some_iff {bytes rest : Bytes} {n : Nat} :
    readLength bytes = some (n, rest) ↔ n < maxContents ∧ bytes = lengthOctets n ++ rest := by
  constructor
  · intro found
    cases bytes with
    | nil => cases found
    | cons b bytes =>
      rw [readLength] at found
      dsimp only at found
      split_ifs at found with small long
      · obtain ⟨rfl, rfl⟩ := Prod.mk.inj (Option.some.inj found)
        have below : b.toNat < 0x80 := small
        refine ⟨Nat.lt_trans below (by decide), ?_⟩
        rw [lengthOctets, if_pos below, UInt8.ofNat_toNat]
        rfl
      · obtain ⟨same, rfl⟩ := Prod.mk.inj (Option.some.inj found)
        obtain ⟨-, narrow, whole, octets⟩ := long
        rw [same] at octets
        constructor
        · rw [← same]
          refine Nat.lt_of_lt_of_le (Bytes.toNatural_lt _) (Nat.pow_le_pow_right (by decide) ?_)
          rw [List.length_take]
          exact Nat.le_trans (Nat.min_le_left ..) narrow
        · rw [octets, List.cons_append, List.take_append_drop]
  · rintro ⟨short, rfl⟩
    exact readLength_lengthOctets short rest

/-! ## Elements -/

theorem length_lt_encode (tag : UInt8) (contents : Bytes) :
    contents.length < (encode tag contents).length := by
  simp only [encode, Element.encode, List.length_cons, List.length_append]
  omega

/-- An element has at most six octets more than its contents. -/
theorem length_encode_le {contents : Bytes} (tag : UInt8) (short : contents.length < maxContents) :
    (encode tag contents).length ≤ contents.length + 6 := by
  have := length_lengthOctets_le short
  simp only [encode, Element.encode, List.length_cons, List.length_append]
  omega

/-- An element with few octets says how many in one. -/
theorem length_encode {contents : Bytes} (tag : UInt8) (short : contents.length < 0x80) :
    (encode tag contents).length = contents.length + 2 := by
  rw [encode, Element.encode, lengthOctets, if_pos short]
  simp only [List.length_cons, List.length_append, List.length_nil]
  omega

/-- An element with two parts is little longer than these. -/
theorem length_encodePair_le {first second : Bytes}
    (short : first.length + second.length < maxContents) :
    (encodeSequence [first, second]).length ≤ first.length + second.length + 6 := by
  have parts : [first, second].flatten.length = first.length + second.length := by
    simp only [List.flatten_cons, List.flatten_nil, List.append_nil, List.length_append]
  rw [← parts] at short ⊢
  exact length_encode_le sequenceTag short

/-- **An element is read exactly where it is written**, if it has a tag that elements may have. -/
theorem readElement_eq_some_iff {bytes rest : Bytes} {e : Element} :
    readElement bytes = some (e, rest) ↔
      isTag e.tag ∧ e.contents.length < maxContents ∧ bytes = e.encode ++ rest := by
  constructor
  · intro found
    cases bytes with
    | nil => cases found
    | cons tag bytes =>
      obtain ⟨_, known, taken⟩ := Option.bind_eq_some_iff.mp found
      obtain ⟨⟨n, behind⟩, length, taken⟩ := Option.bind_eq_some_iff.mp taken
      obtain ⟨_, whole, taken⟩ := Option.bind_eq_some_iff.mp taken
      obtain ⟨short, same⟩ := readLength_eq_some_iff.mp length
      replace known : isTag tag = true := by simpa using known
      replace whole : (behind.take n).length = n := by simpa using whole
      obtain ⟨rfl, rfl⟩ := Prod.mk.inj (Option.some.inj taken)
      refine ⟨known, lt_of_eq_of_lt whole short, ?_⟩
      simp only [same, Element.encode, whole, List.cons_append, List.append_assoc,
        List.take_append_drop]
  · rintro ⟨known, short, rfl⟩
    have length := readLength_lengthOctets short (e.contents ++ rest)
    simp [Element.encode, readElement, known, length]

/-! ## Readers in a row -/

namespace Reader

variable {α β : Type} {r : Reader α} {f : α → Reader β} {a : α} {b : β} {bytes rest : Bytes}

theorem bind_eq_some_iff : (r >>= f) bytes = some (b, rest) ↔
    ∃ a behind, r bytes = some (a, behind) ∧ f a behind = some (b, rest) := by
  constructor
  · intro found
    obtain ⟨⟨a, behind⟩, first, second⟩ := Option.bind_eq_some_iff.mp found
    exact ⟨a, behind, first, second⟩
  · rintro ⟨a, behind, first, second⟩
    exact Option.bind_eq_some_iff.mpr ⟨(a, behind), first, second⟩

theorem pure_eq_some_iff {a' : α} :
    (pure a : Reader α) bytes = some (a', rest) ↔ a = a' ∧ bytes = rest := by
  constructor
  · intro found
    exact Prod.mk.inj (Option.some.inj found)
  · rintro ⟨rfl, rfl⟩
    rfl

theorem guard_eq_some_iff {p : Prop} [Decidable p] {u : Unit} :
    (guard p : Reader Unit) bytes = some (u, rest) ↔ p ∧ bytes = rest := by
  by_cases holds : p
  · rw [guard, if_pos holds, pure_eq_some_iff]
    exact ⟨fun same => ⟨holds, same.2⟩, fun same => ⟨rfl, same.2⟩⟩
  · rw [guard, if_neg holds]
    exact ⟨nofun, fun found => absurd found.1 holds⟩

/-- What has been read may not stand for anything. -/
theorem bind_lift_eq_some_iff {g : α → Option β} :
    (r >>= fun a => StateT.lift (g a)) bytes = some (b, rest) ↔
      ∃ a, r bytes = some (a, rest) ∧ g a = some b := by
  rw [bind_eq_some_iff]
  constructor
  · rintro ⟨a, behind, first, lifted⟩
    obtain ⟨b', meant, same⟩ := Option.bind_eq_some_iff.mp lifted
    obtain ⟨rfl, rfl⟩ := Prod.mk.inj (Option.some.inj same)
    exact ⟨a, first, meant⟩
  · rintro ⟨a, first, meant⟩
    exact ⟨a, rest, first, Option.bind_eq_some_iff.mpr ⟨b, meant, rfl⟩⟩

theorem all_eq_some_iff : r.all bytes = some a ↔ r bytes = some (a, []) := by
  rw [all]
  constructor
  · intro found
    split at found
    · next run =>
      obtain rfl := Option.some.inj found
      exact run
    · cases found
  · intro run
    rw [run]

end Reader

theorem readTagged_eq_some_iff {tag : UInt8} {bytes contents rest : Bytes} :
    readTagged tag bytes = some (contents, rest) ↔
      isTag tag ∧ contents.length < maxContents ∧ bytes = encode tag contents ++ rest := by
  simp only [readTagged, Reader.bind_eq_some_iff, Reader.guard_eq_some_iff,
    Reader.pure_eq_some_iff, readElement_eq_some_iff]
  constructor
  · rintro ⟨⟨_, _⟩, _, ⟨known, short, rfl⟩, _, _, ⟨rfl, rfl⟩, rfl, rfl⟩
    exact ⟨known, short, rfl⟩
  · rintro ⟨known, short, rfl⟩
    exact ⟨⟨tag, contents⟩, rest, ⟨known, short, rfl⟩, (), rest, ⟨rfl, rfl⟩, rfl, rfl⟩

theorem Reader.within_eq_some_iff {α : Type} {r : Reader α} {tag : UInt8} {bytes rest : Bytes}
    {a : α} : within tag r bytes = some (a, rest) ↔
      ∃ contents, readTagged tag bytes = some (contents, rest) ∧ r.all contents = some a :=
  bind_lift_eq_some_iff

theorem readNatural_eq_some_iff {bytes rest : Bytes} {n : Nat} :
    readNatural bytes = some (n, rest) ↔
      ∃ contents, readTagged integerTag bytes = some (contents, rest) ∧
        naturalOf? contents = some n :=
  Reader.bind_lift_eq_some_iff

theorem naturalOf?_lt {contents : Bytes} {n : Nat} (spelled : naturalOf? contents = some n) :
    n < 256 ^ contents.length := by
  unfold naturalOf? at spelled
  split at spelled
  · cases spelled
  · split_ifs at spelled
    obtain rfl := Option.some.inj spelled
    exact UInt8.toNat_lt _
  · split_ifs at spelled
    obtain rfl := Option.some.inj spelled
    exact Bytes.toNatural_lt _

/-- A number fits into the octets that are taken for it. -/
theorem readNatural_lt {bytes rest : Bytes} {n : Nat} (found : readNatural bytes = some (n, rest)) :
    ∃ width, n < 256 ^ width ∧ width + rest.length < bytes.length := by
  obtain ⟨contents, tagged, spelled⟩ := readNatural_eq_some_iff.mp found
  obtain ⟨-, -, rfl⟩ := readTagged_eq_some_iff.mp tagged
  refine ⟨contents.length, naturalOf?_lt spelled, ?_⟩
  rw [List.length_append]
  exact Nat.add_lt_add_right (length_lt_encode integerTag contents) _

/-! ## What has been written -/

/-- A reader takes these octets for this value, whatever follows them. -/
def Reads {α : Type} (r : Reader α) (octets : Bytes) (a : α) : Prop :=
  ∀ rest, r (octets ++ rest) = some (a, rest)

namespace Reads

variable {α β : Type} {r : Reader α} {f : α → Reader β} {a : α} {b : β} {octets behind : Bytes}

theorem pure (a : α) : Reads (pure a) [] a := fun _ => rfl

theorem bind (first : Reads r octets a) (second : Reads (f a) behind b) :
    Reads (r >>= f) (octets ++ behind) b := by
  intro rest
  rw [List.append_assoc]
  exact Reader.bind_eq_some_iff.mpr ⟨a, behind ++ rest, first _, second rest⟩

/-- What has been read is taken for what it stands for. -/
theorem lift {g : α → Option β} (reads : Reads r octets a) (meant : g a = some b) :
    Reads (r >>= fun a => StateT.lift (g a)) octets b := fun rest =>
  Reader.bind_lift_eq_some_iff.mpr ⟨a, reads rest, meant⟩

/-- A condition takes nothing. -/
theorem guard {p : Prop} [Decidable p] {f : Unit → Reader β} (holds : p)
    (next : Reads (f ()) octets b) : Reads (guard p >>= f) octets b := fun rest =>
  Reader.bind_eq_some_iff.mpr
    ⟨(), octets ++ rest, Reader.guard_eq_some_iff.mpr ⟨holds, rfl⟩, next rest⟩

theorem all (reads : Reads r octets a) : r.all octets = some a := by
  rw [Reader.all_eq_some_iff, ← List.append_nil octets]
  exact reads []

end Reads

/-- The contents of an element are shorter than the element. -/
theorem short_contents {tag : UInt8} {contents : Bytes}
    (short : (encode tag contents).length < maxContents) : contents.length < maxContents :=
  Nat.lt_trans (length_lt_encode tag contents) short

/-- The parts of an element are shorter than the element. -/
theorem short_parts {parts : List Bytes} (short : (encodeSequence parts).length < maxContents) :
    ∀ part ∈ parts, part.length < maxContents := by
  intro part mem
  have inside := (List.sublist_flatten_of_mem mem).length_le
  exact Nat.lt_of_le_of_lt inside (short_contents short)

theorem reads_element {e : Element} (known : isTag e.tag)
    (short : e.encode.length < maxContents) : Reads readElement e.encode e :=
  fun _ => readElement_eq_some_iff.mpr ⟨known, short_contents short, rfl⟩

theorem reads_tagged {tag : UInt8} {contents : Bytes} (known : isTag tag)
    (short : (encode tag contents).length < maxContents) :
    Reads (readTagged tag) (encode tag contents) contents :=
  fun _ => readTagged_eq_some_iff.mpr ⟨known, short_contents short, rfl⟩

/-- An element with parts is read if its parts are, up to the last one. -/
theorem reads_within {α : Type} {r : Reader α} {parts : List Bytes} {a : α}
    (short : (encodeSequence parts).length < maxContents)
    (reads : r.all parts.flatten = some a) :
    Reads (Reader.within sequenceTag r) (encodeSequence parts) a :=
  (reads_tagged (by decide) short).lift reads

/-! ## Numbers, bits and identifiers -/

theorem length_naturalOctets_le {n width : Nat} (below : n < 256 ^ width) (positive : 0 < width) :
    (naturalOctets n).length ≤ width + 1 := by
  have minimal := Bytes.length_minimal_le below positive
  rw [naturalOctets]
  split_ifs
  · exact Nat.succ_le_succ minimal
  · exact Nat.le_succ_of_le minimal

/-- A number that fits into some octets may have a zero in front of them. -/
theorem length_encodeNatural_le {n width : Nat} (below : n < 256 ^ width) (positive : 0 < width)
    (short : width < 0x7F) : (encodeNatural n).length ≤ width + 3 := by
  have octets := length_naturalOctets_le below positive
  rw [encodeNatural, length_encode integerTag (by omega)]
  omega

/-- The octets of a number spell it.  One octet may be zero, of several the first is not; a large
one gets a zero in front of it. -/
theorem naturalOf?_naturalOctets (n : Nat) : naturalOf? (naturalOctets n) = some n := by
  have spelled := Bytes.toNatural_minimal n
  rw [naturalOctets]
  match octets : Bytes.minimal n with
  | [] =>
    have length := Bytes.length_ofNatural (max 1 (Bytes.widthOf n)) n
    rw [← Bytes.minimal, octets] at length
    exact absurd length (Nat.ne_of_lt (Nat.lt_of_lt_of_le Nat.one_pos (Nat.le_max_left ..)))
  | [b] =>
    rw [octets, Bytes.toNatural_singleton] at spelled
    by_cases large : 0x80 ≤ b
    · have notSmall : ¬ b < 0x80 := UInt8.not_lt.mpr large
      simp [large, naturalOf?, notSmall, Bytes.toNatural_zero_cons, Bytes.toNatural_singleton,
        spelled]
    · have small : b < 0x80 := UInt8.not_le.mp large
      simp [large, naturalOf?, small, spelled]
  | first :: second :: rest =>
    rw [octets] at spelled
    have needed := Bytes.head_minimal_ne_zero octets
    by_cases large : 0x80 ≤ first
    · have notSmall : ¬ first < 0x80 := UInt8.not_lt.mpr large
      simp [large, naturalOf?, notSmall, Bytes.toNatural_zero_cons, spelled]
    · simp [large, naturalOf?, needed, spelled]

theorem reads_natural {n : Nat} (short : (encodeNatural n).length < maxContents) :
    Reads readNatural (encodeNatural n) n :=
  (reads_tagged (by decide) short).lift (naturalOf?_naturalOctets n)

theorem reads_bits {bytes : Bytes} (short : (encodeBits bytes).length < maxContents) :
    Reads readBits (encodeBits bytes) ⟨0, bytes⟩ :=
  (reads_tagged (by decide) short).lift rfl

/-- Identifiers have few octets.  Longer ones have no numbers, so they can not be identifiers. -/
theorem reads_identifier (id : Identifier) : Reads readIdentifier id.encode id := by
  have few : id.contents.length ≤ 39 := by
    by_contra many
    have spells := id.spells
    rw [numbers?_eq_none_of_long (Nat.lt_of_not_le many)] at spells
    cases spells
  have short : id.encode.length < maxContents := by
    have large : 41 < maxContents := by decide
    rw [Identifier.encode, length_encode identifierTag (by omega)]
    omega
  exact (reads_tagged (by decide) short).lift (dif_pos id.spells)

end Der

end RemoteSigner
