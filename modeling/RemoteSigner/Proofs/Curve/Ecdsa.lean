import Mathlib.Tactic.SplitIfs
import RemoteSigner.Curve.Ecdsa
import RemoteSigner.Proofs.Der.Elements

/-!
# How long signatures on a curve are

Both numbers of a signature are below the order of the curve, so each of them needs at most one
octet more than a coordinate has, and its element two more.

## Main results

* `sign?_lt_order`: the numbers of a signature
* `Signature.length_encode_le`: its octets
-/

namespace RemoteSigner

namespace Curve

theorem order_lt (c : Curve) : c.order < 256 ^ c.size := by
  cases c <;> decide

theorem order_pos (c : Curve) : 0 < c.order := by
  cases c <;> decide

/-- The numbers of a signature are remainders. -/
theorem sign?_lt_order {c : Curve} {secret : Nat} {digest : Bytes} {signature : Signature}
    (signed : c.sign? secret digest = some signature) :
    signature.r < c.order ∧ signature.s < c.order := by
  rw [sign?] at signed
  obtain ⟨-, -, drawn⟩ := Option.bind_eq_some_iff.mp signed
  obtain ⟨blinding, -, made⟩ := Option.bind_eq_some_iff.mp drawn
  rw [signWith?] at made
  obtain ⟨point, -, inverted⟩ := Option.bind_eq_some_iff.mp made
  obtain ⟨inverse, -, found⟩ := Option.bind_eq_some_iff.mp inverted
  dsimp only at found
  split_ifs at found
  obtain rfl := Option.some.inj found
  exact ⟨Nat.mod_lt _ c.order_pos, Nat.mod_lt _ c.order_pos⟩

/-- The octets of a signature are those of its two numbers and two more.  The length of the whole
takes one octet, as the lengths of the numbers do. -/
theorem Signature.length_encode_le {c : Curve} {signature : Signature}
    (r : signature.r < c.order) (s : signature.s < c.order) :
    signature.encode.length ≤ 2 * c.size + 8 := by
  have size : 0 < c.size ∧ 2 * c.size + 6 < 0x80 := by cases c <;> decide
  have first := Der.length_encodeNatural_le (Nat.lt_trans r c.order_lt) size.1 (by omega)
  have second := Der.length_encodeNatural_le (Nat.lt_trans s c.order_lt) size.1 (by omega)
  have both : [Der.encodeNatural signature.r, Der.encodeNatural signature.s].flatten.length =
      (Der.encodeNatural signature.r).length + (Der.encodeNatural signature.s).length := by
    simp only [List.flatten_cons, List.flatten_nil, List.append_nil, List.length_append]
  rw [encode, Der.encodeSequence, Der.length_encode Der.sequenceTag (by omega)]
  omega

end Curve

end RemoteSigner
