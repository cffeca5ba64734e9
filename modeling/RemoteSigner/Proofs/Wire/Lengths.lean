import RemoteSigner.Proofs.Json.Scalars
import RemoteSigner.Proofs.Octets.Base64
import RemoteSigner.Proofs.Wire.Frames

/-!
# How long messages are

Whether a message can be sent is a question of its length.  Around a call or a reply stand the
number of the message, which takes as many octets as it has digits, and members of a fixed length.
Octets in a call or a reply take four letters for every three of them, and none of these is escaped;
in a text every octet may be.

## Main definitions

* `idLength`: how many octets the number of a message takes

## Main results

* `Request.length_encode_current`, `Response.length_encode_ok`, `Response.length_encode_failed`: the
  messages around calls, replies and texts
* `Call.length_sign`, `Call.length_encrypt`, `Call.length_decrypt`: calls with octets
* `Reply.length_carrying`: replies with octets
* `Response.fits_failed`: texts that can be sent
-/

namespace RemoteSigner

open Json

/-! ## Parts of messages -/

theorem Json.Value.compact_natural (n : Nat) :
    (natural n).compact = Bytes.ofText n.repr := by
  rw [natural, compact]
  rfl

/-- Nothing has to be escaped in letters, so only the number of octets counts. -/
theorem Json.length_quoted_encodeText (octets : Bytes) :
    (quoted (Base64.encodeText octets)).length = (octets.length + 2) / 3 * 4 + 2 := by
  have plain : ∀ b ∈ Base64.encode octets, escaped b = [b] :=
    Base64.forall_mem_encode (by decide) (by decide) octets
  have same : (Base64.encode octets).flatMap escaped = Base64.encode octets := by
    rw [List.flatMap_congr plain, List.flatMap_singleton']
  rw [quoted, Base64.ofText_encodeText, same]
  simp only [List.length_cons, List.length_append, List.length_nil, Base64.length_encode]

/-- Two members have two braces, two colons and a comma around them. -/
theorem Json.Value.length_compact_pair (name name' : String) (value value' : Value) :
    (object [(name, value), (name', value')]).compact.length = (quoted name).length +
      value.compact.length + (quoted name').length + value'.compact.length + 5 := by
  simp only [compact, compactMembers, List.length_cons, List.length_append, List.length_nil,
    if_true, Bool.false_eq_true, if_false]
  omega

theorem Message.length_bytesValue (octets : Bytes) :
    (bytesValue octets).compact.length = (octets.length + 2) / 3 * 4 + 2 := by
  rw [bytesValue, Value.compact, length_quoted_encodeText]

/-! ## Around calls, replies and texts -/

/-- How many octets the number of a message takes. -/
def idLength (id : UInt64) : Nat := (Bytes.ofText id.toNat.repr).length

theorem idLength_le (id : UInt64) : idLength id ≤ 20 :=
  Decoder.length_repr_le (Nat.lt_trans id.toNat_lt (by decide))

theorem Request.length_encode_current (id : UInt64) (call : Call) :
    (Message.encode (current id call)).length =
      idLength id + (Message.toValue call).compact.length + 27 := by
  have version : (Bytes.ofText protocolVersion.toNat.repr).length = 1 := by decide
  have keys : (quoted "id").length = 4 ∧ (quoted "version").length = 9 ∧
    (quoted "call").length = 6 := by decide
  rw [Message.encode]
  simp only [Message.toValue, current, Value.compact, Value.compactMembers, Value.compact_natural,
    List.length_cons, List.length_append, List.length_nil, keys, version, if_true,
    Bool.false_eq_true, if_false, idLength]
  omega

namespace Response

theorem length_encode_ok (id : UInt64) (reply : Reply) : (Message.encode (ok id reply)).length =
    idLength id + (Message.toValue reply).compact.length + 17 := by
  have keys : (quoted "id").length = 4 ∧ (quoted "result").length = 8 := by decide
  change (Value.object [_, _]).compact.length = _
  rw [Value.length_compact_pair, Value.compact_natural]
  simp only [keys, idLength, ok]
  omega

theorem length_encode_failed (id : UInt64) (message : String) :
    (Message.encode (failed id message)).length =
      idLength id + (quoted message).length + 16 := by
  have keys : (quoted "id").length = 4 ∧ (quoted "error").length = 7 := by decide
  change (Value.object [_, _]).compact.length = _
  rw [Value.length_compact_pair, Value.compact_natural, Value.compact]
  simp only [keys, idLength, failed]
  omega

/-- An error can be sent if its text fits even where every octet of it is escaped. -/
theorem fits_failed (id : UInt64) {message : String}
    (short : 6 * (Bytes.ofText message).length + 64 ≤ Wire.Frame.maxLength) :
    Wire.Frame.Fits (failed id message) := by
  have number := idLength_le id
  have text := Decoder.length_quoted_le message
  rw [Wire.Frame.Fits, length_encode_failed]
  omega

end Response

/-! ## Calls -/

theorem CipherArgs.length_toValue (name : String) (args : CipherArgs) :
    (args.toValue name).compact.length = (args.data.length + 2) / 3 * 4 +
      (quoted name).length + (quoted args.hash.keyword).length + 13 := by
  have key : (quoted "hash").length = 6 := by decide
  have hash : (Message.toValue args.hash).compact = quoted args.hash.keyword := by
    simp only [Message.toValue, Value.compact]
  rw [toValue, Value.length_compact_pair, Message.length_bytesValue, hash]
  omega

namespace Call

/-- The members of a call to sign that may be left out. -/
def signMembers (args : SignArgs) : List (String × Value) :=
  Message.optional "hash" (args.hash.map Message.toValue) ++
    Message.optional "opts" (args.opts.map Message.toValue)

theorem length_sign (args : SignArgs) : (Message.toValue (sign args)).compact.length =
    (args.digest.length + 2) / 3 * 4 + (Value.compactMembers false (signMembers args)).length +
      40 := by
  have keys : (quoted "method").length = 8 ∧ (quoted "sign").length = 6 ∧
    (quoted "params").length = 8 ∧ (quoted "digest").length = 8 := by decide
  change (Value.object [_, _]).compact.length = _
  rw [Value.length_compact_pair]
  simp only [Message.toValue, Value.compact, Value.compactMembers, List.length_cons,
    List.length_append, List.length_nil, Message.length_bytesValue, keys, if_true, signMembers]
  omega

theorem length_encrypt (args : EncryptArgs) : (Message.toValue (encrypt args)).compact.length =
    (args.data.length + 2) / 3 * 4 + (quoted args.hash.keyword).length + 54 := by
  have keys : (quoted "method").length = 8 ∧ (quoted "encrypt").length = 9 ∧
    (quoted "params").length = 8 ∧ (quoted "plaintext").length = 11 := by decide
  change (Value.object [_, ("params", args.toCipherArgs.toValue "plaintext")]).compact.length = _
  rw [Value.length_compact_pair, CipherArgs.length_toValue, Value.compact]
  omega

theorem length_decrypt (args : DecryptArgs) : (Message.toValue (decrypt args)).compact.length =
    (args.data.length + 2) / 3 * 4 + (quoted args.hash.keyword).length + 55 := by
  have keys : (quoted "method").length = 8 ∧ (quoted "decrypt").length = 9 ∧
    (quoted "params").length = 8 ∧ (quoted "ciphertext").length = 12 := by decide
  change (Value.object [_, ("params", args.toCipherArgs.toValue "ciphertext")]).compact.length = _
  rw [Value.length_compact_pair, CipherArgs.length_toValue, Value.compact]
  omega

end Call

/-! ## Replies -/

/-- A reply of this name with octets. -/
theorem Reply.length_carrying (name : String) (octets : Bytes) :
    (Value.object [("type", .text name), ("value", Message.bytesValue octets)]).compact.length =
      (octets.length + 2) / 3 * 4 + (quoted name).length + 20 := by
  have keys : (quoted "type").length = 6 ∧ (quoted "value").length = 7 := by decide
  rw [Value.length_compact_pair, Message.length_bytesValue, Value.compact]
  omega

/-- Whether a signature can be sent depends on its length alone. -/
theorem Response.fits_signature {id : UInt64} {octets octets' : Bytes}
    (same : octets'.length = octets.length)
    (fits : Wire.Frame.Fits (ok id (.signature octets))) :
    Wire.Frame.Fits (ok id (.signature octets')) := by
  have length (octets : Bytes) : (Message.toValue (Reply.signature octets)).compact.length = _ :=
    Reply.length_carrying "signature" octets
  rw [Wire.Frame.Fits, length_encode_ok, length] at fits ⊢
  rwa [same]

end RemoteSigner
