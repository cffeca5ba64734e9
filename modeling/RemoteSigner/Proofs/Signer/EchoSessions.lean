import RemoteSigner.Proofs.Signer.Echo
import RemoteSigner.Proofs.Wire.Lengths

/-!
# Sessions with an echo signer

An echo signer gives back what it is sent, and the response has a shorter frame around the octets
than the request: whatever could be sent to it, it can send back.  So its sessions are never cut
short by a response of its own, at any length.  What is too long for a request is refused by the
client, and the calls after it do not notice.

## Main definitions

* `Echoed`: the calls that carry octets of their own
* `Linked`: a client and an echo signer with the streams between them
* `Introduces`: what an echo signer says of itself can be sent
* `Echoes`: what the calls of a client give

## Main results

* `fits_handle`: the response to a call can be sent if the request could
* `Linked.serve_eq_ok`: no response ends a session
* `echoes`: all of these, call after call
-/

namespace RemoteSigner.EchoSigner

open Signer Wire

variable (signer : EchoSigner) {id : UInt64}

/-! ## Responses -/

theorem length_invert (octets : Bytes) : (invert octets).length = octets.length :=
  List.length_map _

/-- Turning over every bit twice changes nothing. -/
theorem invert_invert (octets : Bytes) : invert (invert octets) = octets := by
  rw [invert, invert, List.map_map]
  apply List.map_id''
  exact fun _ => UInt8.not_not

/-- The length of the digest is the one that the options ask for, if there are any. -/
def Sized (args : SignArgs) : Prop :=
  ∀ opts, args.effectiveOpts = some opts → args.digest.length = opts.algorithm.size

theorem handle_sign_of_sized {args : SignArgs} (sized : Sized args) :
    signer.handle (.current id (.sign args)) = .ok id (.signature args.digest) := by
  rw [handle_current, Provider.respond, Provider.direct]
  cases opts : args.effectiveOpts with
  | none => rfl
  | some effective =>
    simp only [sized effective opts, if_true]
    rfl

theorem handle_sign_of_ne {args : SignArgs} {opts : SignerOpts}
    (effective : args.effectiveOpts = some opts)
    (len : args.digest.length ≠ opts.algorithm.size) :
    signer.handle (.current id (.sign args)) =
      .failed id (Error.message (.digestLength args.digest.length opts.algorithm.size)) := by
  rw [handle_current, Provider.respond, Provider.direct]
  simp only [effective, len, if_false]

theorem handle_encrypt (args : EncryptArgs) :
    signer.handle (.current id (.encrypt args)) = .ok id (.ciphertext (invert args.data)) :=
  signer.handle_current id (.encrypt args)

theorem handle_decrypt (args : DecryptArgs) :
    signer.handle (.current id (.decrypt args)) = .ok id (.plaintext (invert args.data)) :=
  signer.handle_current id (.decrypt args)

/-! ## Lengths -/

/-- The calls that carry octets of their own. -/
def Echoed : Call → Prop
  | .certificateChain | .publicKey => False
  | .sign _ | .encrypt _ | .decrypt _ => True

/-- There are ten octets more around a call than around a reply. -/
theorem fits_ok_of_length_le {call : Call} {reply : Reply} {length : Nat}
    (carried : (Message.toValue reply).compact.length = length)
    (shorter : length ≤ (Message.toValue call).compact.length + 10)
    (fits : Frame.Fits (Request.current id call)) : Frame.Fits (Response.ok id reply) := by
  rw [Frame.Fits, Request.length_encode_current] at fits
  rw [Frame.Fits, Response.length_encode_ok, carried]
  omega

/-- The digest in a request is too short for more than eight digits to be written for its length. -/
theorem fits_failed_digestLength {args : SignArgs} (hash : HashAlgorithm)
    (fits : Frame.Fits (Request.current id (.sign args))) : Frame.Fits (Response.failed id
      (Signer.Error.digestLength args.digest.length hash.size).message) := by
  have small : args.digest.length < 10 ^ 8 := by
    rw [Frame.Fits, Request.length_encode_current, Call.length_sign, Frame.maxLength] at fits
    omega
  have size : hash.size < 10 ^ 2 := by cases hash <;> decide
  have digits := Json.Decoder.length_repr_le small
  have digits' := Json.Decoder.length_repr_le size
  have texts : (Bytes.ofText "Digest length of ").length = 17 ∧
    (Bytes.ofText " bytes does not match Hash function size of ").length = 44 ∧
    (Bytes.ofText " bytes").length = 6 := by decide
  have parts (a b c d e : String) : (Bytes.ofText (a ++ b ++ c ++ d ++ e)).length =
      (Bytes.ofText a).length + (Bytes.ofText b).length + (Bytes.ofText c).length +
        (Bytes.ofText d).length + (Bytes.ofText e).length := by
    simp only [Bytes.ofText_append, List.length_append]
  have short : (Bytes.ofText
      (Signer.Error.digestLength args.digest.length hash.size).message).length ≤ 77 := by
    refine Nat.le_trans (Nat.le_of_eq (parts _ _ _ _ _)) ?_
    omega
  exact Response.fits_failed id
    (Nat.le_trans (Nat.add_le_add_right (Nat.mul_le_mul_left 6 short) 64) (by decide))

/-- **An echo signer can send back whatever could be sent to it.**  There are as many letters in
both directions, and the members around them are shorter in a reply; an error has no letters. -/
theorem fits_handle {call : Call} (echoed : Echoed call)
    (fits : Frame.Fits (Request.current id call)) :
    Frame.Fits (signer.handle (.current id call)) := by
  have names : (Json.quoted "signature").length = 11 ∧ (Json.quoted "ciphertext").length = 12 ∧
    (Json.quoted "plaintext").length = 11 := by decide
  cases call with
  | certificateChain | publicKey => exact echoed.elim
  | sign args =>
    by_cases sized : Sized args
    · rw [signer.handle_sign_of_sized sized]
      refine fits_ok_of_length_le (Reply.length_carrying "signature" args.digest) ?_ fits
      rw [Call.length_sign]
      omega
    · obtain ⟨opts, effective, len⟩ : ∃ opts, args.effectiveOpts = some opts ∧
          args.digest.length ≠ opts.algorithm.size := by
        simpa only [Sized, not_forall, exists_prop] using sized
      rw [signer.handle_sign_of_ne effective len]
      exact fits_failed_digestLength opts.algorithm fits
  | encrypt args =>
    rw [signer.handle_encrypt]
    refine fits_ok_of_length_le (Reply.length_carrying "ciphertext" (invert args.data)) ?_ fits
    rw [Call.length_encrypt, length_invert]
    omega
  | decrypt args =>
    rw [signer.handle_decrypt]
    refine fits_ok_of_length_le (Reply.length_carrying "plaintext" (invert args.data)) ?_ fits
    rw [Call.length_decrypt, length_invert]
    omega

/-! ## Client and echo signer -/

/-- A client that makes some calls, and an echo signer that is linked to it: each of them is handed
what the other one writes, however the streams are cut and interrupted, and its sink is patient. -/
structure Linked (calls : List Call) (client : Connection) (service : Transport) : Prop where
  clientSink : client.transport.sink.Patient
  serviceSink : service.sink.Patient
  requests : ∃ octets, service.source.Delivers octets ∧
    (client.run calls).transport.sink.written = client.transport.sink.written ++ octets
  responses : ∃ octets, client.transport.source.Delivers octets ∧
    (signer.serve service).2.sink.written = service.sink.written ++ octets

/-- What the signer says of itself can be sent where a client asks for it. -/
def Introduces (id : UInt64) (calls : List Call) : Prop :=
  ∀ k call, calls[k]? = some call → ¬ Echoed call →
    Frame.Fits (signer.handle (.current (id + UInt64.ofNat k) call))

variable {calls : List Call} {client : Connection} {service : Transport}

/-- An echo signer is linked to a client exactly if the service with its provider is. -/
theorem linked_iff_provider :
    signer.Linked calls client service ↔ Wire.Linked signer.provider calls client service := by
  have same : (Id.run (signer.provider.serve service)).2 = (signer.serve service).2 :=
    congrArg Prod.snd (signer.serve_provider service)
  constructor
  · rintro ⟨clientSink, serviceSink, requests, responses⟩
    rw [← same] at responses
    exact ⟨clientSink, serviceSink, requests, responses⟩
  · rintro ⟨clientSink, serviceSink, requests, responses⟩
    rw [same] at responses
    exact ⟨clientSink, serviceSink, requests, responses⟩

variable {signer}

/-- Every response of a session can be sent. -/
theorem Introduces.fits (introduces : signer.Introduces id calls) {k : Nat} {call : Call}
    (h : calls[k]? = some call) (fits : Frame.Fits (Request.current (id + UInt64.ofNat k) call)) :
    Frame.Fits (signer.handle (.current (id + UInt64.ofNat k) call)) := by
  by_cases echoed : Echoed call
  · exact signer.fits_handle echoed fits
  · exact introduces k call h echoed

theorem Introduces.answerable (introduces : signer.Introduces id calls) (n : Nat) :
    Answerable signer.provider id calls n := by
  intro j _ call h fits
  rw [← handle_current]
  exact introduces.fits h fits

/-- **No response ends a session**: the signer is done where the requests of the client end. -/
theorem Linked.serve_eq_ok (linked : signer.Linked calls client service)
    (introduces : signer.Introduces client.nextId calls) :
    (signer.serve service).1 = .ok () := by
  have served := ((signer.linked_iff_provider).mp linked).serve_eq_ok introduces.answerable
  rw [serve_provider] at served
  exact mapError_eq_ok_iff.mp served

/-! ## Calls -/

/-- What the calls of a client give, if an echo signer is at the other end. -/
structure Echoes (signer : EchoSigner) (calls : List Call) (client : Connection) : Prop where
  /-- A request that can not be sent is refused by the client, and leaves no trace but its
  number. -/
  refused : ∀ k call, calls[k]? = some call →
    ¬ Frame.Fits (Request.current (client.nextId + UInt64.ofNat k) call) →
      (client.run (calls.take k)).invoke call = (.error (.frameTooLarge
        (Message.encode (Request.current (client.nextId + UInt64.ofNat k) call)).length
          Frame.maxLength),
        ⟨(client.run (calls.take k)).transport, (client.run (calls.take k)).nextId + 1⟩)
  /-- Any other call gives what the echo signer answers. -/
  answered : ∀ k call, calls[k]? = some call →
    Frame.Fits (Request.current (client.nextId + UInt64.ofNat k) call) →
      ((client.run (calls.take k)).invoke call).1 =
        (signer.handle (.current (client.nextId + UInt64.ofNat k) call)).outcome
  /-- A digest is given back where no options ask for another length. -/
  signed : ∀ k args, calls[k]? = some (.sign args) → Sized args →
    Frame.Fits (Request.current (client.nextId + UInt64.ofNat k) (.sign args)) →
      ((client.run (calls.take k)).sign args).1 = .ok args.digest
  encrypted : ∀ k args, calls[k]? = some (.encrypt args) →
    Frame.Fits (Request.current (client.nextId + UInt64.ofNat k) (.encrypt args)) →
      ((client.run (calls.take k)).encrypt args).1 = .ok (invert args.data)
  /-- What another call has encrypted is decrypted to what it was. -/
  decrypted : ∀ j k plain cipher, calls[j]? = some (.encrypt plain) →
    calls[k]? = some (.decrypt cipher) →
    Frame.Fits (Request.current (client.nextId + UInt64.ofNat j) (.encrypt plain)) →
    Frame.Fits (Request.current (client.nextId + UInt64.ofNat k) (.decrypt cipher)) →
      ((client.run (calls.take j)).encrypt plain).1 = .ok cipher.data →
        ((client.run (calls.take k)).decrypt cipher).1 = .ok plain.data

/-- Every call of a linked client that can be sent gives what the echo signer answers. -/
theorem Linked.invoke_eq_outcome (linked : signer.Linked calls client service)
    (introduces : signer.Introduces client.nextId calls) {k : Nat} {call : Call}
    (h : calls[k]? = some call)
    (fits : Frame.Fits (Request.current (client.nextId + UInt64.ofNat k) call)) :
    ((client.run (calls.take k)).invoke call).1 =
      (signer.handle (.current (client.nextId + UInt64.ofNat k) call)).outcome := by
  have gives := ((signer.linked_iff_provider).mp linked).gives h
  rw [gives.answered fits (introduces.answerable (k + 1)), handle_current,
    Provider.outcome_respond]

theorem Linked.echoes (linked : signer.Linked calls client service)
    (introduces : signer.Introduces client.nextId calls) : signer.Echoes calls client := by
  have encrypted : ∀ k args, calls[k]? = some (.encrypt args) →
      Frame.Fits (Request.current (client.nextId + UInt64.ofNat k) (.encrypt args)) →
        ((client.run (calls.take k)).encrypt args).1 = .ok (invert args.data) := by
    intro k args h fits
    have given := linked.invoke_eq_outcome introduces h fits
    rw [handle_encrypt] at given
    exact Connection.encrypt_eq_ok_iff.mpr given
  constructor
  · intro k call h large
    exact (((signer.linked_iff_provider).mp linked).gives h).refused large
  · intro k call h fits
    exact linked.invoke_eq_outcome introduces h fits
  · intro k args h sized fits
    have given := linked.invoke_eq_outcome introduces h fits
    rw [signer.handle_sign_of_sized sized] at given
    exact Connection.sign_eq_ok_iff.mpr given
  · exact encrypted
  · intro j k plain cipher hj hk fits fits' sent
    have inverted := Except.ok.inj ((encrypted j plain hj fits).symm.trans sent)
    have given := linked.invoke_eq_outcome introduces hk fits'
    rw [handle_decrypt, ← inverted, invert_invert] at given
    exact Connection.decrypt_eq_ok_iff.mpr given

/-- **Sessions with an echo signer, up to the longest frames**: it can send back whatever could be
sent to it, so none of its responses ends a session, and every call of a client that can be sent
gives what it should.  What can not be sent is refused by the client, and the other calls do not
notice. -/
theorem echoes_up_to_maxLength (signer : EchoSigner) :
    (∀ id call, Echoed call → Frame.Fits (Request.current id call) →
      Frame.Fits (signer.handle (.current id call))) ∧
    ∀ calls client service, signer.Linked calls client service →
      signer.Introduces client.nextId calls →
        (signer.serve service).1 = .ok () ∧ signer.Echoes calls client := by
  constructor
  · intro id call echoed fits
    exact signer.fits_handle echoed fits
  · intro calls client service linked introduces
    exact ⟨linked.serve_eq_ok introduces, linked.echoes introduces⟩

/-- A digest that fills a frame to the last octet, one that is longer by an octet, and a decrypted
octet behind both of them.  The first digest makes 4194287 groups of four letters, and 68 octets
stand around them. -/
theorem echoes_up_to_maxLength_filled :
    let signer : EchoSigner := ⟨[1], [2]⟩
    let digest : Bytes := List.replicate 12582861 0
    let calls : List Call := [.publicKey, .sign (.ofOpts digest none),
      .sign (.ofOpts (0 :: digest) none), .encrypt ⟨⟨[0x07], .sha256⟩⟩,
      .decrypt ⟨⟨[0xF8], .sha1⟩⟩]
    ∃ client service, client.nextId = 0 ∧ signer.Linked calls client service ∧
      signer.Introduces 0 calls ∧ (signer.serve service).1 = .ok () ∧
      (Message.encode (Request.current 1 (.sign (.ofOpts digest none)))).length =
        Frame.maxLength ∧
      ((client.run (calls.take 1)).sign (.ofOpts digest none)).1 = .ok digest ∧
      ((client.run (calls.take 2)).invoke (.sign (.ofOpts (0 :: digest) none))).1 =
        .error (.frameTooLarge (Frame.maxLength + 4) Frame.maxLength) ∧
      ((client.run (calls.take 4)).decrypt ⟨⟨[0xF8], .sha1⟩⟩).1 = .ok [0x07] := by
  intro signer digest calls
  have length : digest.length = 12582861 := List.length_replicate
  clear_value digest
  have requestLength {id : UInt64} (one : idLength id = 1) (digest : Bytes) :
      (Message.encode (Request.current id (.sign (.ofOpts digest none)))).length =
        (digest.length + 2) / 3 * 4 + 68 := by
    rw [Request.length_encode_current, Call.length_sign, one]
    change 1 + ((digest.length + 2) / 3 * 4 + 0 + 40) + 27 = _
    omega
  have filled : (Message.encode (Request.current 1 (.sign (.ofOpts digest none)))).length =
      Frame.maxLength := by
    rw [requestLength (by decide), length]
    rfl
  have longer : (Message.encode (Request.current 2 (.sign (.ofOpts (0 :: digest) none)))).length =
      Frame.maxLength + 4 := by
    rw [requestLength (by decide), List.length_cons, length]
    rfl
  have introduces : signer.Introduces 0 calls := by
    intro k call h other
    match k with
    | 0 =>
      obtain rfl := Option.some.inj h
      decide +kernel
    | 1 | 2 | 3 | 4 =>
      obtain rfl := Option.some.inj h
      exact absurd trivial other
    | _ + 5 => cases h
  obtain ⟨client, service, number, provided⟩ := exists_linked signer.provider calls 0
  have linked := (signer.linked_iff_provider).mpr provided
  obtain ⟨-, session⟩ := echoes_up_to_maxLength signer
  obtain ⟨served, echoes⟩ := session calls client service linked (by rwa [number])
  have signed := echoes.signed 1 (.ofOpts digest none) rfl nofun
  have refused := echoes.refused 2 (.sign (.ofOpts (0 :: digest) none)) rfl
  have encrypted := echoes.encrypted 3 ⟨⟨[0x07], .sha256⟩⟩ rfl
  have decrypted := echoes.decrypted 3 4 ⟨⟨[0x07], .sha256⟩⟩ ⟨⟨[0xF8], .sha1⟩⟩ rfl rfl
  rw [number] at signed refused encrypted decrypted
  have fits : Frame.Fits (Request.current 3 (.encrypt ⟨⟨[0x07], .sha256⟩⟩)) := by decide +kernel
  have fits' : Frame.Fits (Request.current 4 (.decrypt ⟨⟨[0xF8], .sha1⟩⟩)) := by decide +kernel
  refine ⟨client, service, number, linked, introduces, served, filled, ?_, ?_, ?_⟩
  · exact signed (Nat.le_of_eq filled)
  · have large : ¬ Frame.Fits (Request.current 2 (.sign (.ofOpts (0 :: digest) none))) := by
      rw [Frame.Fits, longer]
      omega
    rw [← longer]
    exact congrArg Prod.fst (refused large)
  · exact decrypted fits fits' (encrypted fits)

end RemoteSigner.EchoSigner
