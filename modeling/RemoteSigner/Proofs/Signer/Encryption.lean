import Mathlib.NumberTheory.LucasLehmer
import RemoteSigner.Proofs.Rsa.Oaep
import RemoteSigner.Proofs.Signer.Requests
import RemoteSigner.Proofs.Signer.Signatures

/-!
# A service encrypts and decrypts

What a service has encrypted with an RSA key, it decrypts to what it was, whatever octets were drawn
to encrypt it.  There is a ciphertext exactly if the message fits into the modulus next to what the
padding needs.  Keys on curves do neither; the service says so and goes on.

## Main results

* `SoftwareKey.encrypt_decrypt`: what comes of both calls
-/

namespace RemoteSigner

open Wire

namespace Signer

variable {m : Type → Type} [Monad m] [LawfulMonad m]

namespace SoftwareKey

variable (draw : Nat → m Bytes) {software : SoftwareKey}

/-! ## RSA keys -/

theorem handle_encrypt_rsa {key : Rsa.PrivateKey} (holds : software.key = .rsa key) (id : UInt64)
    (message : Bytes) (hash : HashAlgorithm) :
    (software.provider draw).handle (.current id (.encrypt ⟨⟨message, hash⟩⟩)) =
      (fun seed => Response.telling id (((Rsa.Oaep.encrypt key.toPublicKey hash seed message).mapError
        Error.rsa).map Reply.ciphertext)) <$> drawn draw hash.size := by
  rw [Provider.handle_current, Provider.perform, provider]
  simp only [holds, bind_assoc, pure_bind, map_eq_pure_bind]

theorem handle_decrypt_rsa {key : Rsa.PrivateKey} (holds : software.key = .rsa key) (id : UInt64)
    (ciphertext : Bytes) (hash : HashAlgorithm) :
    (software.provider draw).handle (.current id (.decrypt ⟨⟨ciphertext, hash⟩⟩)) =
      pure (Response.telling id (((Rsa.Oaep.decrypt key hash ciphertext).mapError
        Error.rsa).map Reply.plaintext)) := by
  rw [Provider.handle_current, Provider.perform, provider]
  simp only [holds, pure_bind, map_pure]

/-- A message that fits is encrypted and can be decrypted again, and any other is refused.  Of what
is drawn, only the length counts. -/
theorem encrypt_decrypt_rsa {key : Rsa.PrivateKey} (holds : software.key = .rsa key)
    (valid : key.isValid = true) (inverts : key.Inverts) (id : UInt64) (message : Bytes)
    (hash : HashAlgorithm) :
    Yields (fun response =>
        (2 * hash.size + 2 ≤ key.size ∧ message.length ≤ key.size - 2 * hash.size - 2 →
          ∃ ciphertext, response = .ok id (.ciphertext ciphertext) ∧
            ∀ id', (software.provider draw).handle (.current id' (.decrypt ⟨⟨ciphertext, hash⟩⟩)) =
              pure (.ok id' (.plaintext message))) ∧
        (¬ (2 * hash.size + 2 ≤ key.size ∧ message.length ≤ key.size - 2 * hash.size - 2) →
          response = .failed id "RSA error: message too long"))
      ((software.provider draw).handle (.current id (.encrypt ⟨⟨message, hash⟩⟩))) := by
  have positive := Rsa.PublicKey.modulus_pos_of_isValid valid
  rw [handle_encrypt_rsa draw holds]
  apply (drawn_yields draw hash.size).map
  intro seed drawn
  rcases Rsa.Oaep.encrypt_eq key.toPublicKey message drawn with
    ⟨fits, ciphertext, encrypted⟩ | ⟨long, refused⟩
  · rw [Rsa.Oaep.overhead] at fits
    rw [encrypted]
    refine ⟨fun _ => ⟨ciphertext, rfl, ?_⟩, fun unfit => absurd ⟨by omega, by omega⟩ unfit⟩
    intro id'
    rw [handle_decrypt_rsa draw holds, Rsa.Oaep.decrypt_encrypt positive inverts drawn encrypted]
    rfl
  · rw [Rsa.Oaep.overhead] at long
    rw [refused]
    exact ⟨fun fits => absurd fits (by omega), fun _ => rfl⟩

/-! ## Keys on curves -/

/-- What a key on a curve answers to a call that it can not do. -/
def refusal (id : UInt64) (operation : Operation) : Response :=
  .failed id (Error.unsupportedOperation operation).message

/-- Keys on curves do not encrypt or decrypt. -/
theorem handle_ecdsa {curve : Curve} {secret : Nat} {point : curve.Point}
    (holds : software.key = .ecdsa curve secret point) (id : UInt64) (args : CipherArgs) :
    (software.provider draw).handle (.current id (.encrypt ⟨args⟩)) = pure (refusal id .encrypt) ∧
      (software.provider draw).handle (.current id (.decrypt ⟨args⟩)) =
        pure (refusal id .decrypt) := by
  constructor
  · rw [Provider.handle_current, Provider.perform, provider]
    simp only [holds, unsupported, pure_bind, map_pure]
    rfl
  · rw [Provider.handle_current, Provider.perform, provider]
    simp only [holds, unsupported, pure_bind, map_pure]
    rfl

theorem fits_refusal (id : UInt64) (operation : Operation) : Frame.Fits (refusal id operation) := by
  apply Response.fits_failed
  cases operation <;> decide +kernel

/-! ## Both -/

/-- **What comes of asking for encryption and decryption.**  With an RSA key, whose private
operation undoes the public one, every ciphertext is decrypted to the message, and there is one
exactly if the message fits.  With a key on a curve both calls fail, and the service answers what
comes behind them. -/
theorem encrypt_decrypt (software : SoftwareKey) (id : UInt64) (message : Bytes)
    (hash : HashAlgorithm) :
    (∀ key, software.key = .rsa key → key.isValid = true → key.Inverts →
      Yields (fun response =>
          (2 * hash.size + 2 ≤ key.size ∧ message.length ≤ key.size - 2 * hash.size - 2 →
            ∃ ciphertext, response = .ok id (.ciphertext ciphertext) ∧
              ∀ id',
                (software.provider draw).handle (.current id' (.decrypt ⟨⟨ciphertext, hash⟩⟩)) =
                  pure (.ok id' (.plaintext message))) ∧
          (¬ (2 * hash.size + 2 ≤ key.size ∧ message.length ≤ key.size - 2 * hash.size - 2) →
            response = .failed id "RSA error: message too long"))
        ((software.provider draw).handle (.current id (.encrypt ⟨⟨message, hash⟩⟩)))) ∧
    (∀ curve secret point, software.key = .ecdsa curve secret point →
      ∀ call text, (call, text) ∈ [
          (Call.encrypt ⟨⟨message, hash⟩⟩, "The key does not support Encrypt"),
          (Call.decrypt ⟨⟨message, hash⟩⟩, "The key does not support Decrypt")] →
        (software.provider draw).handle (.current id call) = pure (.failed id text) ∧
        ∀ (t : Transport) (body rest : Bytes), t.source.Delivers (Frame.encode body ++ rest) →
          body.length ≤ Frame.maxLength →
          Message.decode Request .memory body = .ok (.current id call) → t.sink.Patient →
            ∃ (left : Source) (sink : Sink), left.Delivers rest ∧
              t.sink.Took (Frame.ofMessage (Response.failed id text)) 1 sink ∧
              (software.provider draw).serve t = (software.provider draw).serve ⟨left, sink⟩) := by
  refine ⟨fun key holds valid inverts =>
    encrypt_decrypt_rsa draw holds valid inverts id message hash, ?_⟩
  intro curve secret point holds call text listed
  have ⟨handled, fits⟩ : (software.provider draw).handle (.current id call) =
      pure (.failed id text) ∧ Frame.Fits (Response.failed id text) := by
    have ⟨encrypting, decrypting⟩ := handle_ecdsa draw holds id ⟨message, hash⟩
    simp only [List.mem_cons, Prod.mk.injEq, List.not_mem_nil, or_false] at listed
    rcases listed with ⟨rfl, rfl⟩ | ⟨rfl, rfl⟩
    · exact ⟨encrypting, fits_refusal id .encrypt⟩
    · exact ⟨decrypting, fits_refusal id .decrypt⟩
  refine ⟨handled, ?_⟩
  intro t body rest delivers small decodes patient
  obtain ⟨left, behind, read⟩ := Frame.read_message delivers small decodes
  obtain ⟨sink, took, run⟩ := Provider.serve_of_handle_patient _ read handled fits patient
  exact ⟨left, sink, behind, took, run⟩

/-- A key of 648 bits that is made of two Mersenne primes. -/
def mersenneKey : Rsa.PrivateKey where
  modulus := mersenne 127 * mersenne 521
  exponent := 13
  privateExponent := (9 * ((mersenne 127 - 1) * (mersenne 521 - 1)) + 1) / 13
  p := mersenne 127
  q := mersenne 521

theorem mersenneKey_madeOfPrimes : mersenneKey.MadeOfPrimes where
  consistent := by decide +kernel
  p := lucas_lehmer_sufficiency 127 (by decide) (by norm_num)
  q := lucas_lehmer_sufficiency 521 (by decide) (by norm_num)
  apart := by decide +kernel

/-- A message that begins like the padding, under a hash that leaves 15 octets for messages; a hash
that leaves none; and a session with a key on a curve. -/
theorem encrypt_decrypt_padding :
    let draw : Nat → Id Bytes := fun _ => []
    let onRsa := (SoftwareKey.mk [] (.rsa mersenneKey)).provider draw
    let onCurve := (SoftwareKey.mk [] (.ecdsa .p256 1 Curve.p256.generator)).provider draw
    let request := Request.current 3 (.decrypt ⟨⟨[], .sha1⟩⟩)
    let t : Transport := { source := { chunks := [.octets (Frame.ofMessage request)] } }
    (∃ ciphertext,
      (onRsa.handle (.current 0 (.encrypt ⟨⟨[0x00, 0x01], .sha256⟩⟩))).run =
          Response.ok 0 (.ciphertext ciphertext) ∧
        (onRsa.handle (.current 1 (.decrypt ⟨⟨ciphertext, .sha256⟩⟩))).run =
          Response.ok 1 (.plaintext [0x00, 0x01])) ∧
      (onRsa.handle (.current 2 (.encrypt ⟨⟨[], .sha512⟩⟩))).run =
        Response.failed 2 "RSA error: message too long" ∧
      ((onCurve.serve t).run.1, (onCurve.serve t).run.2.sink.written) =
        (.ok (), Frame.ofMessage (Response.failed 3 "The key does not support Decrypt")) := by
  intro draw onRsa onCurve request t
  have valid : mersenneKey.isValid = true :=
    Rsa.PrivateKey.isValid_of_isConsistent mersenneKey_madeOfPrimes.consistent
  have inverts := mersenneKey_madeOfPrimes.inverts
  refine ⟨?_, ?_, ?_⟩
  · have outcome := ((encrypt_decrypt draw ⟨[], .rsa mersenneKey⟩ 0 [0x00, 0x01] .sha256).1
      mersenneKey rfl valid inverts).run
    obtain ⟨ciphertext, encrypted, decrypted⟩ := outcome.1 (by decide +kernel)
    exact ⟨ciphertext, encrypted, decrypted 1⟩
  · have outcome := ((encrypt_decrypt draw ⟨[], .rsa mersenneKey⟩ 2 [] .sha512).1
      mersenneKey rfl valid inverts).run
    exact outcome.2 (by decide +kernel)
  · have delivers : t.source.Delivers (Frame.ofMessage request ++ []) := by
      refine ⟨?_, rfl⟩
      intro chunk mem
      rw [List.mem_singleton.mp mem]
      exact nofun
    have decodes : Message.decode Request .memory (Message.encode request) = .ok request :=
      Message.decode_encode request trivial
    obtain ⟨-, serves⟩ := (encrypt_decrypt draw ⟨[], .ecdsa .p256 1 Curve.p256.generator⟩ 3 []
      .sha1).2 .p256 1 Curve.p256.generator rfl (.decrypt ⟨⟨[], .sha1⟩⟩) _
        (List.mem_cons_of_mem _ List.mem_cons_self)
    obtain ⟨left, sink, behind, took, run⟩ := serves t (Message.encode request) [] delivers
      (by decide +kernel) decodes (Sink.patient_of_nil rfl rfl)
    have finished := onCurve.serve_finished (t := ⟨left, sink⟩) behind
    rw [← run] at finished
    obtain ⟨done, written⟩ := Prod.mk.inj finished
    rw [Prod.mk.injEq]
    exact ⟨done, (congrArg Sink.written written).trans took.written⟩

end SoftwareKey

end Signer

end RemoteSigner
