import RemoteSigner.Proofs.Curve.Ecdsa
import RemoteSigner.Proofs.Rsa.Signatures
import RemoteSigner.Proofs.Wire.Sessions
import RemoteSigner.Signer.Software

/-!
# Signatures of a key in memory

Whether a digest can be signed, and how long its signature is, does not depend on the octets that
are drawn: only a salt is drawn, and only its length counts.  Keys on curves draw nothing.

## Main results

* `drawn_yields`: as many octets are drawn as are wanted
* `SoftwareKey.sign_any_draw`: signatures of one digest are equally long
* `SoftwareKey.length_sign_ecdsa_le`: how long a signature on a curve may be
-/

namespace RemoteSigner.Signer

/-- Exactly as many octets are drawn as are wanted. -/
theorem drawn_yields {m : Type → Type} [Monad m] [LawfulMonad m] (draw : Nat → m Bytes) (n : Nat) :
    Yields (fun octets => octets.length = n) (drawn draw n) := by
  have whole (octets : Bytes) :
      (octets.take n ++ List.replicate (n - octets.length) 0).length = n := by
    rw [List.length_append, List.length_take, List.length_replicate]
    omega
  rw [drawn, ← map_eq_pure_bind]
  exact .of_forall whole (draw n)

variable {digest signature : Bytes} {opts : Option SignerOpts}

/-! ## RSA keys -/

section

variable {m : Type → Type} [Monad m] (draw : Nat → m Bytes) {key : Rsa.PrivateKey}
  {hash : HashAlgorithm} {length : SaltLength}

/-- A salt length above the limit is refused before anything is drawn. -/
theorem signRsa_of_limit_lt
    (long : maxSaltLength key.toPublicKey hash < saltLength key.toPublicKey hash length) :
    signRsa draw key digest (some (.pss hash length)) =
      pure (.error (.saltLength (saltLength key.toPublicKey hash length)
        (maxSaltLength key.toPublicKey hash))) := by
  rw [signRsa, if_pos long]

variable [LawfulMonad m]

/-- Below the limit, a salt is drawn and signed with. -/
theorem signRsa_of_le_limit
    (short : saltLength key.toPublicKey hash length ≤ maxSaltLength key.toPublicKey hash) :
    signRsa draw key digest (some (.pss hash length)) =
      (fun salt => (Rsa.Pss.sign key hash digest salt).mapError .rsa) <$>
        drawn draw (saltLength key.toPublicKey hash length) := by
  rw [signRsa, if_neg (Nat.not_lt.mpr short), map_eq_pure_bind]

end

section

variable {key : Rsa.PrivateKey} {draw : Nat → Id Bytes}

/-- Every signature of an RSA key is as long as its modulus. -/
theorem of_signRsa (signed : (signRsa draw key digest opts).run = .ok signature) :
    0 < key.modulus ∧ signature.length = key.size := by
  rcases opts with _ | hash | ⟨hash, length⟩
  · exact Rsa.Pkcs1.of_signRaw (mapError_eq_ok_iff.mp signed)
  · exact Rsa.Pkcs1.of_sign (mapError_eq_ok_iff.mp signed)
  · rcases Nat.lt_or_ge (maxSaltLength key.toPublicKey hash)
      (saltLength key.toPublicKey hash length) with long | short
    · rw [signRsa_of_limit_lt draw long] at signed
      cases signed
    · rw [signRsa_of_le_limit draw short] at signed
      exact Rsa.Pss.of_sign (mapError_eq_ok_iff.mp signed)

/-- A digest is signed under a salt exactly if it is as long as it should be and the salt fits. -/
theorem exists_signRsa_pss_iff (positive : 0 < key.modulus) (inverts : key.Inverts)
    (draw : Nat → Id Bytes) {hash : HashAlgorithm} {length : SaltLength} :
    (∃ signature, (signRsa draw key digest (some (.pss hash length))).run = .ok signature) ↔
      saltLength key.toPublicKey hash length ≤ maxSaltLength key.toPublicKey hash ∧
      digest.length = hash.size ∧
      hash.size + saltLength key.toPublicKey hash length + 2 ≤
        Rsa.Pss.octetsFor (key.bits - 1) := by
  rcases Nat.lt_or_ge (maxSaltLength key.toPublicKey hash)
    (saltLength key.toPublicKey hash length) with long | short
  · rw [signRsa_of_limit_lt draw long]
    refine ⟨?_, fun both => absurd both.1 (Nat.not_le.mpr long)⟩
    rintro ⟨signature, signed⟩
    cases signed
  · have salt := (drawn_yields draw (saltLength key.toPublicKey hash length)).run
    have can := Rsa.Pss.exists_sign_iff positive inverts hash digest
      (drawn draw (saltLength key.toPublicKey hash length)).run
    rw [salt] at can
    rw [signRsa_of_le_limit draw short, ← can]
    constructor
    · rintro ⟨signature, signed⟩
      exact ⟨short, signature, mapError_eq_ok_iff.mp signed⟩
    · rintro ⟨-, signature, signed⟩
      exact ⟨signature, mapError_eq_ok_iff.mpr signed⟩

/-- Signatures under different salts are equally long, and there are either all of them or none. -/
theorem signRsa_any_draw (inverts : key.Inverts) (draw' : Nat → Id Bytes)
    (signed : (signRsa draw key digest opts).run = .ok signature) :
    ∃ signature', (signRsa draw' key digest opts).run = .ok signature' ∧
      signature'.length = signature.length := by
  obtain ⟨positive, long⟩ := of_signRsa signed
  rcases opts with _ | hash | ⟨hash, length⟩
  · exact ⟨signature, signed, rfl⟩
  · exact ⟨signature, signed, rfl⟩
  · have can := (exists_signRsa_pss_iff positive inverts draw).mp ⟨signature, signed⟩
    obtain ⟨signature', signed'⟩ := (exists_signRsa_pss_iff positive inverts draw').mpr can
    exact ⟨signature', signed', (of_signRsa signed').2.trans long.symm⟩

end

/-! ## All keys -/

namespace SoftwareKey

variable {software : SoftwareKey}

theorem provider_sign_rsa {m : Type → Type} [Monad m] (draw : Nat → m Bytes) {key : Rsa.PrivateKey}
    (holds : software.key = .rsa key) :
    (software.provider draw).sign digest opts = signRsa draw key digest opts := by
  simp only [provider, holds]

/-- What is drawn decides neither whether there is a signature nor how long it is. -/
theorem sign_any_draw (inverts : ∀ key, software.key = .rsa key → key.Inverts)
    (draw draw' : Nat → Id Bytes)
    (signed : ((software.provider draw).sign digest opts).run = .ok signature) :
    ∃ signature', ((software.provider draw').sign digest opts).run = .ok signature' ∧
      signature'.length = signature.length := by
  rcases holds : software.key with key | ⟨curve, secret, point⟩
  · rw [provider_sign_rsa _ holds] at signed ⊢
    exact signRsa_any_draw (inverts key holds) draw' signed
  · refine ⟨signature, ?_, rfl⟩
    simp only [provider, holds] at signed ⊢
    exact signed

/-- A signature on a curve has at most eight octets more than two coordinates. -/
theorem length_sign_ecdsa_le {curve : Curve} {secret : Nat} {point : curve.Point}
    (holds : software.key = .ecdsa curve secret point) (draw : Nat → Id Bytes)
    (signed : ((software.provider draw).sign digest opts).run = .ok signature) :
    signature.length ≤ 2 * curve.size + 8 := by
  have given : signEcdsa curve secret digest opts = .ok signature := by
    simp only [provider, holds] at signed
    exact signed
  unfold signEcdsa at given
  split at given
  · cases given
  · split at given
    · next found made =>
      obtain rfl := Except.ok.inj given
      obtain ⟨r, s⟩ := Curve.sign?_lt_order made
      exact Curve.Signature.length_encode_le r s
    · cases given

end SoftwareKey

end RemoteSigner.Signer
