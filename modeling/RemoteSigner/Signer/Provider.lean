import RemoteSigner.Signer.Error

/-!
# Providers

A provider holds a private key and its certificates, wherever they are kept.  Its operations happen
in a monad, so that a provider may draw random octets or keep a record of what it is asked for.
-/

namespace RemoteSigner.Signer

/-- A private key with its certificates. -/
structure Provider (m : Type → Type) where
  /-- The certificates, leaf first. -/
  certificateChain : m (Except Error (List Bytes))
  /-- The public key. -/
  publicKey : m (Except Error Bytes)
  /-- Signs a digest.  Without options the digest is signed as it is. -/
  sign : Bytes → Option SignerOpts → m (Except Error Bytes)
  /-- Encrypts octets; the algorithm is that of the padding. -/
  encrypt : Bytes → HashAlgorithm → m (Except Error Bytes)
  /-- Decrypts octets; the algorithm is that of the padding. -/
  decrypt : Bytes → HashAlgorithm → m (Except Error Bytes)

/-- What a provider answers that can not do something. -/
def unsupported [Pure m] (operation : Operation) : m (Except Error α) :=
  pure (.error (.unsupportedOperation operation))

end RemoteSigner.Signer
