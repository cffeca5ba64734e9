import RemoteSigner.Octets

/-!
# Certificates

A certificate holds the public key of its owner octet by octet as the key is written by itself.
-/

namespace RemoteSigner.Certificate

/-- Whether some octets stand somewhere in others, one behind the other. -/
def occurs (piece : Bytes) : Bytes → Bool
  | [] => piece.isEmpty
  | b :: rest => piece.isPrefixOf (b :: rest) || occurs piece rest

/-- Whether a certificate holds a public key; no certificate holds an empty one. -/
def holds (certificate publicKey : Bytes) : Bool :=
  !publicKey.isEmpty && occurs publicKey certificate

end RemoteSigner.Certificate
