/-!
# What can go wrong with an RSA key
-/

namespace RemoteSigner.Rsa

/-- What can go wrong with an RSA key. -/
inductive Error where
  /-- A digest has not the length that its hash algorithm gives. -/
  | inputNotHashed
  /-- The message does not fit into the modulus. -/
  | messageTooLong
  /-- The ciphertext does not come from a message. -/
  | decryption
  /-- The key does not fit together, or it is too short for the encoding. -/
  | internal
  deriving DecidableEq, Repr

/-- The failure in words. -/
def Error.message : Error → String
  | inputNotHashed => "input must be hashed"
  | messageTooLong => "message too long"
  | decryption => "decryption error"
  | internal => "internal error"

end RemoteSigner.Rsa
