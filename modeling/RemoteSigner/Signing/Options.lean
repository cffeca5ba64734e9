import RemoteSigner.Signing.Hash

/-!
# How to sign

The options of a signature are a closed set, so that both ends mean the same by them: a bare hash
algorithm, or the parameters of RSASSA-PSS.

## Main definitions

* `SaltLength`: how long the salt of a signature is
* `SignerOpts`: how to sign
-/

namespace RemoteSigner

open Json

/-- The length of the salt of an RSASSA-PSS signature. -/
inductive SaltLength where
  /-- The longest salt that the key permits. -/
  | auto
  /-- A salt as long as the digest. -/
  | equalsHash
  /-- A salt of so many octets. -/
  | bytes (n : UInt64)
  deriving DecidableEq, Repr

namespace SaltLength

/-- The tags of the salt lengths. -/
inductive Tag where
  | auto | equalsHash | bytes
  deriving DecidableEq, Repr

/-- The tags by the names that messages use. -/
def Tag.names : List (String × Tag) :=
  [("auto", auto), ("equals_hash", equalsHash), ("bytes", bytes)]

/-- The length that is used where none is asked for. -/
def default : SaltLength := auto

/-- How a salt length is read. -/
def tagged : Tagged Tag SaltLength where
  expected := "adjacently tagged enum SaltLength"
  tag := "kind"
  content := "bytes"
  names := Tag.names
  alone
    | .auto => some auto
    | .equalsHash => some equalsHash
    | .bytes => none
  read
    | .auto, item => do item.nothing "unit variant SaltLength::Auto"; pure auto
    | .equalsHash, item => do item.nothing "unit variant SaltLength::EqualsHash"; pure equalsHash
    | .bytes, item => return bytes (← Message.readWord64 "usize" item)

instance : Message SaltLength where
  toValue
    | auto => .object [("kind", .text "auto")]
    | equalsHash => .object [("kind", .text "equals_hash")]
    | bytes n => .object [("kind", .text "bytes"), ("bytes", .natural n.toNat)]
  read item := tagged.readItem item

end SaltLength

/-- The options of a signature. -/
inductive SignerOpts where
  /-- Only a hash algorithm.  RSA keys sign by PKCS #1 v1.5. -/
  | hash (algorithm : HashAlgorithm)
  /-- RSASSA-PSS: the algorithm is that of the digest and of the mask. -/
  | pss (algorithm : HashAlgorithm) (saltLength : SaltLength)
  deriving DecidableEq, Repr

namespace SignerOpts

/-- The hash algorithm of the options. -/
def algorithm : SignerOpts → HashAlgorithm
  | hash algorithm | pss algorithm _ => algorithm

/-- RSASSA-PSS with a salt as long as the digest. -/
def pssOf (algorithm : HashAlgorithm) : SignerOpts := pss algorithm .equalsHash

/-- The tags of the options. -/
inductive Tag where
  | hash | pss
  deriving DecidableEq, Repr

/-- The tags by the names that messages use. -/
def Tag.names : List (String × Tag) := [("hash", hash), ("pss", pss)]

/-- Options that are being read. -/
structure Draft where
  algorithm : Option HashAlgorithm := none
  saltLength : Option SaltLength := none

/-- The member with the algorithm. -/
def hashField : Json.Field Draft :=
  Field.of "hash" (·.algorithm) (fun draft value => { draft with algorithm := some value })
    Message.read

/-- The member with the salt length. -/
def saltField : Json.Field Draft :=
  Field.of "salt_length" (·.saltLength) (fun draft value => { draft with saltLength := some value })
    Message.read

/-- How the options with only an algorithm are read. -/
def hashRecord : Record Draft SignerOpts where
  expected := "struct variant SignerOpts::Hash"
  fields := [hashField]
  empty := {}
  finish complain draft := return hash (← required complain "hash" draft.algorithm)

/-- How the options of RSASSA-PSS are read. -/
def pssRecord : Record Draft SignerOpts where
  expected := "struct variant SignerOpts::Pss"
  fields := [hashField, saltField]
  empty := {}
  finish complain draft := do
    let algorithm ← required complain "hash" draft.algorithm
    return pss algorithm (← required complain "salt_length" draft.saltLength)

/-- How options are read. -/
def inlined : Inline Tag SignerOpts where
  expected := "internally tagged enum SignerOpts"
  tag := "type"
  names := Tag.names
  read
    | .hash => hashRecord.read
    | .pss => pssRecord.read

instance : Message SignerOpts where
  toValue
    | hash algorithm => .object [("type", .text "hash"), ("hash", Message.toValue algorithm)]
    | pss algorithm saltLength => .object
      [("type", .text "pss"), ("hash", Message.toValue algorithm),
         ("salt_length", Message.toValue saltLength)]
  read item := inlined.readItem item

end SignerOpts

end RemoteSigner
