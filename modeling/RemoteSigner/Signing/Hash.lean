import RemoteSigner.Wire.Message

/-!
# Hash algorithms
-/

namespace RemoteSigner

open Json

/-- The hash algorithms that a digest to be signed may come from. -/
inductive HashAlgorithm where
  | sha1 | sha224 | sha256 | sha384 | sha512
  deriving DecidableEq, Repr

namespace HashAlgorithm

/-- How many octets a digest has. -/
def size : HashAlgorithm → Nat
  | sha1 => 20
  | sha224 => 28
  | sha256 => 32
  | sha384 => 48
  | sha512 => 64

/-- The name that people read. -/
def name : HashAlgorithm → String
  | sha1 => "SHA-1"
  | sha224 => "SHA-224"
  | sha256 => "SHA-256"
  | sha384 => "SHA-384"
  | sha512 => "SHA-512"

/-- The name that messages use. -/
def keyword : HashAlgorithm → String
  | sha1 => "sha1"
  | sha224 => "sha224"
  | sha256 => "sha256"
  | sha384 => "sha384"
  | sha512 => "sha512"

/-- All algorithms, in the order of their declaration. -/
def all : List HashAlgorithm := [sha1, sha224, sha256, sha384, sha512]

/-- The algorithms by the names that messages use. -/
def keywords : List (String × HashAlgorithm) := all.map fun hash => (hash.keyword, hash)

instance : Message HashAlgorithm where
  toValue hash := .text hash.keyword
  read item := item.choice keywords

end HashAlgorithm

end RemoteSigner
