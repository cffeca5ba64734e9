import RemoteSigner.Config.Error
import RemoteSigner.Wire.Error

/-!
# What can go wrong for a client

Some failures have words of others in their messages, which are given by a `Wording`.
-/

namespace RemoteSigner.Client

/-- The words of others, of which a failure gives no more than what they are about. -/
structure Wording where
  /-- What is wrong with octets that are no key with an algorithm. -/
  publicKey : Bytes → String
  /-- The name of a way to sign messages, by its number in a handshake. -/
  scheme : UInt16 → String

/-- What can go wrong for a client. -/
inductive Error where
  /-- The configuration can not be used. -/
  | config (source : Config.Error)
  /-- The signer can not be started. -/
  | spawn (path : Bytes) (source : IoError)
  /-- A call to the signer failed. -/
  | call (operation : Call.Tag) (source : Wire.Error)
  /-- The signer has no certificates. -/
  | emptyCertificateChain
  /-- What the signer gave as its public key is no key with an algorithm. -/
  | publicKey (octets : Bytes)
  /-- The algorithm of the public key is not known, or the key is not valid. -/
  | unsupportedPublicKey (algorithm : String)
  /-- A certificate is too long for a section of a file; none that fits into a memory is. -/
  | pem (complaint : String)
  /-- The streams to and from the signer can not be closed. -/
  | connectionClose (source : IoError)
  /-- The signer can not be killed. -/
  | kill (source : IoError)
  /-- The end of the signer can not be awaited. -/
  | wait (source : IoError)
  /-- A TLS connection can not be set up. -/
  | tls (message : String)
  deriving DecidableEq, Repr

namespace Error

/-- A failure of TLS in words. -/
def tlsMessage (message : String) : String := "unexpected error: " ++ message

/-- The failure in words. -/
def message (wording : Wording) : Error → String
  | config source => source.message
  | spawn path source =>
      "Error starting signer subprocess " ++ Utf8.lossy path ++ ":\n" ++ source.message
  | call operation source => operation.name ++ " call to the signer failed:\n" ++ source.message
  | emptyCertificateChain => "The signer returned an empty certificate chain"
  | publicKey octets =>
      "Unable to decode the public key of the signer:\n" ++ wording.publicKey octets
  | unsupportedPublicKey algorithm => "Unsupported public key algorithm " ++ algorithm
  | pem complaint => "PEM encoding error: " ++ complaint
  | connectionClose source => "Closing the connection to the signer failed:\n" ++ source.message
  | kill source => "Killing the signer subprocess failed:\n" ++ source.message
  | wait source => "Waiting for the signer subprocess failed:\n" ++ source.message
  | tls message => "TLS error: " ++ tlsMessage message

/-- Whether a client may go on without a client certificate. -/
def isConfigUnavailable : Error → Bool
  | config source => source.isUnavailable
  | _ => false

/-- What the signer said, if it was the signer that failed. -/
def remoteMessage : Error → Option String
  | call _ (.remote message) => some message
  | _ => none

end Error

end RemoteSigner.Client
