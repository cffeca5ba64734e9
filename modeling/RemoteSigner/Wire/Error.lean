import RemoteSigner.IoError
import RemoteSigner.Wire.Call

/-!
# What can go wrong between a client and a signer
-/

namespace RemoteSigner

namespace Wire

/-- What can go wrong between a client and a signer. -/
inductive Error where
  /-- A stream failed; `context` completes the sentence "I/O error while". -/
  | io (context : String) (source : IoError)
  /-- A message is no message of the kind that was expected. -/
  | serialization (source : Json.Error)
  /-- A frame is longer than a frame may be. -/
  | frameTooLarge (length limit : Nat)
  /-- The signer closed the stream although it owed a response. -/
  | connectionClosed
  /-- A response belongs to another request. -/
  | unexpectedResponseId (expected actual : UInt64)
  /-- A response has neither a result nor an error. -/
  | emptyResponse (id : UInt64)
  /-- A reply is of another kind than the call. -/
  | unexpectedReply (call : Call.Tag) (reply : Reply.Tag)
  /-- A request is of another version of the protocol. -/
  | unsupportedVersion (actual expected : UInt32)
  /-- The signer answered with an error. -/
  | remote (message : String)
  deriving DecidableEq, Repr

namespace Error

/-- The failure in words. -/
def message : Error → String
  | io context source => "I/O error while " ++ context ++ ":\n" ++ source.message
  | serialization source => "Serialization error: " ++ source.message
  | frameTooLarge length limit =>
    "Frame of " ++ length.repr ++ " bytes exceeds the maximum of " ++ limit.repr ++ " bytes"
  | connectionClosed => "Connection closed by the signer"
  | unexpectedResponseId expected actual =>
    "Response id " ++ actual.toNat.repr ++ " does not match request id " ++ expected.toNat.repr
  | emptyResponse id => "Response " ++ id.toNat.repr ++ " carries neither a result nor an error"
  | unexpectedReply call reply =>
      "Unexpected " ++ reply.name ++ " reply to a " ++ call.name ++ " call"
  | unsupportedVersion actual expected =>
    "Unsupported protocol version " ++ actual.toNat.repr ++ ", expected " ++ expected.toNat.repr
  | remote message => message

end Error

end Wire

end RemoteSigner
