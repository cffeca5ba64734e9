import RemoteSigner.Wire.Error

/-!
# Requests and responses

Every call travels in a request, and every request is answered by one response with the same number.

## Main definitions

* `Request`, `Response`: a call and its answer, with a number
* `Response.outcome`: the reply, or why there is none
-/

namespace RemoteSigner

open Json

/-- The version of the protocol. -/
def protocolVersion : UInt32 := 1

/-! ## Requests -/

/-- A call on its way to a signer. -/
structure Request where
  /-- The number that the response has to carry. -/
  id : UInt64
  /-- The version of the protocol that the client speaks. -/
  version : UInt32
  /-- What the client asks for. -/
  call : Call
  deriving DecidableEq, Repr

namespace Request

/-- A request of this version of the protocol. -/
def current (id : UInt64) (call : Call) : Request := ⟨id, protocolVersion, call⟩

/-- A request that is being read. -/
structure Draft where
  id : Option UInt64 := none
  version : Option UInt32 := none
  call : Option Call := none

/-- How a request is read. -/
def record : Record Draft Request where
  expected := "struct Request"
  fields := [
    Field.of "id" (·.id) (fun draft value => { draft with id := some value })
      (Message.readWord64 "u64"),
    Field.of "version" (·.version) (fun draft value => { draft with version := some value })
      Message.readWord32,
    Field.of "call" (·.call) (fun draft value => { draft with call := some value }) Message.read]
  empty := {}
  finish complain draft := do
    let id ← required complain "id" draft.id
    let version ← required complain "version" draft.version
    return ⟨id, version, ← required complain "call" draft.call⟩

instance : Message Request where
  toValue request := .object
    [("id", .natural request.id.toNat), ("version", .natural request.version.toNat),
      ("call", Message.toValue request.call)]
  read := record.read

end Request

/-! ## Responses -/

/-- The answer to a request. -/
structure Response where
  /-- The number of the request. -/
  id : UInt64
  /-- What the call gave, if it succeeded. -/
  result : Option Reply
  /-- Why the call failed, if it did. -/
  error : Option String
  deriving DecidableEq, Repr

namespace Response

/-- The answer to a call that succeeded. -/
def ok (id : UInt64) (reply : Reply) : Response := ⟨id, some reply, none⟩

/-- The answer to a call that failed. -/
def failed (id : UInt64) (message : String) : Response := ⟨id, none, some message⟩

/-- What a client takes from a response; an error wins over a result. -/
def outcome (response : Response) : Except Wire.Error Reply :=
  match response.result, response.error with
  | _, some message => .error (.remote message)
  | some reply, none => .ok reply
  | none, none => .error (.emptyResponse response.id)

/-- A response that is being read. -/
structure Draft where
  id : Option UInt64 := none
  result : Option (Option Reply) := none
  error : Option (Option String) := none

/-- How a response is read. -/
def record : Record Draft Response where
  expected := "struct Response"
  fields := [
    Field.of "id" (·.id) (fun draft value => { draft with id := some value })
      (Message.readWord64 "u64"),
    Field.of "result" (·.result) (fun draft value => { draft with result := some value })
      (Item.option Message.read),
    Field.of "error" (·.error) (fun draft value => { draft with error := some value })
      (Item.option (Item.text "a string"))]
  empty := {}
  finish complain draft := do
    let id ← required complain "id" draft.id
    return ⟨id, draft.result.join, draft.error.join⟩

instance : Message Response where
  toValue response := .object <|
    ("id", .natural response.id.toNat) ::
      (Message.optional "result" (response.result.map Message.toValue) ++
        Message.optional "error" (response.error.map Value.text))
  read := record.read

end Response

end RemoteSigner
