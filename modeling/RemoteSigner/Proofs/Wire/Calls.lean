import RemoteSigner.Proofs.Outcomes
import RemoteSigner.Proofs.Wire.Correlation

/-!
# What a call comes to

A call comes to what the octets of the signer begin with, however they are cut.  It succeeds if its
request can be written and the octets begin with a response that has its number, no error, and a
reply of the kind that it wants.  Otherwise it fails, and there is one reason only.

## Main definitions

* `CallGives`: a call succeeds with a reply
* `AnswerFails`, `CallFails`: why a call fails

## Main results

* `gives_or_fails`, `Connection.invoke_of_fails`: a call that does not succeed fails, and
  as its reason says
* `Connection.invoke_eq_ok_iff`: when a call succeeds
-/

namespace RemoteSigner.Wire

/-- A call with a number succeeds with a reply: its request is written, and the octets begin with a
response that holds the reply. -/
structure CallGives (id : UInt64) (call : Call) (sink : Sink) (octets : Bytes) (reply : Reply)
    (rest : Bytes) : Prop where
  /-- The request can be written. -/
  sent : (Frame.write (Request.current id call) sink).1 = .ok ()
  /-- The response comes next. -/
  response : Frame.Starts Response octets [.ok id reply] rest
  /-- The reply is of the kind that the call wants. -/
  wanted : reply.tag = call.wants

/-- What is wrong with the octets where the response to a call should be. -/
inductive AnswerFails (id : UInt64) (call : Call) : Bytes → Error → Prop
  /-- There are none. -/
  | closed : AnswerFails id call [] .connectionClosed
  /-- They do not begin with a response. -/
  | broken {octets : Bytes} {error : Error} (ends : Frame.Ends Response octets (.error error)) :
      AnswerFails id call octets error
  /-- The response has another number. -/
  | stray {octets rest : Bytes} {response : Response}
      (next : Frame.Starts Response octets [response] rest) (other : response.id ≠ id) :
      AnswerFails id call octets (.unexpectedResponseId id response.id)
  /-- The response holds an error, whatever else it holds. -/
  | remote {octets rest : Bytes} {result : Option Reply} {message : String}
      (next : Frame.Starts Response octets [⟨id, result, some message⟩] rest) :
      AnswerFails id call octets (.remote message)
  /-- The response holds nothing. -/
  | empty {octets rest : Bytes} (next : Frame.Starts Response octets [⟨id, none, none⟩] rest) :
      AnswerFails id call octets (.emptyResponse id)
  /-- The reply is of another kind. -/
  | unexpected {octets rest : Bytes} {reply : Reply}
      (next : Frame.Starts Response octets [.ok id reply] rest) (other : reply.tag ≠ call.wants) :
      AnswerFails id call octets (.unexpectedReply call.tag reply.tag)

/-- Why a call with a number fails. -/
inductive CallFails (id : UInt64) (call : Call) (sink : Sink) (octets : Bytes) : Error → Prop
  /-- The request can not be written. -/
  | unsent {error : Error}
      (failed : (Frame.write (Request.current id call) sink).1 = .error error) :
      CallFails id call sink octets error
  /-- The response is not what it should be. -/
  | answer {error : Error} (sent : (Frame.write (Request.current id call) sink).1 = .ok ())
      (fails : AnswerFails id call octets error) : CallFails id call sink octets error

/-- A call is answered as it should be, or not. -/
theorem gives_or_fails (id : UInt64) (call : Call) (sink : Sink) (octets : Bytes) :
    (∃ reply rest, CallGives id call sink octets reply rest) ∨
      ∃ error, CallFails id call sink octets error := by
  rcases sent : (Frame.write (Request.current id call) sink).1 with error | _
  · exact .inr ⟨error, .unsent sent⟩
  rcases Frame.ends_or_starts Response octets with
    ⟨error | _, ends⟩ | ⟨body, rest, response, rfl, fits, decodes⟩
  · exact .inr ⟨error, .answer sent (.broken ends)⟩
  · obtain rfl := ends.ok_iff.mp rfl
    exact .inr ⟨_, .answer sent .closed⟩
  have next : Frame.Starts Response (Frame.encode body ++ rest) [response] rest :=
    .cons fits decodes (.nil rest)
  by_cases own : response.id = id
  · obtain ⟨_, result, error⟩ := response
    obtain rfl := own
    rcases error with _ | message
    · rcases result with _ | reply
      · exact .inr ⟨_, .answer sent (.empty next)⟩
      · by_cases wanted : reply.tag = call.wants
        · exact .inl ⟨reply, rest, sent, next, wanted⟩
        · exact .inr ⟨_, .answer sent (.unexpected next wanted)⟩
    · exact .inr ⟨_, .answer sent (.remote next)⟩
  · exact .inr ⟨_, .answer sent (.stray next own)⟩

namespace Connection

variable {call : Call} {c : Connection} {octets : Bytes}

theorem call_of_unsent {error : Error}
    (failed : (Frame.write (Request.current c.nextId call) c.transport.sink).1 = .error error) :
    (c.call call).1 = .error error := by
  rcases run : Frame.write (Request.current c.nextId call) c.transport.sink with ⟨result, sink⟩
  rw [run] at failed
  obtain rfl : result = .error error := failed
  simp only [Connection.call, Transport.send, run]

/-- A call whose request has been written takes what is read. -/
theorem call_of_sent {received : Except Error (Option Response)} {left : Source}
    (sent : (Frame.write (Request.current c.nextId call) c.transport.sink).1 = .ok ())
    (read : Frame.read Response c.transport.source = (received, left)) :
    c.call call =
      (received >>= fun response => match response with
        | none => .error .connectionClosed
        | some response => accept c.nextId response,
        ⟨⟨left, (Frame.write (Request.current c.nextId call) c.transport.sink).2⟩,
          c.nextId + 1⟩) := by
  rcases run : Frame.write (Request.current c.nextId call) c.transport.sink with ⟨result, sink⟩
  rw [run] at sent
  obtain rfl : result = .ok () := sent
  rcases received with error | _ | response <;>
    simp only [Connection.call, Transport.send, Transport.receive, run, read] <;> rfl

/-- A call takes the response that comes next. -/
theorem invoke_of_next {rest : Bytes} {response : Response}
    (delivers : c.transport.source.Delivers octets)
    (sent : (Frame.write (Request.current c.nextId call) c.transport.sink).1 = .ok ())
    (next : Frame.Starts Response octets [response] rest) :
    ∃ left : Source, left.Delivers rest ∧ c.invoke call =
      (accept c.nextId response >>= pass call,
        ⟨⟨left, (Frame.write (Request.current c.nextId call) c.transport.sink).2⟩,
          c.nextId + 1⟩) := by
  cases next with
  | cons fits decodes more =>
    cases more with
    | nil =>
      obtain ⟨left, behind, read⟩ := Frame.read_message delivers fits decodes
      refine ⟨left, behind, ?_⟩
      rw [invoke_eq, call_of_sent sent read]
      rfl

/-- Of a response with the number of the call the outcome counts. -/
theorem invoke_of_own {rest : Bytes} {response : Response}
    (delivers : c.transport.source.Delivers octets)
    (sent : (Frame.write (Request.current c.nextId call) c.transport.sink).1 = .ok ())
    (next : Frame.Starts Response octets [response] rest) (own : response.id = c.nextId) :
    ∃ left : Source, left.Delivers rest ∧ c.invoke call =
      (response.outcome >>= pass call,
        ⟨⟨left, (Frame.write (Request.current c.nextId call) c.transport.sink).2⟩,
          c.nextId + 1⟩) := by
  obtain ⟨left, behind, run⟩ := invoke_of_next delivers sent next
  rw [accept, if_neg (not_not_intro own)] at run
  exact ⟨left, behind, run⟩

theorem invoke_of_gives {reply : Reply} {rest : Bytes}
    (delivers : c.transport.source.Delivers octets)
    (gives : CallGives c.nextId call c.transport.sink octets reply rest) :
    ∃ left : Source, left.Delivers rest ∧ c.invoke call = (.ok reply,
      ⟨⟨left, (Frame.write (Request.current c.nextId call) c.transport.sink).2⟩,
        c.nextId + 1⟩) := by
  obtain ⟨left, behind, run⟩ := invoke_of_own delivers gives.sent gives.response rfl
  exact ⟨left, behind, run.trans (congrArg (·, _) (if_pos gives.wanted))⟩

/-- A call fails for its reason; a response is looked into in this order: number, error, result,
kind. -/
theorem invoke_of_fails {error : Error} (delivers : c.transport.source.Delivers octets)
    (fails : CallFails c.nextId call c.transport.sink octets error) :
    (c.invoke call).1 = .error error := by
  cases fails with
  | unsent failed =>
    rw [invoke_eq, call_of_unsent failed]
    rfl
  | answer sent fails =>
    cases fails with
    | closed =>
      obtain ⟨left, -, read⟩ := Frame.read_finished (α := Response) delivers
      rw [invoke_eq, call_of_sent sent read]
      rfl
    | broken ends =>
      obtain ⟨left, read⟩ := Frame.read_ends ends delivers
      rw [invoke_eq, call_of_sent sent read]
      rfl
    | stray next other =>
      obtain ⟨left, -, run⟩ := invoke_of_next delivers sent next
      rw [run, accept, if_pos other]
      rfl
    | remote next =>
      obtain ⟨left, -, run⟩ := invoke_of_own delivers sent next rfl
      rw [run]
      rfl
    | empty next =>
      obtain ⟨left, -, run⟩ := invoke_of_own delivers sent next rfl
      rw [run]
      rfl
    | unexpected next other =>
      obtain ⟨left, -, run⟩ := invoke_of_own delivers sent next rfl
      rw [run]
      exact if_neg other

/-- **When a call succeeds**, and with which reply. -/
theorem invoke_eq_ok_iff {reply : Reply} (delivers : c.transport.source.Delivers octets) :
    (c.invoke call).1 = .ok reply ↔
      ∃ rest, CallGives c.nextId call c.transport.sink octets reply rest := by
  constructor
  · intro succeeded
    rcases gives_or_fails c.nextId call c.transport.sink octets with
      ⟨reply', rest, gives⟩ | ⟨error, fails⟩
    · obtain ⟨left, -, run⟩ := invoke_of_gives delivers gives
      rw [run] at succeeded
      obtain rfl := Except.ok.inj succeeded
      exact ⟨rest, gives⟩
    · cases succeeded.symm.trans (invoke_of_fails delivers fails)
  · rintro ⟨rest, gives⟩
    obtain ⟨left, -, run⟩ := invoke_of_gives delivers gives
    rw [run]

/-! ## Methods -/

section Method

variable {α : Type} (method : Connection → Except Error α × Connection) {wrap : α → Reply}

/-- A method succeeds with what the reply holds. -/
theorem method_of_gives (injective : Function.Injective wrap)
    (invokes : c.invoke call = ((method c).1.map wrap, (method c).2)) {a : α} {rest : Bytes}
    (delivers : c.transport.source.Delivers octets)
    (gives : CallGives c.nextId call c.transport.sink octets (wrap a) rest) :
    ∃ left : Source, left.Delivers rest ∧ method c = (.ok a,
      ⟨⟨left, (Frame.write (Request.current c.nextId call) c.transport.sink).2⟩,
        c.nextId + 1⟩) := by
  obtain ⟨left, behind, run⟩ := invoke_of_gives delivers gives
  obtain ⟨result, after⟩ := Prod.mk.inj (invokes.symm.trans run)
  obtain ⟨a', succeeded, same⟩ := map_eq_ok_iff.mp result
  obtain rfl := injective same
  exact ⟨left, behind, Prod.ext succeeded after⟩

/-- A method fails if its call does. -/
theorem method_of_fails (invokes : c.invoke call = ((method c).1.map wrap, (method c).2))
    {error : Error} (delivers : c.transport.source.Delivers octets)
    (fails : CallFails c.nextId call c.transport.sink octets error) :
    (method c).1 = .error error := by
  have failed := invoke_of_fails delivers fails
  rw [invokes] at failed
  exact map_eq_error_iff.mp failed

end Method

theorem invoke_certificateChain (c : Connection) : c.invoke .certificateChain =
    (c.certificateChain.1.map .certificateChain, c.certificateChain.2) := rfl

theorem invoke_publicKey (c : Connection) :
    c.invoke .publicKey = (c.publicKey.1.map .publicKey, c.publicKey.2) := rfl

theorem snd_certificateChain (c : Connection) :
    c.certificateChain.2 = (c.call .certificateChain).2 := by
  rw [← invoke_snd, invoke_certificateChain]

theorem snd_publicKey (c : Connection) : c.publicKey.2 = (c.call .publicKey).2 := by
  rw [← invoke_snd, invoke_publicKey]

/-- A call writes its request, whatever comes of it. -/
theorem sink_call (call : Call) (c : Connection) : (c.call call).2.transport.sink =
    (Frame.write (Request.current c.nextId call) c.transport.sink).2 := by
  rcases run : Frame.write (Request.current c.nextId call) c.transport.sink with ⟨_ | _, sink⟩
  · simp only [Connection.call, Transport.send, run]
  · rcases read : Frame.read Response c.transport.source with ⟨_ | _ | _, left⟩ <;>
      simp only [Connection.call, Transport.send, Transport.receive, run, read]

end Connection

end RemoteSigner.Wire
