import RemoteSigner.Proofs.Outcomes
import RemoteSigner.Proofs.Wire.Frames
import RemoteSigner.Wire.Connection

/-!
# Responses belong to their requests

Nothing is known here of the other side: a source may hand over any octets and fail at any time, and
so may a sink.  Whatever happens, a call sends a part of one frame and takes a part of one frame,
and what it takes for its reply came in a response with its own number.

## Main definitions

* `Connection.run`: a connection after some calls
* `Connection.invoke`: a call by the method that belongs to it
* `Exchange`: what one call does to the two streams, and where its result comes from

## Main results

* `Connection.exchange`: one call is an exchange
* `Connection.exchanges`: so are all calls of a connection, one behind the other
-/

namespace RemoteSigner

/-- The kind of reply that answers a call. -/
def Call.wants : Call → Reply.Tag
  | .certificateChain => .certificateChain
  | .publicKey => .publicKey
  | .sign _ => .signature
  | .encrypt _ => .ciphertext
  | .decrypt _ => .plaintext

namespace Wire

namespace Connection

/-! ## Methods -/

/-- A call by the method that belongs to it, with the result as a reply. -/
def invoke (call : Call) (c : Connection) : Except Error Reply × Connection :=
  match call with
  | .certificateChain => (c.certificateChain.1.map .certificateChain, c.certificateChain.2)
  | .publicKey => (c.publicKey.1.map .publicKey, c.publicKey.2)
  | .sign args => ((c.sign args).1.map .signature, (c.sign args).2)
  | .encrypt args => ((c.encrypt args).1.map .ciphertext, (c.encrypt args).2)
  | .decrypt args => ((c.decrypt args).1.map .plaintext, (c.decrypt args).2)

/-- The reply as a method passes it on: only the kind that belongs to the call will do. -/
def pass (call : Call) (reply : Reply) : Except Error Reply :=
  if reply.tag = call.wants then .ok reply else .error (.unexpectedReply call.tag reply.tag)

theorem invoke_eq (call : Call) (c : Connection) :
    c.invoke call = ((c.call call).1 >>= pass call, (c.call call).2) := by
  cases call <;>
    (simp only [invoke, certificateChain, publicKey, sign, encrypt, decrypt, request]
     rcases c.call _ with ⟨error | reply, c'⟩
     · rfl
     · cases reply <;> rfl)

theorem invoke_snd (c : Connection) (call : Call) : (c.invoke call).2 = (c.call call).2 := by
  rw [invoke_eq]

section Successes

variable {c : Connection}

theorem certificateChain_eq_ok_iff {chain : List Bytes} : c.certificateChain.1 = .ok chain ↔
    (c.invoke .certificateChain).1 = .ok (.certificateChain chain) := by
  simp only [invoke, map_eq_ok_iff, Reply.certificateChain.injEq, exists_eq_right]

theorem publicKey_eq_ok_iff {key : Bytes} :
    c.publicKey.1 = .ok key ↔ (c.invoke .publicKey).1 = .ok (.publicKey key) := by
  simp only [invoke, map_eq_ok_iff, Reply.publicKey.injEq, exists_eq_right]

theorem sign_eq_ok_iff {args : SignArgs} {octets : Bytes} :
    (c.sign args).1 = .ok octets ↔ (c.invoke (.sign args)).1 = .ok (.signature octets) := by
  simp only [invoke, map_eq_ok_iff, Reply.signature.injEq, exists_eq_right]

theorem encrypt_eq_ok_iff {args : EncryptArgs} {octets : Bytes} :
    (c.encrypt args).1 = .ok octets ↔ (c.invoke (.encrypt args)).1 = .ok (.ciphertext octets) := by
  simp only [invoke, map_eq_ok_iff, Reply.ciphertext.injEq, exists_eq_right]

theorem decrypt_eq_ok_iff {args : DecryptArgs} {octets : Bytes} :
    (c.decrypt args).1 = .ok octets ↔ (c.invoke (.decrypt args)).1 = .ok (.plaintext octets) := by
  simp only [invoke, map_eq_ok_iff, Reply.plaintext.injEq, exists_eq_right]

end Successes

/-- A connection after some calls. -/
def run (calls : List Call) (c : Connection) : Connection :=
  calls.foldl (fun c call => (c.call call).2) c

end Connection

/-! ## One call -/

/-- A result that came in a response: a reply, or an error that the signer reports. -/
def Answered : Except Error Reply → Prop
  | .ok _ | .error (.remote _) | .error (.emptyResponse _) => True
  | _ => False

/-- A method passes on what came in a response and adds nothing of its own. -/
theorem Connection.invoke_of_answered {call : Call} {c : Connection}
    (answered : Answered (c.invoke call).1) : (c.invoke call).1 = (c.call call).1 := by
  rw [invoke_eq] at answered ⊢
  generalize c.call call = outcome at answered ⊢
  rcases outcome with ⟨error | reply, c'⟩
  · rfl
  · change Answered (pass call reply) at answered
    change pass call reply = .ok reply
    rw [pass] at answered ⊢
    split at answered
    · next wanted => exact if_pos wanted
    · exact answered.elim

/-- A method gives only the kind of reply that belongs to the call. -/
theorem Connection.tag_of_invoke {call : Call} {c : Connection} {reply : Reply}
    (ok : (c.invoke call).1 = .ok reply) : reply.tag = call.wants := by
  have came : (c.call call).1 = .ok reply := by
    rw [← invoke_of_answered (by rw [ok]; trivial), ok]
  rw [invoke_eq, came] at ok
  change pass call reply = .ok reply at ok
  rw [pass] at ok
  split at ok
  · assumption
  · cases ok

/-- What a call with a number does to a connection, if it sends `sent` and takes `got`. -/
structure Exchange (id : UInt64) (call : Call) (before : Connection) (result : Except Error Reply)
    (after : Connection) (sent got : Bytes) : Prop where
  /-- The number is used up. -/
  number : after.nextId = id + 1
  /-- What is sent is a part of the frame of one request. -/
  written : after.transport.sink.written = before.transport.sink.written ++ sent
  request : sent <+: Frame.ofMessage (Request.current id call)
  /-- What is taken is a part of the first frame that is still to come. -/
  unread : before.transport.source.unread = got ++ after.transport.source.unread
  response : got <+: Frame.first before.transport.source.unread
  /-- Nothing is read if the request can not be sent. -/
  unsent : ∀ error, (before.transport.send (Request.current id call)).1 = .error error →
    result = .error error ∧ after.transport.source = before.transport.source
  /-- A result comes from a frame that was taken whole and holds a response with the number, after
  the request was sent whole. -/
  answered : Answered result → sent = Frame.ofMessage (Request.current id call) ∧
    ∃ body response, got = Frame.encode body ∧
      Message.decode Response .memory body = .ok response ∧ response.id = id ∧
      result = response.outcome
  /-- A response with another number is refused. -/
  stray : ∀ t response t', before.transport.send (Request.current id call) = (.ok (), t) →
    t.receive Response = (.ok (some response), t') → response.id ≠ id →
      result = .error (.unexpectedResponseId id response.id)

theorem not_answered_of_send {t : Transport} {request : Request} {error : Error}
    (h : (t.send request).1 = .error error) :
    ¬ Answered (.error error) := by
  rw [Transport.send] at h
  dsimp only at h
  rw [Frame.write] at h
  split at h
  · cases h
    exact id
  · split at h
    · cases h
      exact id
    · split at h
      · cases h
        exact id
      · cases h

theorem not_answered_of_receive {t : Transport} {error : Error}
    (h : (t.receive Response).1 = .error error) : ¬ Answered (.error error) := by
  rw [Transport.receive] at h
  dsimp only at h
  rw [Frame.read] at h
  split at h
  · cases h
    exact id
  · cases h
  · cases h
    exact id
  · dsimp only at h
    split at h
    · cases h
      exact id
    · rw [Frame.readBody] at h
      split at h
      · cases h
        exact id
      · cases h
        exact id
      · split at h <;> cases h
        exact id

theorem send_takes {α : Type} [Message α] {message : α} {t t' : Transport}
    {result : Except Error Unit} (run : t.send message = (result, t')) :
    t'.source = t.source ∧ ∃ sent, t'.sink.written = t.sink.written ++ sent ∧
      sent <+: Frame.ofMessage message ∧ (result = .ok () → sent = Frame.ofMessage message) := by
  obtain ⟨rfl, rfl⟩ := Prod.mk.inj run
  obtain ⟨sent, written, front, whole⟩ := Frame.write_takes message t.sink
  exact ⟨rfl, sent, written, front, fun ok => (whole ok).1⟩

theorem receive_takes {α : Type} [Message α] {t t' : Transport} {result : Except Error (Option α)}
    (run : t.receive α = (result, t')) :
    t'.sink = t.sink ∧ ∃ got, t.source.unread = got ++ t'.source.unread ∧
      got <+: Frame.first t.source.unread ∧ ∀ message, result = .ok (some message) →
        ∃ body, got = Frame.encode body ∧ Message.decode α .memory body = .ok message := by
  obtain ⟨rfl, rfl⟩ := Prod.mk.inj run
  obtain ⟨got, split, front, decodes⟩ := Frame.read_takes α t.source
  refine ⟨rfl, got, split, front, ?_⟩
  intro message ok
  obtain ⟨body, whole, -, decoded⟩ := decodes message ok
  exact ⟨body, whole, decoded⟩

namespace Connection

/-- A call whose request can not be sent takes nothing. -/
theorem exchange_unsent {call : Call} {c : Connection} {t : Transport} {error : Error}
    (sending : c.transport.send (Request.current c.nextId call) = (.error error, t)) :
    ∃ sent, Exchange c.nextId call c (c.call call).1 (c.call call).2 sent [] := by
  obtain ⟨source, sent, written, front, -⟩ := send_takes sending
  have run : c.call call = (.error error, ⟨t, c.nextId + 1⟩) := by
    simp only [Connection.call, sending]
  rw [run]
  refine ⟨sent, ?_⟩
  constructor
  case number => rfl
  case written => exact written
  case request => exact front
  case unread => rw [source, List.nil_append]
  case response => exact List.nil_prefix
  case unsent =>
    intro error' failed
    rw [sending] at failed
    obtain rfl := Except.error.inj failed
    exact ⟨rfl, source⟩
  case answered =>
    intro answered
    exact (not_answered_of_send (congrArg Prod.fst sending) answered).elim
  case stray =>
    intro t' response t'' sent'
    rw [sending] at sent'
    cases sent'

/-- A call whose request is sent leaves the streams as they are behind what is received, whatever it
makes of that. -/
theorem exchange_received {call : Call} {c : Connection} {t t' : Transport}
    {received : Except Error (Option Response)} {result : Except Error Reply}
    (sending : c.transport.send (Request.current c.nextId call) = (.ok (), t))
    (receiving : t.receive Response = (received, t'))
    (run : c.call call = (result, ⟨t', c.nextId + 1⟩))
    (comes : Answered result → ∃ response, received = .ok (some response) ∧
      response.id = c.nextId ∧ result = response.outcome)
    (stray : ∀ response, received = .ok (some response) → response.id ≠ c.nextId →
      result = .error (.unexpectedResponseId c.nextId response.id)) :
    ∃ sent got, Exchange c.nextId call c (c.call call).1 (c.call call).2 sent got := by
  obtain ⟨source, sent, written, front, whole⟩ := send_takes sending
  obtain ⟨sink, got, split, first, decodes⟩ := receive_takes receiving
  rw [source] at split first
  rw [← sink] at written
  rw [run]
  refine ⟨sent, got, ?_⟩
  constructor
  case number => rfl
  case written => exact written
  case request => exact front
  case unread => exact split
  case response => exact first
  case unsent =>
    intro error failed
    rw [sending] at failed
    cases failed
  case answered =>
    intro answered
    obtain ⟨response, ok, number, outcome⟩ := comes answered
    obtain ⟨body, frame, decoded⟩ := decodes response ok
    exact ⟨whole rfl, body, response, frame, decoded, number, outcome⟩
  case stray =>
    intro u response u' sent' received'
    rw [sending] at sent'
    cases sent'
    rw [receiving] at received'
    exact stray response (congrArg Prod.fst received')

/-- A call whose request is sent takes what is received. -/
theorem exchange_sent {call : Call} {c : Connection} {t : Transport}
    (sending : c.transport.send (Request.current c.nextId call) = (.ok (), t)) :
    ∃ sent got, Exchange c.nextId call c (c.call call).1 (c.call call).2 sent got := by
  rcases receiving : t.receive Response with ⟨error | _ | response, t'⟩
  · have run : c.call call = (.error error, ⟨t', c.nextId + 1⟩) := by
      simp only [Connection.call, sending, receiving]
    refine exchange_received sending receiving run ?_ nofun
    intro answered
    exact (not_answered_of_receive (congrArg Prod.fst receiving) answered).elim
  · have run : c.call call = (.error .connectionClosed, ⟨t', c.nextId + 1⟩) := by
      simp only [Connection.call, sending, receiving]
    refine exchange_received sending receiving run ?_ nofun
    exact False.elim
  · have run : c.call call = (accept c.nextId response, ⟨t', c.nextId + 1⟩) := by
      simp only [Connection.call, sending, receiving]
    apply exchange_received sending receiving run
    · intro answered
      by_cases number : response.id = c.nextId
      · exact ⟨response, rfl, number, if_neg (not_not_intro number)⟩
      · rw [accept, if_pos number] at answered
        exact answered.elim
    · intro response' same number
      obtain rfl := Option.some.inj (Except.ok.inj same)
      exact if_pos number

/-- Every call is an exchange, whatever the streams do. -/
theorem exchange (call : Call) (c : Connection) :
    ∃ sent got, Exchange c.nextId call c (c.call call).1 (c.call call).2 sent got := by
  rcases sending : c.transport.send (Request.current c.nextId call) with ⟨error | _, t⟩
  · obtain ⟨sent, exchange⟩ := exchange_unsent sending
    exact ⟨sent, [], exchange⟩
  · exact exchange_sent sending

/-! ## All calls -/

variable {calls : List Call}

theorem run_take_succ {k : Nat} (h : k < calls.length) (c : Connection) :
    c.run (calls.take (k + 1)) = ((c.run (calls.take k)).call calls[k]).2 := by
  rw [run, List.take_succ_eq_append_getElem h, List.foldl_append]
  rfl

/-- Every call uses a number up, whatever becomes of it. -/
theorem nextId_run (calls : List Call) (c : Connection) :
    (c.run calls).nextId = c.nextId + UInt64.ofNat calls.length := by
  induction calls generalizing c with
  | nil => exact (UInt64.add_zero _).symm
  | cons call calls ih =>
    obtain ⟨sent, got, exchange⟩ := c.exchange call
    rw [run, List.foldl_cons, ← run, ih, exchange.number, List.length_cons, UInt64.ofNat_add,
      UInt64.add_assoc, UInt64.add_comm (UInt64.ofNat calls.length)]
    rfl

theorem nextId_run_take (transport : Transport) {k : Nat} (h : k ≤ calls.length) :
    (run (calls.take k) ⟨transport, 0⟩).nextId = UInt64.ofNat k := by
  rw [nextId_run, List.length_take_of_le h]
  exact UInt64.zero_add _

theorem ofNat_ne_of_near {j k : Nat} (less : j < k) (near : k < j + 2 ^ 64) :
    UInt64.ofNat j ≠ UInt64.ofNat k := by
  intro same
  have same := congrArg UInt64.toNat same
  simp only [UInt64.toNat_ofNat'] at same
  omega

/-- A frame does not answer two calls with different numbers. -/
theorem frame_ne {id id' : UInt64} {call call' : Call} {before before' after after' : Connection}
    {result result' : Except Error Reply} {sent sent' got got' : Bytes}
    (first : Exchange id call before result after sent got)
    (second : Exchange id' call' before' result' after' sent' got') (other : id ≠ id')
    (answered : Answered result) (answered' : Answered result') : got ≠ got' := by
  rintro rfl
  obtain ⟨-, body, response, frame, decoded, rfl, -⟩ := first.answered answered
  obtain ⟨-, body', response', frame', decoded', rfl, -⟩ := second.answered answered'
  obtain rfl := (List.append_inj (frame.symm.trans frame') (by simp)).2
  exact other (congrArg Response.id (Except.ok.inj (decoded.symm.trans decoded')))

/-- **All calls of a new connection are exchanges**, numbered from zero on: one takes up reading
where the one before has stopped, a method passes on only what came in the response, and a reply
only if it is of the kind that belongs to the call, and no frame answers two calls unless 2^64 calls
or more lie between them. -/
theorem exchanges (transport : Transport) (calls : List Call) :
    ∃ sent got : Nat → Bytes,
      (∀ k (h : k < calls.length),
        Exchange (UInt64.ofNat k) calls[k] (run (calls.take k) ⟨transport, 0⟩)
          ((run (calls.take k) ⟨transport, 0⟩).call calls[k]).1
          (run (calls.take (k + 1)) ⟨transport, 0⟩) (sent k) (got k)) ∧
      (∀ k ≤ calls.length, transport.source.unread =
        (List.range k).flatMap got ++ (run (calls.take k) ⟨transport, 0⟩).transport.source.unread) ∧
      (∀ k (h : k < calls.length),
        ((run (calls.take k) ⟨transport, 0⟩).invoke calls[k]).2 =
          run (calls.take (k + 1)) ⟨transport, 0⟩ ∧
        (Answered ((run (calls.take k) ⟨transport, 0⟩).invoke calls[k]).1 →
          ((run (calls.take k) ⟨transport, 0⟩).invoke calls[k]).1 =
            ((run (calls.take k) ⟨transport, 0⟩).call calls[k]).1) ∧
        ∀ reply, ((run (calls.take k) ⟨transport, 0⟩).invoke calls[k]).1 = .ok reply →
          reply.tag = calls[k].wants) ∧
      (∀ j k (hj : j < calls.length) (hk : k < calls.length), j < k → k < j + 2 ^ 64 →
        Answered ((run (calls.take j) ⟨transport, 0⟩).call calls[j]).1 →
        Answered ((run (calls.take k) ⟨transport, 0⟩).call calls[k]).1 → got j ≠ got k) := by
  have each : ∀ k, ∃ sent got, ∀ h : k < calls.length,
      Exchange (UInt64.ofNat k) calls[k] (run (calls.take k) ⟨transport, 0⟩)
        ((run (calls.take k) ⟨transport, 0⟩).call calls[k]).1
        (run (calls.take (k + 1)) ⟨transport, 0⟩) sent got := by
    intro k
    by_cases h : k < calls.length
    · obtain ⟨sent, got, exchange⟩ := (run (calls.take k) ⟨transport, 0⟩).exchange calls[k]
      rw [nextId_run_take transport (Nat.le_of_lt h), ← run_take_succ h] at exchange
      exact ⟨sent, got, fun _ => exchange⟩
    · exact ⟨[], [], fun h' => absurd h' h⟩
  choose sent got exchange using each
  refine ⟨sent, got, exchange, ?_, ?_, ?_⟩
  · intro k le
    induction k with
    | zero => rfl
    | succ k ih =>
      have h : k < calls.length := le
      rw [ih (Nat.le_of_lt h), (exchange k h).unread, List.range_succ, List.flatMap_append,
        List.flatMap_singleton, List.append_assoc]
  · intro k h
    refine ⟨?_, invoke_of_answered, ?_⟩
    · rw [run_take_succ h, invoke_eq]
    · intro reply ok
      exact tag_of_invoke ok
  · intro j k hj hk less near
    exact frame_ne (exchange j hj) (exchange k hk) (ofNat_ne_of_near less near)

end Connection

end Wire

end RemoteSigner
