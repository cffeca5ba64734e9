import RemoteSigner.Proofs.Outcomes
import RemoteSigner.Proofs.Wire.Correlation
import RemoteSigner.Proofs.Wire.Sessions

/-!
# A signer at the other end of a stream

A client and a service are linked by two streams: each of them is handed what the other one has
written, in pieces of any size and with interruptions.  A call then gives what the provider itself
gives, as long as all requests and responses so far could be sent.  A request that can not be sent
is refused and leaves no trace but its number.  A response that can not be sent ends the session of
the service, so the client finds the end of the stream from there on.

## Main definitions

* `Provider.direct`: what a call gives where the provider is at hand
* `Linked`: a client and a service with the streams between them
* `Answerable`: all responses up to a call can be sent
* `Succeeds`: a provider gives some replies, and everything can be sent

## Main results

* `Linked.transparent`: every call of a client that is linked to a service
* `exists_linked`: a client and a service can be linked however their streams are cut
* `Linked.succeeds_iff`: sessions in which every call succeeds
-/

namespace RemoteSigner

open Wire

namespace Signer.Provider

variable (provider : Provider Id)

/-! ## The provider at hand -/

/-- What a call gives where the provider is at hand: the client's own arguments reach it, and to
sign, the digest has to have the length that the options ask for. -/
def direct : Call → Except Error Reply
  | .certificateChain => Except.map .certificateChain provider.certificateChain
  | .publicKey => Except.map .publicKey provider.publicKey
  | .sign args => match args.effectiveOpts with
    | none => Except.map .signature (provider.sign args.digest none)
    | some opts =>
      if args.digest.length = opts.algorithm.size then
        Except.map .signature (provider.sign args.digest (some opts))
      else .error (.digestLength args.digest.length opts.algorithm.size)
  | .encrypt args => Except.map .ciphertext (provider.encrypt args.data args.hash)
  | .decrypt args => Except.map .plaintext (provider.decrypt args.data args.hash)

/-- The response to a call. -/
def respond (id : UInt64) (call : Call) : Response :=
  match provider.direct call with
  | .ok reply => .ok id reply
  | .error error => .failed id error.message

theorem perform_eq (call : Call) : provider.perform call = provider.direct call := by
  cases call with
  | sign args =>
    rw [perform, direct, signArgs]
    cases args.effectiveOpts with
    | none => rfl
    | some opts =>
      by_cases len : args.digest.length = opts.algorithm.size
      · simp only [len, ne_eq, not_true_eq_false, if_false, if_true]
        rfl
      · simp only [len, ne_eq, not_false_eq_true, if_true, if_false]
        rfl
  | _ => rfl

theorem handle_eq (id : UInt64) (call : Call) :
    (provider.handle (Request.current id call)).run = provider.respond id call := by
  have answer : (provider.handle (Request.current id call)).run =
      match provider.perform call with
      | .ok reply => .ok id reply
      | .error error => .failed id error.message := rfl
  rw [answer, perform_eq]
  rfl

theorem outcome_respond (id : UInt64) (call : Call) :
    (provider.respond id call).outcome =
      (provider.direct call).mapError fun error => .remote error.message := by
  rw [respond]
  cases provider.direct call <;> rfl

theorem id_respond (id : UInt64) (call : Call) : (provider.respond id call).id = id := by
  rw [respond]
  cases provider.direct call <;> rfl

/-- The provider gives a reply of the kind that belongs to the call. -/
theorem tag_direct {call : Call} {reply : Reply} (ok : provider.direct call = .ok reply) :
    reply.tag = call.wants := by
  cases call with
  | sign args =>
    rw [direct] at ok
    split at ok
    · obtain ⟨octets, -, rfl⟩ := map_eq_ok_iff.mp ok
      rfl
    · split at ok
      · obtain ⟨octets, -, rfl⟩ := map_eq_ok_iff.mp ok
        rfl
      · cases ok
  | _ =>
    obtain ⟨a, -, rfl⟩ := map_eq_ok_iff.mp ok
    rfl

end Signer.Provider

/-! ## What is sent -/

namespace Wire

/-- The requests of some calls that can be sent, numbered from `id` on. -/
def sentRequests : UInt64 → List Call → List Request
  | _, [] => []
  | id, call :: calls =>
    if Frame.Fits (Request.current id call) then
      Request.current id call :: sentRequests (id + 1) calls
    else sentRequests (id + 1) calls

/-- The responses to these requests, up to the first one that can not be sent. -/
def sentResponses (provider : Signer.Provider Id) : UInt64 → List Call → List Response
  | _, [] => []
  | id, call :: calls =>
    if Frame.Fits (Request.current id call) then
      if Frame.Fits (provider.respond id call) then
        provider.respond id call :: sentResponses provider (id + 1) calls
      else []
    else sentResponses provider (id + 1) calls

theorem fits_sentRequests {id : UInt64} {calls : List Call} :
    ∀ request ∈ sentRequests id calls, Frame.Fits request := by
  induction calls generalizing id with
  | nil => nofun
  | cons call calls ih =>
    rw [sentRequests]
    split
    · next fits => exact List.forall_mem_cons.mpr ⟨fits, ih⟩
    · exact ih

/-- What is sent are the requests of calls with their numbers.  The numbers of the later calls are
counted from the next number on. -/
theorem exists_of_mem_sentRequests {id : UInt64} {calls : List Call} {request : Request}
    (mem : request ∈ sentRequests id calls) :
    ∃ k call, calls[k]? = some call ∧ request = .current (id + UInt64.ofNat k) call := by
  induction calls generalizing id with
  | nil => cases mem
  | cons call calls ih =>
    have later (mem : request ∈ sentRequests (id + 1) calls) : ∃ k call',
        (call :: calls)[k]? = some call' ∧ request = .current (id + UInt64.ofNat k) call' := by
      obtain ⟨k, call', h, rfl⟩ := ih mem
      refine ⟨k + 1, call', h, ?_⟩
      rw [UInt64.ofNat_add, UInt64.add_comm (UInt64.ofNat k), ← UInt64.add_assoc]
      rfl
    rw [sentRequests] at mem
    split at mem
    · rcases List.mem_cons.mp mem with rfl | mem
      · exact ⟨0, call, rfl, congrArg (Request.current · call) (UInt64.add_zero id).symm⟩
      · exact later mem
    · exact later mem

namespace Connection

variable {call : Call} {c : Connection}

/-- A request that can not be sent leaves no trace but its number. -/
theorem call_refused (large : ¬ Frame.Fits (Request.current c.nextId call)) :
    c.call call = (.error (.frameTooLarge
      (Message.encode (Request.current c.nextId call)).length Frame.maxLength),
        ⟨c.transport, c.nextId + 1⟩) := by
  simp only [Connection.call, Transport.send, Frame.write_tooLarge large]

/-- What a call makes of what it has received. -/
def judge (id : UInt64) : Except Error (Option Response) → Except Error Reply
  | .error error => .error error
  | .ok none => .error .connectionClosed
  | .ok (some response) => accept id response

/-- A request that can be sent is taken by a patient sink, and then the response is read. -/
theorem call_sent (fits : Frame.Fits (Request.current c.nextId call))
    (patient : c.transport.sink.Patient) :
    ∃ left, c.transport.sink.Took (Frame.ofMessage (Request.current c.nextId call)) 1 left ∧
      c.call call = (judge c.nextId (Frame.read Response c.transport.source).1,
        ⟨⟨(Frame.read Response c.transport.source).2, left⟩, c.nextId + 1⟩) := by
  obtain ⟨left, wrote, took⟩ := Frame.write_patient fits patient
  refine ⟨left, took, ?_⟩
  rcases read : Frame.read Response c.transport.source with ⟨error | _ | response, source⟩ <;>
    simp only [Connection.call, Transport.send, wrote, Transport.receive, read] <;> rfl

theorem nextId_call (call : Call) (c : Connection) : (c.call call).2.nextId = c.nextId + 1 := by
  obtain ⟨sent, got, exchange⟩ := c.exchange call
  exact exchange.number

theorem run_cons (call : Call) (calls : List Call) (c : Connection) :
    c.run (call :: calls) = (c.call call).2.run calls := rfl

/-- A patient sink takes the requests of all calls that can be sent, whatever is received.  Each
call sends its request, or nothing. -/
theorem run_took (calls : List Call) {c : Connection} (patient : c.transport.sink.Patient) :
    ∃ flushes, c.transport.sink.Took (Frame.framesOf (sentRequests c.nextId calls)) flushes
      (c.run calls).transport.sink := by
  induction calls generalizing c with
  | nil => exact ⟨0, .refl patient⟩
  | cons call calls ih =>
    rw [run_cons, sentRequests]
    split
    · next fits =>
      obtain ⟨left, took, run⟩ := call_sent fits patient
      obtain ⟨flushes, tookMore⟩ := ih (c := (c.call call).2) (by rw [run]; exact took.patient)
      rw [run] at tookMore ⊢
      refine ⟨1 + flushes, ?_⟩
      rw [Frame.framesOf_cons]
      exact took.trans tookMore
    · next large =>
      rw [call_refused large]
      exact ih (c := ⟨c.transport, c.nextId + 1⟩) patient

end Connection

theorem run_respondAll_cons (handle : Request → Id Response) (request : Request)
    (requests : List Request) (sink : Sink) :
    Id.run (Transport.respondAll handle (request :: requests) sink) =
      match Frame.write (handle request).run sink with
      | (.error error, sink) => (.error error, sink)
      | (.ok (), sink) => Id.run (Transport.respondAll handle requests sink) := by
  change (match Frame.write (handle request).run sink with
    | (.error error, sink) => (pure (Except.error error, sink) : Id _)
    | (.ok (), sink) => Transport.respondAll handle requests sink) = _
  split <;> rfl

/-- A patient sink takes the responses of a service up to the first one that can not be sent.  Calls
that can not be sent play no part. -/
theorem respondAll_sent (provider : Signer.Provider Id) (id : UInt64) (calls : List Call)
    {sink : Sink} (patient : sink.Patient) :
    (Id.run (Transport.respondAll provider.handle (sentRequests id calls) sink)).2.written =
      sink.written ++ Frame.framesOf (sentResponses provider id calls) := by
  induction calls generalizing id sink with
  | nil => exact (List.append_nil _).symm
  | cons call calls ih =>
    rw [sentRequests, sentResponses]
    split
    · rw [run_respondAll_cons, provider.handle_eq]
      by_cases fits : Frame.Fits (provider.respond id call)
      · obtain ⟨left, wrote, took⟩ := Frame.write_patient fits patient
        rw [wrote, if_pos fits, Frame.framesOf_cons, ← List.append_assoc, ← took.written]
        exact ih (id + 1) took.patient
      · rw [Frame.write_tooLarge fits, if_neg fits]
        exact (List.append_nil _).symm
    · exact ih (id + 1) patient

/-- A service that is handed the requests of some calls writes the responses that can be sent. -/
theorem serve_sent (provider : Signer.Provider Id) (id : UInt64) (calls : List Call)
    {signer : Transport} (patient : signer.sink.Patient)
    (delivers : signer.source.Delivers (Frame.framesOf (sentRequests id calls))) :
    (Id.run (provider.serve signer)).2.sink.written =
      signer.sink.written ++ Frame.framesOf (sentResponses provider id calls) := by
  have run := provider.serve_run (Frame.starts_framesOf fits_sentRequests) .finished delivers
  exact (congrArg (fun p : Id _ => (Id.run p).2.written) run).trans
    (respondAll_sent provider id calls patient)

/-! ## Client and service -/

/-- A client that makes some calls, and a service that is linked to it: each of them is handed what
the other one writes, however the streams are cut and interrupted, and its sink is patient. -/
structure Linked (provider : Signer.Provider Id) (calls : List Call) (client : Connection)
    (signer : Transport) : Prop where
  clientSink : client.transport.sink.Patient
  signerSink : signer.sink.Patient
  requests : ∃ octets, signer.source.Delivers octets ∧
    (client.run calls).transport.sink.written = client.transport.sink.written ++ octets
  responses : ∃ octets, client.transport.source.Delivers octets ∧
    (Id.run (provider.serve signer)).2.sink.written = signer.sink.written ++ octets

/-- What the streams of a client and a service have to hand over. -/
theorem linked_iff {provider : Signer.Provider Id} {calls : List Call} {client : Connection}
    {signer : Transport} (clientSink : client.transport.sink.Patient)
    (signerSink : signer.sink.Patient) :
    Linked provider calls client signer ↔
      signer.source.Delivers (Frame.framesOf (sentRequests client.nextId calls)) ∧
      client.transport.source.Delivers
        (Frame.framesOf (sentResponses provider client.nextId calls)) := by
  obtain ⟨flushes, took⟩ := client.run_took calls clientSink
  constructor
  · intro linked
    obtain ⟨octets, requests, written⟩ := linked.requests
    obtain rfl := List.append_cancel_left (written.symm.trans took.written)
    obtain ⟨octets, responses, written⟩ := linked.responses
    have sent := serve_sent provider client.nextId calls signerSink requests
    obtain rfl := List.append_cancel_left (written.symm.trans sent)
    exact ⟨requests, responses⟩
  · rintro ⟨requests, responses⟩
    exact ⟨clientSink, signerSink, ⟨_, requests, took.written⟩,
      ⟨_, responses, serve_sent provider client.nextId calls signerSink requests⟩⟩

/-- A client and a service can be linked, whatever the calls and the provider. -/
theorem exists_linked (provider : Signer.Provider Id) (calls : List Call) (id : UInt64) :
    ∃ client signer, client.nextId = id ∧ Linked provider calls client signer := by
  obtain ⟨requests, handsOver⟩ := Frame.exists_delivers (Frame.framesOf (sentRequests id calls))
  obtain ⟨responses, answers⟩ :=
    Frame.exists_delivers (Frame.framesOf (sentResponses provider id calls))
  refine ⟨⟨⟨responses, {}⟩, id⟩, ⟨requests, {}⟩, rfl, ?_⟩
  have patient : ({} : Sink).Patient := Sink.patient_of_nil rfl rfl
  exact (linked_iff patient patient).mpr ⟨handsOver, answers⟩

/-- A client whose source hands over the responses to its calls is linked to a service. -/
theorem exists_service {provider : Signer.Provider Id} {calls : List Call} {client : Connection}
    (patient : client.transport.sink.Patient) (answers : client.transport.source.Delivers
      (Frame.framesOf (sentResponses provider client.nextId calls))) :
    ∃ signer, Linked provider calls client signer := by
  obtain ⟨requests, handsOver⟩ := Frame.exists_delivers (Frame.framesOf
    (sentRequests client.nextId calls))
  have served : ({} : Sink).Patient := Sink.patient_of_nil rfl rfl
  exact ⟨⟨requests, {}⟩, (linked_iff patient served).mpr ⟨handsOver, answers⟩⟩

/-- The responses to the first `n` calls can be sent, where there are any. -/
def Answerable (provider : Signer.Provider Id) (id : UInt64) (calls : List Call) (n : Nat) : Prop :=
  ∀ j < n, ∀ call, calls[j]? = some call →
    Frame.Fits (Request.current (id + UInt64.ofNat j) call) →
      Frame.Fits (provider.respond (id + UInt64.ofNat j) call)

theorem answerable_succ (provider : Signer.Provider Id) (id : UInt64) {calls : List Call} {k : Nat}
    {call : Call} (h : calls[k]? = some call) :
    Answerable provider id calls (k + 1) ↔ Answerable provider id calls k ∧
      (Frame.Fits (Request.current (id + UInt64.ofNat k) call) →
        Frame.Fits (provider.respond (id + UInt64.ofNat k) call)) := by
  constructor
  · intro all
    exact ⟨fun j less => all j (Nat.lt_succ_of_lt less), all k (Nat.lt_succ_self k) call h⟩
  · rintro ⟨before, last⟩ j less call' h'
    rcases Nat.lt_succ_iff_lt_or_eq.mp less with less | rfl
    · exact before j less call' h'
    · obtain rfl := Option.some.inj (h.symm.trans h')
      exact last

/-- A service is done where the requests of its client end, if all responses can be sent. -/
theorem Linked.serve_eq_ok {provider : Signer.Provider Id} {calls : List Call}
    {client : Connection} {signer : Transport} (linked : Linked provider calls client signer)
    (all : ∀ n, Answerable provider client.nextId calls n) :
    (Id.run (provider.serve signer)).1 = .ok () := by
  obtain ⟨delivers, -⟩ := (linked_iff linked.clientSink linked.signerSink).mp linked
  have fit : ∀ request ∈ sentRequests client.nextId calls,
      Yields Frame.Fits (provider.handle request) := by
    intro request mem
    have sent := fits_sentRequests request mem
    obtain ⟨k, call, h, rfl⟩ := exists_of_mem_sentRequests mem
    exact ⟨pure ⟨_, all (k + 1) k (Nat.lt_succ_self k) call h sent⟩,
      (provider.handle_eq _ call).symm⟩
  have run := provider.serve_written (Frame.starts_framesOf fits_sentRequests) .finished delivers
  rw [Transport.respondAll_patient fit linked.signerSink] at run
  exact congrArg (fun p : Id _ => (Id.run p).1) run

/-- What call `k` gives a client. -/
structure Transparent (provider : Signer.Provider Id) (id : UInt64) (calls : List Call) (k : Nat)
    (call : Call) (c : Connection) : Prop where
  /-- A request that can not be sent is refused, and leaves no trace but its number. -/
  refused : ¬ Frame.Fits (Request.current (id + UInt64.ofNat k) call) → c.invoke call =
    (.error (.frameTooLarge
      (Message.encode (Request.current (id + UInt64.ofNat k) call)).length Frame.maxLength),
        ⟨c.transport, c.nextId + 1⟩)
  /-- As long as all responses can be sent, a call gives what the provider gives. -/
  answered : Frame.Fits (Request.current (id + UInt64.ofNat k) call) →
    Answerable provider id calls (k + 1) → (c.invoke call).1 =
      (provider.direct call).mapError fun error => .remote error.message
  /-- From the first response on that can not be sent, the client finds the end of the stream. -/
  closed : Frame.Fits (Request.current (id + UInt64.ofNat k) call) →
    ¬ Answerable provider id calls (k + 1) → (c.invoke call).1 = .error .connectionClosed

/-! ## One call after the other -/

namespace Connection

variable {provider : Signer.Provider Id} {call : Call} {c : Connection} {rest : Bytes}

/-- A call takes its response from a source that hands it over next. -/
theorem call_answered (fits : Frame.Fits (Request.current c.nextId call))
    (answers : Frame.Fits (provider.respond c.nextId call)) (patient : c.transport.sink.Patient)
    (delivers : c.transport.source.Delivers
      (Frame.ofMessage (provider.respond c.nextId call) ++ rest)) :
    (c.invoke call).1 = ((provider.direct call).mapError fun error => .remote error.message) ∧
      (c.call call).2.transport.sink.Patient ∧ (c.call call).2.transport.source.Delivers rest := by
  obtain ⟨left, took, run⟩ := call_sent fits patient
  obtain ⟨source, delivers, read⟩ :=
    Frame.read_message delivers answers (Message.decode_encode _ trivial)
  rw [read] at run
  refine ⟨?_, by rw [run]; exact took.patient, by rw [run]; exact delivers⟩
  have number : (provider.respond c.nextId call).id = c.nextId := provider.id_respond c.nextId call
  rw [invoke_eq, run, judge, accept, if_neg (not_not_intro number), provider.outcome_respond]
  rcases given : provider.direct call with error | reply
  · rfl
  · exact if_pos (provider.tag_direct given)

/-- A call finds the end of a source that has nothing left. -/
theorem call_closed (fits : Frame.Fits (Request.current c.nextId call))
    (patient : c.transport.sink.Patient) (delivers : c.transport.source.Delivers []) :
    (c.invoke call).1 = .error .connectionClosed ∧ (c.call call).2.transport.sink.Patient ∧
      (c.call call).2.transport.source.Delivers [] := by
  obtain ⟨left, took, run⟩ := call_sent fits patient
  obtain ⟨source, delivers, read⟩ := Frame.read_finished (α := Response) delivers
  rw [read] at run
  refine ⟨?_, by rw [run]; exact took.patient, by rw [run]; exact delivers⟩
  rw [invoke_eq, run]
  rfl

end Connection

/-- A client after `k` of its calls: its source still has the responses to the others, unless a
response could not be sent. -/
structure InStep (provider : Signer.Provider Id) (id : UInt64) (calls : List Call) (k : Nat)
    (c : Connection) : Prop where
  number : c.nextId = id + UInt64.ofNat k
  patient : c.transport.sink.Patient
  answers : Answerable provider id calls k → c.transport.source.Delivers
    (Frame.framesOf (sentResponses provider c.nextId (calls.drop k)))
  ended : ¬ Answerable provider id calls k → c.transport.source.Delivers []

namespace InStep

variable {provider : Signer.Provider Id} {id : UInt64} {calls : List Call} {k : Nat} {call : Call}
  {c : Connection}

theorem number_succ (inStep : InStep provider id calls k c) (call : Call) :
    (c.call call).2.nextId = id + UInt64.ofNat (k + 1) := by
  rw [Connection.nextId_call, inStep.number, UInt64.ofNat_add, UInt64.add_assoc]
  rfl

/-- The source of a client still has the responses to a call and to those after it. -/
theorem answers_next (inStep : InStep provider id calls k c) (h : calls[k]? = some call)
    (before : Answerable provider id calls k) : c.transport.source.Delivers
      (Frame.framesOf (sentResponses provider c.nextId (call :: calls.drop (k + 1)))) := by
  obtain ⟨less, rfl⟩ := List.getElem?_eq_some_iff.mp h
  rw [← List.drop_eq_getElem_cons less]
  exact inStep.answers before

/-- A request that can not be sent touches neither stream. -/
theorem refused (inStep : InStep provider id calls k c) (h : calls[k]? = some call)
    (large : ¬ Frame.Fits (Request.current c.nextId call)) :
    InStep provider id calls (k + 1) (c.call call).2 := by
  have number := inStep.number_succ call
  have answerable := answerable_succ provider id h
  rw [← inStep.number] at answerable
  rw [Connection.call_refused large] at number ⊢
  constructor
  · exact number
  · exact inStep.patient
  · intro all
    have delivers := inStep.answers_next h (answerable.mp all).1
    rwa [sentResponses, if_neg large] at delivers
  · intro none
    apply inStep.ended
    intro before
    exact none (answerable.mpr ⟨before, fun fits => absurd fits large⟩)

/-- The response to a call is what the source hands over next. -/
theorem answered (inStep : InStep provider id calls k c) (h : calls[k]? = some call)
    (fits : Frame.Fits (Request.current c.nextId call))
    (all : Answerable provider id calls (k + 1)) :
    InStep provider id calls (k + 1) (c.call call).2 ∧
      (c.invoke call).1 = (provider.direct call).mapError fun error => .remote error.message := by
  have answerable := (answerable_succ provider id h).mp all
  rw [← inStep.number] at answerable
  obtain ⟨before, answers⟩ := answerable
  have delivers := inStep.answers_next h before
  rw [sentResponses, if_pos fits, if_pos (answers fits), Frame.framesOf_cons] at delivers
  obtain ⟨result, patient, left⟩ :=
    Connection.call_answered fits (answers fits) inStep.patient delivers
  refine ⟨⟨inStep.number_succ call, patient, ?_, fun none => absurd all none⟩, result⟩
  intro _
  rwa [Connection.nextId_call]

/-- Where the response to a call or to an earlier one can not be sent, the source has nothing
left. -/
theorem closed (inStep : InStep provider id calls k c) (h : calls[k]? = some call)
    (fits : Frame.Fits (Request.current c.nextId call))
    (none : ¬ Answerable provider id calls (k + 1)) :
    InStep provider id calls (k + 1) (c.call call).2 ∧
      (c.invoke call).1 = .error .connectionClosed := by
  have delivers : c.transport.source.Delivers [] := by
    by_cases before : Answerable provider id calls k
    · have large : ¬ Frame.Fits (provider.respond c.nextId call) := by
        intro answers
        apply none
        apply (answerable_succ provider id h).mpr
        rw [← inStep.number]
        exact ⟨before, fun _ => answers⟩
      have delivers := inStep.answers_next h before
      rwa [sentResponses, if_pos fits, if_neg large] at delivers
    · exact inStep.ended before
  obtain ⟨result, patient, left⟩ := Connection.call_closed fits inStep.patient delivers
  exact ⟨⟨inStep.number_succ call, patient, fun all => absurd all none, fun _ => left⟩, result⟩

/-- A call takes a client that is in step to the next step. -/
theorem succ (inStep : InStep provider id calls k c) (h : calls[k]? = some call) :
    InStep provider id calls (k + 1) (c.call call).2 := by
  by_cases fits : Frame.Fits (Request.current c.nextId call)
  · by_cases all : Answerable provider id calls (k + 1)
    · exact (inStep.answered h fits all).1
    · exact (inStep.closed h fits all).1
  · exact inStep.refused h fits

/-- A call of a client that is in step gives what it should. -/
theorem gives (inStep : InStep provider id calls k c) (h : calls[k]? = some call) :
    Transparent provider id calls k call c := by
  constructor
  · intro large
    rw [← inStep.number] at large ⊢
    rw [Connection.invoke_eq, Connection.call_refused large]
    rfl
  · intro fits all
    rw [← inStep.number] at fits
    exact (inStep.answered h fits all).2
  · intro fits none
    rw [← inStep.number] at fits
    exact (inStep.closed h fits none).2

/-- A client that is linked to a service is in step with it after any number of its calls.  At the
start, all responses are still to come. -/
theorem of_linked {client : Connection} {signer : Transport}
    (linked : Linked provider calls client signer) {k : Nat} (le : k ≤ calls.length) :
    InStep provider client.nextId calls k (client.run (calls.take k)) := by
  induction k with
  | zero =>
    obtain ⟨-, responses⟩ := (linked_iff linked.clientSink linked.signerSink).mp linked
    exact ⟨(UInt64.add_zero _).symm, linked.clientSink, fun _ => responses,
      fun none => absurd (fun j less => absurd less (Nat.not_lt_zero j)) none⟩
  | succ k ih =>
    have less : k < calls.length := le
    have inStep := ih (Nat.le_of_lt less)
    rw [Connection.run_take_succ less]
    exact inStep.succ (List.getElem?_eq_getElem less)

end InStep

/-- A call gives what it should behind all calls before it. -/
theorem Linked.gives {provider : Signer.Provider Id} {calls : List Call} {client : Connection}
    {signer : Transport} (linked : Linked provider calls client signer) {k : Nat} {call : Call}
    (h : calls[k]? = some call) :
    Transparent provider client.nextId calls k call (client.run (calls.take k)) := by
  obtain ⟨less, -⟩ := List.getElem?_eq_some_iff.mp h
  exact (InStep.of_linked linked (Nat.le_of_lt less)).gives h

/-- **A signer at the other end of two streams is as good as the provider at hand**: all calls of a
client that is linked to a service give what they should, one after the other. -/
theorem Linked.transparent {provider : Signer.Provider Id} {calls : List Call} {client : Connection}
    {signer : Transport} (linked : Linked provider calls client signer) {k : Nat} {call : Call}
    (h : calls[k]? = some call) :
    Transparent provider client.nextId calls k call (client.run (calls.take k)) ∧
      ((client.run (calls.take k)).invoke call).2 = client.run (calls.take (k + 1)) := by
  obtain ⟨less, rfl⟩ := List.getElem?_eq_some_iff.mp h
  constructor
  · exact linked.gives h
  · rw [Connection.run_take_succ less, Connection.invoke_eq]

/-- Octets that do not fit, between calls that do: they are refused without a trace but their
number, and the calls around them give what the provider gives. -/
theorem Linked.transparent_around_refusal :
    let provider : Signer.Provider Id :=
      { Signer.Provider.unableToSign "no key" with publicKey := pure (.ok [0x30, 0x00]) }
    let octets : Bytes := List.replicate 12582912 0
    let calls : List Call := [.publicKey, .decrypt ⟨⟨octets, .sha256⟩⟩, .sign ⟨[0x0A], none, none⟩,
      .encrypt ⟨⟨[0x0B], .sha1⟩⟩]
    ∃ client signer, Linked provider calls client signer ∧
      (client.invoke .publicKey).1 = .ok (.publicKey [0x30, 0x00]) ∧
      (client.run (calls.take 1)).invoke (.decrypt ⟨⟨octets, .sha256⟩⟩) =
        (.error (.frameTooLarge (Frame.maxLength + 91) Frame.maxLength),
          ⟨(client.run (calls.take 1)).transport, 2⟩) ∧
      ((client.run (calls.take 2)).invoke (.sign ⟨[0x0A], none, none⟩)).1 =
        .error (.remote "Wire protocol error:\nno key") ∧
      ((client.run (calls.take 3)).invoke (.encrypt ⟨⟨[0x0B], .sha1⟩⟩)).1 =
        .ok (.ciphertext [0x0B]) := by
  intro provider octets calls
  have length : octets.length = 12582912 := List.length_replicate
  clear_value octets
  have requestLength (octets : Bytes) :
      (Message.encode (Request.current 1 (.decrypt ⟨⟨octets, .sha256⟩⟩))).length =
        (octets.length + 2) / 3 * 4 + 91 := by
    have number : idLength 1 = 1 := by decide
    have keyword : (Json.quoted HashAlgorithm.sha256.keyword).length = 8 := by decide
    rw [Request.length_encode_current, Call.length_decrypt, number, keyword]
    change 1 + ((octets.length + 2) / 3 * 4 + 8 + 55) + 27 = _
    omega
  have longer : (Message.encode (Request.current 1 (.decrypt ⟨⟨octets, .sha256⟩⟩))).length =
      Frame.maxLength + 91 := by
    rw [requestLength, length]
    rfl
  have large : ¬ Frame.Fits (Request.current 1 (.decrypt ⟨⟨octets, .sha256⟩⟩)) := by
    rw [Frame.Fits, longer]
    omega
  have answers : Answerable provider 0 calls 4 := by
    intro j _ call h fits
    rcases j with _ | _ | _ | _ | j
    · obtain rfl := Option.some.inj h
      decide +kernel
    · obtain rfl := Option.some.inj h
      exact absurd fits large
    · obtain rfl := Option.some.inj h
      decide +kernel
    · obtain rfl := Option.some.inj h
      decide +kernel
    · cases h
  obtain ⟨client, signer, number, linked⟩ := exists_linked provider calls 0
  have first := (Linked.transparent linked (k := 0) rfl).1.answered
  have second := (Linked.transparent linked (k := 1) rfl).1.refused
  have third := (Linked.transparent linked (k := 2) rfl).1.answered
  have fourth := (Linked.transparent linked (k := 3) rfl).1.answered
  have counted := (InStep.of_linked linked (k := 1) (by decide : 1 ≤ 4)).number
  rw [number] at first second third fourth counted
  have upTo {n : Nat} (le : n ≤ 4) : Answerable provider 0 calls n :=
    fun j less => answers j (Nat.lt_of_lt_of_le less le)
  refine ⟨client, signer, linked, ?_, ?_, ?_, ?_⟩
  · exact first (by decide +kernel) (upTo (by decide))
  · rw [second large, counted, ← longer]
    rfl
  · exact third (by decide +kernel) (upTo (by decide))
  · exact fourth (by decide +kernel) (upTo (by decide))

/-! ## Sessions in which every call succeeds -/

/-- A call succeeds exactly if it is answered and the provider gives the reply. -/
theorem Transparent.ok_iff {provider : Signer.Provider Id} {id : UInt64} {calls : List Call}
    {k : Nat} {call : Call} {c : Connection} (gives : Transparent provider id calls k call c)
    {reply : Reply} : (c.invoke call).1 = .ok reply ↔
      Frame.Fits (Request.current (id + UInt64.ofNat k) call) ∧
        Answerable provider id calls (k + 1) ∧ provider.direct call = .ok reply := by
  by_cases fits : Frame.Fits (Request.current (id + UInt64.ofNat k) call)
  · by_cases all : Answerable provider id calls (k + 1)
    · rw [gives.answered fits all, mapError_eq_ok_iff]
      exact ⟨fun ok => ⟨fits, all, ok⟩, fun both => both.2.2⟩
    · rw [gives.closed fits all]
      exact ⟨nofun, fun both => absurd both.2.1 all⟩
  · rw [gives.refused fits]
    exact ⟨nofun, fun both => absurd both.1 fits⟩

/-- The provider gives these replies to these calls, and everything can be sent. -/
def Succeeds (provider : Signer.Provider Id) (id : UInt64) (exchanges : List (Call × Reply)) :
    Prop :=
  ∀ k call reply, exchanges[k]? = some (call, reply) →
    Frame.Fits (Request.current (id + UInt64.ofNat k) call) ∧
      Frame.Fits (Response.ok (id + UInt64.ofNat k) reply) ∧ provider.direct call = .ok reply

/-- All calls of a linked client succeed with some replies exactly if the provider gives these and
everything can be sent. -/
theorem Linked.succeeds_iff {provider : Signer.Provider Id} {exchanges : List (Call × Reply)}
    {client : Connection} {signer : Transport}
    (linked : Linked provider (exchanges.map Prod.fst) client signer) :
    Succeeds provider client.nextId exchanges ↔
      ∀ k call reply, exchanges[k]? = some (call, reply) →
        ((client.run ((exchanges.map Prod.fst).take k)).invoke call).1 = .ok reply := by
  have called {k : Nat} {call : Call} {reply : Reply} (h : exchanges[k]? = some (call, reply)) :
      (exchanges.map Prod.fst)[k]? = some call := by
    rw [List.getElem?_map, h]
    rfl
  have responds {id : UInt64} {call : Call} {reply : Reply}
      (ok : provider.direct call = .ok reply) : provider.respond id call = .ok id reply := by
    rw [Signer.Provider.respond, ok]
  constructor
  · intro succeeds k call reply h
    obtain ⟨fits, -, ok⟩ := succeeds k call reply h
    refine (linked.gives (called h)).ok_iff.mpr ⟨fits, ?_, ok⟩
    intro j _ call' h' _
    rw [List.getElem?_map] at h'
    obtain ⟨⟨call', reply'⟩, there, rfl⟩ := Option.map_eq_some_iff.mp h'
    obtain ⟨-, answers, ok'⟩ := succeeds j call' reply' there
    rw [responds ok']
    exact answers
  · intro gives k call reply h
    obtain ⟨fits, all, ok⟩ := (linked.gives (called h)).ok_iff.mp (gives k call reply h)
    have answers := all k (Nat.lt_succ_self k) call (called h) fits
    rw [responds ok] at answers
    exact ⟨fits, answers, ok⟩

/-! ## Behind a response that can not be sent -/

theorem length_le_length_quoted (s : String) :
    (Bytes.ofText s).length + 2 ≤ (Json.quoted s).length := by
  have escaped (b : UInt8) : 1 ≤ (Json.escaped b).length := by
    rw [Json.escaped]
    split_ifs <;> simp
  have flat (octets : Bytes) : octets.length ≤ (octets.flatMap Json.escaped).length := by
    induction octets with
    | nil => exact Nat.le_refl 0
    | cons b octets ih =>
      have := escaped b
      rw [List.flatMap_cons, List.length_append, List.length_cons]
      omega
  have := flat (Bytes.ofText s)
  simp only [Json.quoted, List.length_cons, List.length_append, List.length_nil]
  omega

/-- An error can be too long to be reported. -/
theorem not_fits_failed (id : UInt64) {message : String}
    (long : Frame.maxLength ≤ (Bytes.ofText message).length) :
    ¬ Frame.Fits (Response.failed id message) := by
  have quoted := length_le_length_quoted message
  rw [Frame.Fits, Response.length_encode_failed]
  omega

/-- Fitting requests and responses are not enough for a call: behind a response that can not be
sent, the service is gone.  Here a provider can not sign, and explains this in more octets than a
frame may have. -/
theorem not_transparent_behind_unfit :
    ¬ ∀ (provider : Signer.Provider Id) (calls : List Call) (client : Connection)
      (signer : Transport), Linked provider calls client signer →
        ∀ k call, calls[k]? = some call →
          Frame.Fits (Request.current (client.nextId + UInt64.ofNat k) call) →
          Frame.Fits (provider.respond (client.nextId + UInt64.ofNat k) call) →
            ((client.run (calls.take k)).invoke call).1 =
              (provider.direct call).mapError fun error => .remote error.message := by
  intro transparent
  let octets : Bytes := List.replicate Frame.maxLength 0x78
  let text := String.ofList (octets.map fun b => Char.ofNat b.toNat)
  let provider := Signer.Provider.unableToSign text
  let encrypt : Call := .encrypt ⟨⟨[], .sha256⟩⟩
  let calls : List Call := [.sign ⟨[], none, none⟩, encrypt]
  obtain ⟨client, signer, number, linked⟩ := exists_linked provider calls 0
  have given := transparent provider calls client signer linked 1 encrypt rfl
  have inStep := InStep.of_linked linked (k := 1) (by decide)
  have second : calls[1]? = some encrypt := rfl
  have closed := (inStep.gives second).closed
  rw [number] at given closed
  have request : Frame.Fits (Request.current (0 + UInt64.ofNat 1) encrypt) := by decide +kernel
  have response : Frame.Fits (provider.respond (0 + UInt64.ofNat 1) encrypt) := by
    change Frame.Fits (Response.ok (0 + UInt64.ofNat 1) (.ciphertext []))
    decide +kernel
  have ascii : ∀ b ∈ octets, b < 0x80 := by
    intro b mem
    rw [List.eq_of_mem_replicate mem]
    decide
  have long : Frame.maxLength ≤ (Bytes.ofText ("Wire protocol error:\n" ++ text)).length := by
    rw [Bytes.ofText_append, List.length_append, Bytes.ofText_ofList ascii, List.length_replicate]
    exact Nat.le_add_left ..
  have unanswered : ¬ Answerable provider 0 calls 2 := by
    intro all
    have fits := all 0 (by decide) _ rfl (by decide +kernel)
    exact not_fits_failed 0 long fits
  have same := (closed request unanswered).symm.trans (given request response)
  cases same

end Wire

end RemoteSigner
