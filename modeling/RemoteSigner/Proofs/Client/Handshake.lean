import RemoteSigner.Proofs.Client.Identity
import RemoteSigner.Proofs.Client.Lifecycle
import RemoteSigner.Proofs.Wire.Calls
import RemoteSigner.Proofs.Wire.RoundTrip

/-!
# Opening a key of any signer

Nothing is assumed here of a signer that has been started: it may hand over any octets.  Whether its
key is opened depends on the two frames at the start of these octets and on the two requests, and if
it is not, the error is that of the first step that failed.  The second request is sent only behind
a chain of certificates.  An opened key keeps what it was told, whatever it is used for, and its
uses go on numbering their requests.

## Main definitions

* `Introduces`: octets with which a key is opened
* `ChainArrives`, `OpeningFails`: the first step, and the step that fails
* `Key.Use.call`: the call that a use makes

## Main results

* `handshake_eq_ok_iff_introduces`, `handshake_eq_error_iff`: what the calls at the start come to
* `Key.spawn_opens`: when a started signer gives a key, and what the key is from then on
-/

namespace RemoteSigner.Client

open Wire

/-! ## The responses at the start -/

/-- The requests at the start. -/
def openingRequests : List Request := [.current 0 .certificateChain, .current 1 .publicKey]

/-- The octets of a signer with which a key is opened; the rest follows. -/
structure Introduces (octets : Bytes) (identity : Identity) (rest : Bytes) : Prop where
  /-- The first two frames are responses to the requests at the start. -/
  responses : Frame.Starts Response octets
    [.ok 0 (.certificateChain identity.chain), .ok 1 (.publicKey identity.publicKeyOctets)] rest
  /-- There is a certificate. -/
  one : identity.chain ≠ []
  /-- The public key can be decoded. -/
  decodes : PublicKey.decode identity.publicKeyOctets = .ok identity.publicKey

/-- The end that is written, behind the first request. -/
def asked (sink : Sink) : Sink := (Frame.write (Request.current 0 .certificateChain) sink).2

/-- The first call gives certificates, of which there is one at least. -/
structure ChainArrives (sink : Sink) (octets : Bytes) (chain : List Bytes) (rest : Bytes) :
    Prop where
  /-- The call succeeds. -/
  gives : CallGives 0 .certificateChain sink octets (.certificateChain chain) rest
  /-- There is a certificate. -/
  one : chain ≠ []

/-- Why a key is not opened: the first step that fails. -/
inductive OpeningFails (sink : Sink) (octets : Bytes) : Error → Prop
  /-- The call for the certificates fails. -/
  | chain {error : Wire.Error} (fails : CallFails 0 .certificateChain sink octets error) :
      OpeningFails sink octets (.call .certificateChain error)
  /-- There are no certificates. -/
  | emptyChain {rest : Bytes}
      (gives : CallGives 0 .certificateChain sink octets (.certificateChain []) rest) :
      OpeningFails sink octets .emptyCertificateChain
  /-- The call for the public key fails. -/
  | key {chain : List Bytes} {rest : Bytes} {error : Wire.Error}
      (arrives : ChainArrives sink octets chain rest)
      (fails : CallFails 1 .publicKey (asked sink) rest error) :
      OpeningFails sink octets (.call .publicKey error)
  /-- The public key is no key with an algorithm. -/
  | malformed {chain : List Bytes} {rest told behind : Bytes}
      (arrives : ChainArrives sink octets chain rest)
      (gives : CallGives 1 .publicKey (asked sink) rest (.publicKey told) behind)
      (undecodable : PublicKey.decode told = .error .malformed) :
      OpeningFails sink octets (.publicKey told)
  /-- The algorithm of the public key is not supported. -/
  | unsupported {chain : List Bytes} {rest told behind : Bytes} {algorithm : Der.Identifier}
      (arrives : ChainArrives sink octets chain rest)
      (gives : CallGives 1 .publicKey (asked sink) rest (.publicKey told) behind)
      (undecodable : PublicKey.decode told = .error (.unsupported algorithm)) :
      OpeningFails sink octets (.unsupportedPublicKey algorithm.text)

/-- Octets with which a key is opened, taken apart: the certificates arrive, and then a public key
that can be decoded. -/
theorem introduces_iff {sink : Sink} {octets rest : Bytes} {identity : Identity} :
    (Frame.writeEach openingRequests sink).1 = .ok () ∧ Introduces octets identity rest ↔
      ∃ between, ChainArrives sink octets identity.chain between ∧
        CallGives 1 .publicKey (asked sink) between (.publicKey identity.publicKeyOctets) rest ∧
        PublicKey.decode identity.publicKeyOctets = .ok identity.publicKey := by
  simp only [openingRequests, Frame.writeEach_cons_eq_ok_iff]
  constructor
  · rintro ⟨⟨first, second, -⟩, responses, one, decodes⟩
    obtain ⟨between, chain, key⟩ := Frame.starts_cons_iff.mp responses
    exact ⟨between, ⟨⟨first, chain, rfl⟩, one⟩, ⟨second, key, rfl⟩, decodes⟩
  · rintro ⟨between, ⟨chain, one⟩, key, decodes⟩
    exact ⟨⟨chain.sent, key.sent, rfl⟩,
      Frame.starts_cons_iff.mpr ⟨between, chain.response, key.response⟩, one, decodes⟩

theorem exists_chain_of_wanted {reply : Reply} (wanted : reply.tag = Call.certificateChain.wants) :
    ∃ chain, reply = .certificateChain chain := by
  cases reply with
  | certificateChain chain => exact ⟨chain, rfl⟩
  | publicKey | signature | ciphertext | plaintext => cases wanted

theorem exists_publicKey_of_wanted {reply : Reply} (wanted : reply.tag = Call.publicKey.wants) :
    ∃ told, reply = .publicKey told := by
  cases reply with
  | publicKey told => exact ⟨told, rfl⟩
  | certificateChain | signature | ciphertext | plaintext => cases wanted

/-- A key is opened, or there is a first step that fails.  So it is enough to know what each of the
two leads to. -/
theorem introduces_or_fails (sink : Sink) (octets : Bytes) :
    ((Frame.writeEach openingRequests sink).1 = .ok () ∧
      ∃ identity rest, Introduces octets identity rest) ∨
      ∃ error, OpeningFails sink octets error := by
  rcases gives_or_fails 0 .certificateChain sink octets with
    ⟨reply, between, gives⟩ | ⟨error, fails⟩
  swap
  · exact .inr ⟨_, .chain fails⟩
  obtain ⟨chain, rfl⟩ := exists_chain_of_wanted gives.wanted
  by_cases one : chain = []
  · subst one
    exact .inr ⟨_, .emptyChain gives⟩
  have arrives : ChainArrives sink octets chain between := ⟨gives, one⟩
  rcases gives_or_fails 1 .publicKey (asked sink) between with
    ⟨reply, rest, gives⟩ | ⟨error, fails⟩
  swap
  · exact .inr ⟨_, .key arrives fails⟩
  obtain ⟨told, rfl⟩ := exists_publicKey_of_wanted gives.wanted
  rcases decoded : PublicKey.decode told with (_ | algorithm) | key
  · exact .inr ⟨_, .malformed arrives gives decoded⟩
  · exact .inr ⟨_, .unsupported arrives gives decoded⟩
  · have opened : _ ∧ Introduces octets ⟨chain, key, told⟩ rest :=
      introduces_iff.mpr ⟨between, arrives, gives, decoded⟩
    exact .inl ⟨opened.1, _, rest, opened.2⟩

/-! ## The calls at the start -/

section Calls

variable {transport : Transport} {octets rest : Bytes}

theorem certificateChain_of_gives {chain : List Bytes} (delivers : transport.source.Delivers octets)
    (gives : CallGives 0 .certificateChain transport.sink octets (.certificateChain chain) rest) :
    ∃ left : Source, left.Delivers rest ∧ Connection.certificateChain ⟨transport, 0⟩ =
      (.ok chain, ⟨⟨left, asked transport.sink⟩, 1⟩) :=
  Connection.method_of_gives Connection.certificateChain
    (fun _ _ same => Reply.certificateChain.inj same) (Connection.invoke_certificateChain _)
    delivers gives

/-- Behind the certificates the public key counts. -/
theorem handshake_of_arrives {chain : List Bytes} (delivers : transport.source.Delivers octets)
    (arrives : ChainArrives transport.sink octets chain rest) :
    ∃ left : Source, left.Delivers rest ∧ handshake ⟨transport, 0⟩ =
      ((acceptKey (Connection.publicKey ⟨⟨left, asked transport.sink⟩, 1⟩).1).map fun (key, told) =>
        ⟨chain, key, told⟩, (Connection.publicKey ⟨⟨left, asked transport.sink⟩, 1⟩).2) := by
  obtain ⟨left, behind, run⟩ := certificateChain_of_gives delivers arrives.gives
  refine ⟨left, behind, ?_⟩
  simp only [handshake, run, acceptChain_eq_ok_iff.mpr ⟨rfl, arrives.one⟩]

theorem publicKey_of_gives {source : Source} {sink : Sink} {told behind : Bytes}
    (delivers : source.Delivers rest)
    (gives : CallGives 1 .publicKey sink rest (.publicKey told) behind) :
    (Connection.publicKey ⟨⟨source, sink⟩, 1⟩).1 = .ok told := by
  obtain ⟨left, -, run⟩ := Connection.method_of_gives Connection.publicKey
    (fun _ _ same => Reply.publicKey.inj same)
    (Connection.invoke_publicKey ⟨⟨source, sink⟩, 1⟩) delivers gives
  rw [run]

theorem handshake_of_introduces {identity : Identity}
    (delivers : transport.source.Delivers octets)
    (sent : (Frame.writeEach openingRequests transport.sink).1 = .ok ())
    (introduces : Introduces octets identity rest) :
    (handshake ⟨transport, 0⟩).1 = .ok identity := by
  obtain ⟨between, arrives, gives, decodes⟩ := introduces_iff.mp ⟨sent, introduces⟩
  obtain ⟨left, behind, run⟩ := handshake_of_arrives delivers arrives
  rw [run, publicKey_of_gives behind gives, acceptKey_eq_ok_iff.mpr ⟨rfl, decodes⟩]
  rfl

/-- The first step that fails gives the error. -/
theorem handshake_of_fails {error : Error} (delivers : transport.source.Delivers octets)
    (fails : OpeningFails transport.sink octets error) :
    (handshake ⟨transport, 0⟩).1 = .error error := by
  cases fails with
  | chain fails =>
    have failed := Connection.method_of_fails Connection.certificateChain
      (Connection.invoke_certificateChain ⟨transport, 0⟩) delivers fails
    rw [handshake_fst, failed]
    rfl
  | emptyChain gives =>
    obtain ⟨left, -, run⟩ := certificateChain_of_gives delivers gives
    rw [handshake_fst, run]
    rfl
  | key arrives fails =>
    obtain ⟨left, behind, run⟩ := handshake_of_arrives delivers arrives
    have failed := Connection.method_of_fails Connection.publicKey
      (Connection.invoke_publicKey ⟨⟨left, asked transport.sink⟩, 1⟩) behind fails
    rw [run, failed]
    rfl
  | malformed arrives gives undecodable =>
    obtain ⟨left, behind, run⟩ := handshake_of_arrives delivers arrives
    rw [run, publicKey_of_gives behind gives, acceptKey_of_malformed undecodable]
    rfl
  | unsupported arrives gives undecodable =>
    obtain ⟨left, behind, run⟩ := handshake_of_arrives delivers arrives
    rw [run, publicKey_of_gives behind gives, acceptKey_of_unsupported undecodable]
    rfl

/-- **When the calls at the start give an identity**, and which one. -/
theorem handshake_eq_ok_iff_introduces {identity : Identity}
    (delivers : transport.source.Delivers octets) :
    (handshake ⟨transport, 0⟩).1 = .ok identity ↔
      (Frame.writeEach openingRequests transport.sink).1 = .ok () ∧
        ∃ rest, Introduces octets identity rest := by
  constructor
  · intro found
    rcases introduces_or_fails transport.sink octets with
      ⟨sent, identity', rest, introduces⟩ | ⟨error, fails⟩
    · have opened := handshake_of_introduces delivers sent introduces
      obtain rfl := Except.ok.inj (opened.symm.trans found)
      exact ⟨sent, rest, introduces⟩
    · cases (handshake_of_fails delivers fails).symm.trans found
  · rintro ⟨sent, rest, introduces⟩
    exact handshake_of_introduces delivers sent introduces

/-- **Why the calls at the start give no identity**: because of the first step that fails. -/
theorem handshake_eq_error_iff {error : Error} (delivers : transport.source.Delivers octets) :
    (handshake ⟨transport, 0⟩).1 = .error error ↔ OpeningFails transport.sink octets error := by
  refine ⟨fun failed => ?_, handshake_of_fails delivers⟩
  rcases introduces_or_fails transport.sink octets with
    ⟨sent, identity, rest, introduces⟩ | ⟨error', fails⟩
  · cases (handshake_of_introduces delivers sent introduces).symm.trans failed
  · obtain rfl := Except.error.inj ((handshake_of_fails delivers fails).symm.trans failed)
    exact fails

/-! ## What is sent at the start -/

/-- Both requests are sent behind certificates. -/
theorem sink_handshake_of_arrives {chain : List Bytes}
    (delivers : transport.source.Delivers octets)
    (arrives : ChainArrives transport.sink octets chain rest) :
    (handshake ⟨transport, 0⟩).2.transport.sink =
      (Frame.writeEach openingRequests transport.sink).2 := by
  obtain ⟨left, -, run⟩ := handshake_of_arrives delivers arrives
  have alone : (Frame.writeEach [Request.current 1 .publicKey] (asked transport.sink)).2 =
      (Frame.write (Request.current 1 .publicKey) (asked transport.sink)).2 := by
    rcases wrote : Frame.write (Request.current 1 .publicKey) (asked transport.sink) with
      ⟨error | _, sink⟩ <;> simp only [Frame.writeEach, wrote]
  rw [run, openingRequests, Frame.writeEach_cons_of_ok arrives.gives.sent, ← asked, alone,
    Connection.snd_publicKey, Connection.sink_call]

/-- Without certificates only the first request is sent.  An accepted chain would have arrived. -/
theorem sink_handshake_of_not_arrives (delivers : transport.source.Delivers octets)
    (none : ∀ chain rest, ¬ ChainArrives transport.sink octets chain rest) :
    (handshake ⟨transport, 0⟩).2.transport.sink = asked transport.sink := by
  have first : (Connection.certificateChain ⟨transport, 0⟩).2.transport.sink =
      asked transport.sink := by
    rw [Connection.snd_certificateChain, Connection.sink_call, asked]
  cases accepted : acceptChain (Connection.certificateChain ⟨transport, 0⟩).1 with
  | error error => simp only [handshake, accepted, first]
  | ok chain =>
    obtain ⟨told, one⟩ := acceptChain_eq_ok_iff.mp accepted
    have reply : (Connection.invoke .certificateChain ⟨transport, 0⟩).1 =
        .ok (.certificateChain chain) := by
      rw [Connection.invoke_certificateChain]
      exact map_eq_ok_iff.mpr ⟨chain, told, rfl⟩
    obtain ⟨rest, gives⟩ := (Connection.invoke_eq_ok_iff delivers).mp reply
    exact absurd ⟨gives, one⟩ (none chain rest)

end Calls

namespace Key

/-! ## The key of a child -/

/-- The child that a start leaves behind: that of the key, or one that has been given up. -/
def leaves : Except Failure Key → Option Child
  | .ok key => some key.child
  | .error failure => failure.child

/-- Giving a child up writes nothing. -/
theorem written_abandon (child : Child) :
    child.abandon.connection.transport.sink.written = child.connection.transport.sink.written := by
  have reaped (child : Child) : child.reap.connection = child.connection := by
    unfold Child.reap Child.wait Child.kill
    split_ifs <;> rfl
  rw [Child.abandon, reaped]
  rfl

theorem leaves_ofChild (child : Child) : ∃ left, leaves (ofChild child) = some left ∧
    left.connection.transport.sink.written =
      (handshake child.connection).2.transport.sink.written := by
  rw [ofChild]
  rcases handshake child.connection with ⟨error | identity, c⟩
  · exact ⟨_, rfl, written_abandon _⟩
  · exact ⟨_, rfl, rfl⟩

/-- A key is opened with an identity exactly if the calls at the start give it. -/
theorem ofChild_toIdentity_iff {child : Child} {identity : Identity} :
    (∃ key, ofChild child = .ok key ∧ key.toIdentity = identity) ↔
      (handshake child.connection).1 = .ok identity := by
  constructor
  · rintro ⟨key, opened, rfl⟩
    exact (ofChild_eq_ok_iff.mp opened).1
  · intro found
    let child' : Child := { child with connection := (handshake child.connection).2 }
    exact ⟨{ identity with child := child' }, ofChild_eq_ok_iff.mpr ⟨found, rfl⟩, rfl⟩

theorem ofChild_eq_error_iff {child : Child} {error : Error} :
    (∃ left, ofChild child = .error ⟨error, some left⟩) ↔
      (handshake child.connection).1 = .error error := by
  rw [ofChild]
  rcases handshake child.connection with ⟨error' | identity, c⟩
  · constructor
    · rintro ⟨left, same⟩
      exact congrArg (fun failure : Failure => Except.error failure.error) (Except.error.inj same)
    · intro same
      obtain rfl := Except.error.inj same
      exact ⟨_, rfl⟩
  · constructor
    · rintro ⟨left, none⟩
      cases none
    · intro none
      cases none

/-! ## Uses -/

/-- The call that a use makes. -/
def Use.call : Use → Call
  | .sign digest opts => .sign (.ofOpts digest opts)
  | .encrypt plaintext hash => .encrypt ⟨⟨plaintext, hash⟩⟩
  | .decrypt ciphertext hash => .decrypt ⟨⟨ciphertext, hash⟩⟩

/-- A use changes nothing but the connection, whatever it comes to. -/
theorem use_snd (key : Key) (next : Use) : (key.use next).2 =
    { key with child := { key.child with
        connection := (key.child.connection.call next.call).2 } } := by
  cases next <;> rfl

theorem toIdentity_after (key : Key) (uses : List Use) :
    (key.after uses).toIdentity = key.toIdentity := by
  induction uses generalizing key with
  | nil => rfl
  | cons next uses ih =>
    rw [after, List.foldl_cons, ← after, ih, use_snd]

theorem connection_after (key : Key) (uses : List Use) :
    (key.after uses).child.connection = key.child.connection.run (uses.map Use.call) := by
  induction uses generalizing key with
  | nil => rfl
  | cons next uses ih =>
    rw [after, List.foldl_cons, ← after, ih, use_snd]
    rfl

/-- An opened key has used two numbers up. -/
theorem nextId_after {process : Process} {key : Key}
    (opened : ofChild (.start process) = .ok key) (uses : List Use) :
    (key.after uses).child.connection.nextId = 2 + UInt64.ofNat uses.length := by
  obtain ⟨told, same⟩ := ofChild_eq_ok_iff.mp opened
  have opening : key.child.connection.nextId = 2 := by
    rw [← same, handshake_snd told, Connection.snd_publicKey, Connection.nextId_call,
      Connection.snd_certificateChain, Connection.nextId_call]
    rfl
  rw [connection_after, Connection.nextId_run, opening, List.length_map]

/-- A use sends the next request. -/
theorem sink_use (key : Key) (next : Use) :
    (key.use next).2.child.connection.transport.sink =
      (Frame.write (Request.current key.child.connection.nextId next.call)
        key.child.connection.transport.sink).2 := by
  rw [use_snd]
  exact Connection.sink_call next.call key.child.connection

/-! ## Starting a signer -/

variable {launch : Launcher} {signer config : Bytes} {process : Process} {octets : Bytes}

/-- **When a started signer gives a key**: exactly if both requests can be written and the octets of
the signer begin with the two responses.  Otherwise the error is that of the first step that fails,
and the second request is sent only behind certificates.  The key is what the signer told, whatever
it is used for; its uses go on counting where the start has stopped. -/
theorem spawn_opens (started : launch signer config = .ok process)
    (delivers : process.transport.source.Delivers octets) :
    (∀ identity, (∃ key, spawn launch signer config = .ok key ∧ key.toIdentity = identity) ↔
      (Frame.writeEach openingRequests process.transport.sink).1 = .ok () ∧
        ∃ rest, Introduces octets identity rest) ∧
    (∀ error, (∃ child, spawn launch signer config = .error ⟨error, some child⟩) ↔
      OpeningFails process.transport.sink octets error) ∧
    (∃ child, leaves (spawn launch signer config) = some child ∧
      (∀ chain rest, ChainArrives process.transport.sink octets chain rest →
        child.connection.transport.sink.written =
          (Frame.writeEach openingRequests process.transport.sink).2.written) ∧
      ((∀ chain rest, ¬ ChainArrives process.transport.sink octets chain rest) →
        child.connection.transport.sink.written =
          (asked process.transport.sink).written)) ∧
    ∀ key, spawn launch signer config = .ok key → ∀ uses : List Use,
      (key.after uses).toIdentity = key.toIdentity ∧
      PublicKey.decode (key.after uses).publicKeyOctets = .ok (key.after uses).publicKey ∧
      ∀ next, ((key.after uses).use next).2.child.connection.transport.sink =
        (Frame.write (Request.current (2 + UInt64.ofNat uses.length) next.call)
          (key.after uses).child.connection.transport.sink).2 := by
  have opening : spawn launch signer config = ofChild (.start process) := by rw [spawn, started]
  rw [opening]
  refine ⟨fun identity => ?_, fun error => ?_, ?_, fun key opened uses => ⟨?_, ?_, fun next => ?_⟩⟩
  · rw [← handshake_eq_ok_iff_introduces delivers]
    exact ofChild_toIdentity_iff
  · rw [← handshake_eq_error_iff delivers]
    exact ofChild_eq_error_iff
  · obtain ⟨child, left, written⟩ := leaves_ofChild (.start process)
    have told : (Child.start process).connection = ⟨process.transport, 0⟩ := rfl
    rw [told] at written
    refine ⟨child, left, fun chain rest arrives => ?_, fun none => ?_⟩
    · rw [written, sink_handshake_of_arrives delivers arrives]
    · rw [written, sink_handshake_of_not_arrives delivers none]
  · exact toIdentity_after key uses
  · rw [toIdentity_after]
    exact (handshake_eq_ok_iff.mp (ofChild_eq_ok_iff.mp opened).1).2.2
  · rw [sink_use, nextId_after opened]

/-- A signer whose responses come in two pieces with an interruption between them: its key is
opened, stays what it is, and signs under the number two. -/
theorem spawn_opens_interrupted :
    let key : PublicKey := .rsa ⟨15, 3⟩
    let octets := Frame.framesOf
      [Response.ok 0 (.certificateChain [[]]), Response.ok 1 (.publicKey key.encode)]
    let process : Process := { transport := { source := { chunks :=
      [.octets (octets.take 3), .failure ⟨.interrupted, ""⟩, .octets (octets.drop 3)] } } }
    ∃ opened, spawn (fun _ _ => .ok process) [] [] = .ok opened ∧
      opened.toIdentity = ⟨[[]], key, key.encode⟩ ∧
      (opened.after [.sign [] none]).toIdentity = ⟨[[]], key, key.encode⟩ ∧
      (opened.use (.sign [] none)).2.child.connection.transport.sink =
        (Frame.write (Request.current 2 (.sign ⟨[], none, none⟩))
          opened.child.connection.transport.sink).2 := by
  intro key octets process
  have delivers : process.transport.source.Delivers octets := by
    constructor
    · intro chunk mem
      simp only [process, List.mem_cons, List.not_mem_nil, or_false] at mem
      rcases mem with rfl | rfl | rfl
      · exact (by decide +kernel : octets.take 3 ≠ [])
      · exact rfl
      · exact (by decide +kernel : octets.drop 3 ≠ [])
    · exact (congrArg (_ ++ ·) (List.append_nil _)).trans (List.take_append_drop 3 octets)
  have introduces : Introduces octets ⟨[[]], key, key.encode⟩ [] := by
    constructor
    · exact Frame.starts_framesOf (by decide +kernel)
    · exact List.cons_ne_nil _ _
    · decide +kernel
  have sent : (Frame.writeEach openingRequests process.transport.sink).1 = .ok () := by
    decide +kernel
  let launch : Launcher := fun _ _ => .ok process
  have started : launch [] [] = .ok process := rfl
  obtain ⟨opens, -, -, keeps⟩ := spawn_opens started delivers
  obtain ⟨opened, spawned, same⟩ := (opens _).mpr ⟨sent, [], introduces⟩
  refine ⟨opened, spawned, same, ?_, ?_⟩
  · rw [(keeps opened spawned [.sign [] none]).1, same]
  · exact (keeps opened spawned []).2.2 (.sign [] none)

end Key

end RemoteSigner.Client
