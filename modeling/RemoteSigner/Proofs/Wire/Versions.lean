import RemoteSigner.Proofs.Json.Refusals
import RemoteSigner.Proofs.Wire.Sessions

/-!
# Requests of other versions

A request of another version of the protocol is answered with an error that names both versions; the
provider does not hear of it.  To be answered, a request has to be understood as a whole, the call
included.  A client whose version has other methods, or other parameters, is not told so: the
session ends with the first request that can not be decoded, whatever its version.

## Main definitions

* `Response.refusal`: the answer to a request of another version

## Main results

* `Response.fits_refusal`: the answer can always be sent
* `Request.decode_unknown_method`: requests that are not understood
* `Provider.serve_version`: what becomes of a request of another version
-/

namespace RemoteSigner

open Json Wire

/-! ## The answer -/

namespace Response

/-- The answer to a request of another version names that version and the one that is spoken. -/
def refusal (id : UInt64) (version : UInt32) : Response :=
  .failed id ("Unsupported protocol version " ++ version.toNat.repr ++ ", expected " ++
    protocolVersion.toNat.repr)

end Response

/-- The answer to a request of another version can be sent. -/
theorem Response.fits_refusal (id : UInt64) (version : UInt32) :
    Frame.Fits (refusal id version) := by
  apply Response.fits_failed
  have versionLength : (Bytes.ofText version.toNat.repr).length ≤ 10 :=
    Decoder.length_repr_le (Nat.lt_trans version.toNat_lt (by decide))
  have around : (Bytes.ofText "Unsupported protocol version ").length = 29 ∧
      (Bytes.ofText ", expected ").length = 11 ∧
        (Bytes.ofText protocolVersion.toNat.repr).length = 1 := by
    decide
  simp only [Bytes.ofText_append, List.length_append, around, Frame.maxLength]
  omega

/-! ## Requests that are not understood -/

namespace Request

/-- A request is refused if its call is, whatever its number and its version are. -/
theorem refuses_call {call : Value} (refuses : RefusesReordered (Message.read (α := Call)) call)
    (id : UInt64) (version : UInt32) :
    RefusesReordered record.read (.object
      [("call", call), ("id", .natural id.toNat), ("version", .natural version.toNat)]) := by
  let first : Entry record.step := .of "id" rfl (Message.reads_word64 "u64" id)
  let second : Entry record.step := .of "version" rfl (Message.reads_word32 version)
  have apart : [first, second].Pairwise Entry.Apart :=
    List.pairwise_pair.mpr ⟨fun _ => rfl, fun _ => rfl, fun _ => rfl⟩
  have unset : ∀ e ∈ [first, second], e.isSet record.empty = false :=
    List.forall_mem_cons.mpr ⟨rfl, List.forall_mem_singleton.mpr rfl⟩
  have others : ∀ e ∈ [first, second], ∀ draft : Draft, (e.update draft).call = draft.call :=
    List.forall_mem_cons.mpr ⟨fun _ => rfl, List.forall_mem_singleton.mpr fun _ => rfl⟩
  exact Record.refusesReordered apart unset rfl rfl others refuses

/-- A request is not understood if it is one for a method that is not known, whatever its version
and its parameters are, and in whatever order its members come. -/
theorem decode_unknown_method {method : String} (unknown : Call.Tag.names.lookup method = none)
    (params : Option Value) (id : UInt64) (version : UInt32) {v : Value}
    (other : Reordered (.object [("call", .object
      (("method", .text method) :: (params.map fun params => ("params", params)).toList)),
        ("id", .natural id.toNat), ("version", .natural version.toNat)]) v)
    (shallow : v.depth ≤ maxLevels) {before text after : Bytes} (blankBefore : Gap before)
    (spelled : Spells v text) (blankAfter : Gap after) {origin : Origin} (whole : origin.Whole) :
    ∃ error, Message.decode Request origin (before ++ (text ++ after)) = .error error := by
  have refuses := Call.tagged.refusesReordered unknown (by decide) params
  exact (refuses_call refuses id version other).decode shallow blankBefore spelled blankAfter whole

end Request

/-! ## Services -/

namespace Signer.Provider

variable {m : Type → Type} [Monad m] (provider : Provider m)

theorem handle_refusal {request : Request} (other : request.version ≠ protocolVersion) :
    provider.handle request = pure (Response.refusal request.id request.version) := by
  rw [handle, if_pos other]
  rfl

variable [LawfulMonad m] {t : Transport} {left : Source}

/-- A request of another version is answered, and the service goes on if that can be written. -/
theorem serve_refusal {request : Request}
    (read : Frame.read Request t.source = (.ok (some request), left))
    (other : request.version ≠ protocolVersion) :
    provider.serve t =
      match Frame.write (Response.refusal request.id request.version) t.sink with
      | (.error error, sink) => pure (.error (.wire error), ⟨left, sink⟩)
      | (.ok (), sink) => provider.serve ⟨left, sink⟩ :=
  provider.serve_of_handle read (provider.handle_refusal other)

/-- A request that can not be decoded ends the session. -/
theorem serve_undecodable {error : Json.Error}
    (read : Frame.read Request t.source = (.error (.serialization error), left)) :
    provider.serve t = pure (.error (.wire (.serialization error)), ⟨left, t.sink⟩) := by
  let ending : Except Wire.Error Unit := .error (.serialization error)
  have received : t.receive Request = (ending.map fun _ => none, ⟨left, t.sink⟩) := by
    rw [Transport.receive, read]
    rfl
  rw [Provider.serve, Transport.serve_of_ending received, pure_bind]
  rfl

/-- **What becomes of a request of another version.**  One that can be decoded is answered with a
refusal, and the service goes on with what follows; one that can not be decoded ends the session
without an answer.  The provider does not hear of either. -/
theorem serve_version {body rest : Bytes} (delivers : t.source.Delivers (Frame.encode body ++ rest))
    (fits : body.length ≤ Frame.maxLength) :
    ∃ left : Source, left.Delivers rest ∧
      (∀ request, Message.decode Request .memory body = .ok request →
        request.version ≠ protocolVersion →
          let answer := Response.refusal request.id request.version
          Frame.Fits answer ∧
          (provider.serve t = match Frame.write answer t.sink with
            | (.error error, sink) => pure (.error (.wire error), ⟨left, sink⟩)
            | (.ok (), sink) => provider.serve ⟨left, sink⟩) ∧
          (t.sink.Patient → ∃ sink, t.sink.Took (Frame.ofMessage answer) 1 sink ∧
            provider.serve t = provider.serve ⟨left, sink⟩)) ∧
      (∀ error, Message.decode Request .memory body = .error error →
        provider.serve t = pure (.error (.wire (.serialization error)), ⟨left, t.sink⟩)) := by
  obtain ⟨left, behind, read⟩ := Frame.read_frame (α := Request) delivers fits
  refine ⟨left, behind, ?_, ?_⟩
  · intro request decoded other answer
    rw [decoded] at read
    have fitting : Frame.Fits answer := Response.fits_refusal request.id request.version
    have run := provider.serve_refusal read other
    refine ⟨fitting, run, ?_⟩
    intro patient
    exact provider.serve_of_handle_patient read (provider.handle_refusal other) fitting patient
  · intro error undecodable
    rw [undecodable] at read
    exact provider.serve_undecodable read

/-- A request of version 2 for the public key. -/
theorem serve_version_two :
    let request : Request := ⟨7, 2, .publicKey⟩
    let t : Transport := { source := { chunks := [.octets (Frame.ofMessage request)] } }
    let result := ((unableToSign "").serve t).run
    (result.1, result.2.sink.written) = (.ok (), Frame.ofMessage
      (Response.failed 7 "Unsupported protocol version 2, expected 1")) := by
  intro request t result
  have delivers : t.source.Delivers (Frame.ofMessage request ++ []) := by
    refine ⟨?_, rfl⟩
    intro chunk mem
    rw [List.mem_singleton.mp mem]
    exact nofun
  have fits : Frame.Fits request := by decide +kernel
  obtain ⟨left, behind, refused, -⟩ := serve_version (unableToSign "") delivers fits
  have decoded : Message.decode Request .memory (Message.encode request) = .ok request :=
    Message.decode_encode request trivial
  obtain ⟨-, -, answered⟩ := refused request decoded (by decide)
  obtain ⟨sink, took, run⟩ := answered (Sink.patient_of_nil rfl rfl)
  have finished := (unableToSign "").serve_finished (t := ⟨left, sink⟩) behind
  rw [← run] at finished
  have outcome : (result.1, result.2.sink) = (.ok (), sink) := finished
  obtain ⟨done, written⟩ := Prod.mk.inj outcome
  have answer : Response.refusal request.id request.version =
      .failed 7 "Unsupported protocol version 2, expected 1" := by decide
  rw [done, written, took.written, answer]
  rfl

/-- Not every request of another version is answered: a call that only that version knows is not
understood.  The claimed service would be done after its answer, and the service itself fails. -/
theorem not_serve_version_of_unknown_method :
    ¬ ∀ (provider : Provider Id) (t : Transport) (id : UInt64) (version : UInt32)
      (call v : Value) (body rest : Bytes), version ≠ protocolVersion →
        Reordered (.object [("call", call), ("id", .natural id.toNat),
          ("version", .natural version.toNat)]) v → Spells v body →
        body.length ≤ Frame.maxLength → t.source.Delivers (Frame.encode body ++ rest) →
        t.sink.Patient → ∃ (left : Source) (sink : Sink), left.Delivers rest ∧
          t.sink.Took (Frame.ofMessage (Response.refusal id version)) 1 sink ∧
            provider.serve t = provider.serve ⟨left, sink⟩ := by
  intro answered
  let call : Value := .object [("method", .text "rotate")]
  let v : Value := .object [("id", .natural 1), ("version", .natural 2), ("call", call)]
  obtain ⟨source, handsOver⟩ := Frame.exists_delivers (Frame.encode v.compact ++ [])
  let t : Transport := { source }
  have other : Reordered
      (.object [("call", call), ("id", .natural 1), ("version", .natural 2)]) v :=
    .rotate (.refl _)
  have plain : v.Plain := by
    have small : 2 < UInt64.size := by decide
    simp [v, call, Value.Plain, Value.PlainMembers, Value.natural, small]
  have fits : v.compact.length ≤ Frame.maxLength := by decide +kernel
  have delivers : t.source.Delivers (Frame.encode v.compact ++ []) := handsOver
  obtain ⟨left, sink, behind, -, run⟩ := answered (unableToSign "") t 1 2 call v v.compact []
    (by decide) other (spells_compact plain) fits delivers (Sink.patient_of_nil rfl rfl)
  have unknown : Call.Tag.names.lookup "rotate" = none := rfl
  have whole : Origin.memory.Whole := trivial
  obtain ⟨error, undecodable⟩ := Request.decode_unknown_method unknown none 1 2 other (by decide)
    .nil (spells_compact plain) .nil whole
  obtain ⟨left', -, read⟩ := Frame.read_frame (α := Request) delivers fits
  rw [List.nil_append, List.append_nil] at undecodable
  rw [undecodable] at read
  have ended := (unableToSign "").serve_undecodable read
  have finished := (unableToSign "").serve_finished (t := ⟨left, sink⟩) behind
  rw [← run, ended] at finished
  cases congrArg Prod.fst finished

end Signer.Provider

end RemoteSigner
