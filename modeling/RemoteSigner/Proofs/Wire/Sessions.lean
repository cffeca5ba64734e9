import RemoteSigner.Proofs.Wire.Lengths
import RemoteSigner.Proofs.Wire.RoundTrip
import RemoteSigner.Signer.Service

/-!
# Sessions of a service

A service is given any octets.  They begin with the frames of some requests and end somehow behind
them (`Frame.Starts`, `Frame.Ends`); the service answers these requests one after the other, and is
done where the octets end.  What a response costs, and what it is, is up to the provider, in a monad
of which only the laws are known: two sessions that are equal there do the same in the same order.

## Main definitions

* `Transport.respondAll`: responses to some requests, up to the first one that can not be written
* `Yields`: what is known of everything that may come of an action

## Main results

* `Transport.serve_eq`: serving octets is responding to the requests that they begin with
* `respondAll_patient`, `respondAll_unfit`: what is written to a patient sink
* `Provider.serve_of_handle_patient`: one request whose response is known
* `Provider.serve_session`: whole sessions
-/

namespace RemoteSigner

variable {m : Type → Type}

/-- Whatever comes of an action has a property. -/
def Yields [Functor m] {α : Type} (p : α → Prop) (x : m α) : Prop :=
  ∃ y : m { a // p a }, Subtype.val <$> y = x

namespace Yields

variable [Monad m] [LawfulMonad m] {α β : Type} {p : α → Prop}

/-- What is known of an action is known of what is made of its result. -/
theorem map {q : β → Prop} {f : α → β} {x : m α} (yields : Yields p x) (keeps : ∀ a, p a → q (f a)) :
    Yields q (f <$> x) := by
  rcases yields with ⟨y, rfl⟩
  refine ⟨(fun a => ⟨f a.1, keeps a.1 a.2⟩) <$> y, ?_⟩
  rw [Functor.map_map, Functor.map_map]

/-- What is made of any result has a property if it is made so. -/
theorem of_forall {q : β → Prop} {f : α → β} (makes : ∀ a, q (f a)) (x : m α) :
    Yields q (f <$> x) :=
  ⟨(fun a => ⟨f a, makes a⟩) <$> x, by rw [Functor.map_map]⟩

/-- What follows an action may be changed where it does not matter for what comes of the action. -/
theorem bind_congr {x : m α} (yields : Yields p x) {f g : α → m β} (same : ∀ a, p a → f a = g a) :
    x >>= f = x >>= g := by
  rcases yields with ⟨y, rfl⟩
  rw [bind_map_left, bind_map_left]
  congr 1
  funext a
  exact same a.1 a.2

/-- What is known of everything that may come of a computation is known of what it gives. -/
theorem run {x : Id α} (yields : @Yields Id Id.instMonad.toFunctor α p x) : p x.run := by
  rcases yields with ⟨y, rfl⟩
  exact y.run.2

theorem mapM {f : β → m α} {items : List β} (each : ∀ item ∈ items, Yields p (f item)) :
    Yields (fun results => results.length = items.length ∧ ∀ a ∈ results, p a) (items.mapM f) := by
  induction items with
  | nil => exact ⟨pure ⟨[], rfl, nofun⟩, by simp⟩
  | cons item items ih =>
    obtain ⟨first, isFirst⟩ := each item List.mem_cons_self
    obtain ⟨others, areOthers⟩ := ih fun item mem => each item (List.mem_cons_of_mem _ mem)
    have cons (a : { a // p a })
        (results : { results : List α // results.length = items.length ∧ ∀ a ∈ results, p a }) :
        (a.1 :: results.1).length = (item :: items).length ∧ ∀ b ∈ a.1 :: results.1, p b :=
      ⟨congrArg (· + 1) results.2.1, List.forall_mem_cons.mpr ⟨a.2, results.2.2⟩⟩
    refine ⟨first >>= fun a => others >>= fun results =>
      pure ⟨a.1 :: results.1, cons a results⟩, ?_⟩
    rw [List.mapM_cons, ← isFirst, ← areOthers]
    simp

end Yields

namespace Wire.Transport

variable [Monad m] {handle : Request → m Response}

/-- Responds to requests one after the other, up to the first response that can not be written. -/
def respondAll (handle : Request → m Response) :
    List Request → Sink → m (Except Error Unit × Sink)
  | [], sink => pure (.ok (), sink)
  | request :: requests, sink => do
    let response ← handle request
    match Frame.write response sink with
    | (.error error, sink) => pure (.error error, sink)
    | (.ok (), sink) => respondAll handle requests sink

theorem serve_of_ending {t t' : Transport} {ending : Except Error Unit}
    (received : t.receive Request = (ending.map fun _ => none, t')) :
    t.serve handle = pure (ending, t') := by
  rw [serve]
  split <;> next same =>
    rw [received] at same
    cases ending <;> cases same <;> rfl

theorem serve_of_request {t t' : Transport} {request : Request}
    (received : t.receive Request = (.ok (some request), t')) :
    t.serve handle = handle request >>= fun response =>
      match Frame.write response t'.sink with
      | (.error error, sink) => pure (.error error, { t' with sink })
      | (.ok (), sink) => serve handle { t' with sink } := by
  rw [serve]
  split
  · simp_all
  · simp_all
  · next same =>
    rw [received] at same
    cases same
    congr 1
    funext response
    rcases wrote : Frame.write response t'.sink with ⟨error | _, sink⟩
    · have sent : t'.send response = (.error error, { t' with sink }) := by rw [send, wrote]
      split <;> simp_all
    · have sent : t'.send response = (.ok (), { t' with sink }) := by rw [send, wrote]
      split <;> simp_all

variable [LawfulMonad m]

/-- Serving a steady source is responding to the requests that it begins with; if that succeeds, the
octets behind them decide on the result.  One request is received and answered, and then the same
service goes on with what is left of the source and the sink. -/
theorem serve_eq {octets rest : Bytes} {requests : List Request} {ending : Except Error Unit}
    (starts : Frame.Starts Request octets requests rest) (ends : Frame.Ends Request rest ending)
    {t : Transport} (delivers : t.source.Delivers octets) :
    (fun p => (p.1, p.2.sink)) <$> t.serve handle =
      (fun p => (p.1 >>= fun _ => ending, p.2)) <$> respondAll handle requests t.sink := by
  induction starts generalizing t with
  | nil rest =>
    obtain ⟨left, read⟩ := Frame.read_ends ends delivers
    have received : t.receive Request = (ending.map fun _ => none, { t with source := left }) := by
      rw [receive, read]
    rw [serve_of_ending received, respondAll, map_pure, map_pure]
    rfl
  | @cons _ _ _ request _ fits decodes _ ih =>
    obtain ⟨left, delivers, read⟩ := Frame.read_message delivers fits decodes
    have received : t.receive Request = (.ok (some request), { t with source := left }) := by
      rw [receive, read]
    rw [serve_of_request received, respondAll, map_bind, map_bind]
    congr 1
    funext response
    rcases Frame.write response t.sink with ⟨error | _, sink⟩
    · simp only [map_pure]
      rfl
    · exact ih ends delivers

/-! ## Patient sinks -/

/-- As long as responses may be sent, a patient sink takes them one after the other.  Whatever the
response to the first request is, it may be sent. -/
theorem respondAll_append {before : List Request}
    (fit : ∀ request ∈ before, Yields Frame.Fits (handle request)) (after : List Request)
    {sink : Sink} (patient : sink.Patient) :
    respondAll handle (before ++ after) sink = before.mapM handle >>= fun responses =>
      respondAll handle after (Frame.writeEach responses sink).2 := by
  induction before generalizing sink with
  | nil => simp [Frame.writeEach]
  | cons request before ih =>
    rw [List.cons_append, respondAll, List.mapM_cons]
    simp only [bind_assoc, pure_bind]
    apply (fit request List.mem_cons_self).bind_congr
    intro response fits
    obtain ⟨left, wrote, took⟩ := Frame.write_patient fits patient
    simp only [wrote, Frame.writeEach]
    exact ih (fun request mem => fit request (List.mem_cons_of_mem _ mem)) took.patient

/-- Where all responses may be sent, a patient sink takes their frames, and is flushed once for each
of them. -/
theorem respondAll_patient {requests : List Request}
    (fit : ∀ request ∈ requests, Yields Frame.Fits (handle request)) {sink : Sink}
    (patient : sink.Patient) :
    (fun p => (p.1, p.2.written, p.2.flushes)) <$> respondAll handle requests sink =
      requests.mapM handle >>= fun responses =>
        pure (.ok (), sink.written ++ Frame.framesOf responses,
          sink.flushes + requests.length) := by
  have run := respondAll_append fit [] patient
  rw [List.append_nil] at run
  rw [run, map_bind]
  apply (Yields.mapM fit).bind_congr
  rintro responses ⟨len, fits⟩
  obtain ⟨left, wrote, took⟩ := Frame.writeEach_patient fits patient
  rw [respondAll, map_pure, wrote, took.written, took.flushed, len]

/-- At the first response that may not be sent, responding stops with nothing written for it. -/
theorem respondAll_unfit {before after : List Request} {request : Request}
    (fit : ∀ earlier ∈ before, Yields Frame.Fits (handle earlier))
    (unfit : Yields (fun response => ¬ Frame.Fits response) (handle request)) {sink : Sink}
    (patient : sink.Patient) :
    (fun p => (p.1, p.2.written, p.2.flushes)) <$>
        respondAll handle (before ++ request :: after) sink =
      before.mapM handle >>= fun responses => handle request >>= fun response =>
        pure (.error (.frameTooLarge (Message.encode response).length Frame.maxLength),
          sink.written ++ Frame.framesOf responses, sink.flushes + before.length) := by
  rw [respondAll_append fit (request :: after) patient, map_bind]
  apply (Yields.mapM fit).bind_congr
  rintro responses ⟨len, fits⟩
  obtain ⟨left, wrote, took⟩ := Frame.writeEach_patient fits patient
  rw [respondAll, map_bind]
  apply unfit.bind_congr
  intro response large
  rw [Frame.write_tooLarge large, map_pure, wrote, took.written, took.flushed, len]

end Wire.Transport

/-! ## Single requests -/

namespace Signer.Provider

open Wire

variable [Monad m] [LawfulMonad m] (provider : Provider m) {t : Transport} {left : Source}
  {request : Request} {answer : Response}

/-- A request whose answer is known is answered, and the service goes on if that can be written. -/
theorem serve_of_handle (read : Frame.read Request t.source = (.ok (some request), left))
    (handled : provider.handle request = pure answer) :
    provider.serve t = match Frame.write answer t.sink with
      | (.error error, sink) => pure (.error (.wire error), ⟨left, sink⟩)
      | (.ok (), sink) => provider.serve ⟨left, sink⟩ := by
  have received : t.receive Request = (.ok (some request), ⟨left, t.sink⟩) := by
    rw [Transport.receive, read]
  rw [Provider.serve, Transport.serve_of_request received, handled, pure_bind]
  rcases Frame.write answer t.sink with ⟨error | _, sink⟩
  · exact pure_bind _ _
  · rfl

/-- A patient sink takes the answer, and the service goes on. -/
theorem serve_of_handle_patient (read : Frame.read Request t.source = (.ok (some request), left))
    (handled : provider.handle request = pure answer) (fits : Frame.Fits answer)
    (patient : t.sink.Patient) : ∃ sink, t.sink.Took (Frame.ofMessage answer) 1 sink ∧
      provider.serve t = provider.serve ⟨left, sink⟩ := by
  obtain ⟨sink, wrote, took⟩ := Frame.write_patient fits patient
  refine ⟨sink, took, ?_⟩
  rw [provider.serve_of_handle read handled, wrote]

end Signer.Provider

/-! ## Whole sessions -/

namespace Signer.Provider

open Wire

variable [Monad m] [LawfulMonad m] (provider : Provider m)

/-- A service does what serving with its responses does. -/
theorem serve_run {t : Transport} {octets rest : Bytes} {requests : List Request}
    {ending : Except Wire.Error Unit} (starts : Frame.Starts Request octets requests rest)
    (ends : Frame.Ends Request rest ending) (delivers : t.source.Delivers octets) :
    (fun p => (p.1, p.2.sink)) <$> provider.serve t =
      (fun p => ((p.1 >>= fun _ => ending).mapError .wire, p.2)) <$>
        Transport.respondAll provider.handle requests t.sink := by
  have served : _ <$> t.serve provider.handle = _ := Transport.serve_eq starts ends delivers
  have named := congrArg ((fun p => (p.1.mapError Error.wire, p.2)) <$> ·) served
  simp only [Functor.map_map] at named
  rw [← named, Provider.serve]
  simp

/-- A service is done at the end of the stream. -/
theorem serve_finished {t : Transport} (delivers : t.source.Delivers []) :
    (fun p => (p.1, p.2.sink)) <$> provider.serve t = pure (.ok (), t.sink) := by
  rw [provider.serve_run (.nil []) .finished delivers, Transport.respondAll, map_pure]
  rfl

/-- What a service has written, and how often it has flushed. -/
theorem serve_written {t : Transport} {octets rest : Bytes} {requests : List Request}
    {ending : Except Wire.Error Unit} (starts : Frame.Starts Request octets requests rest)
    (ends : Frame.Ends Request rest ending) (delivers : t.source.Delivers octets) :
    (fun p => (p.1, p.2.sink.written, p.2.sink.flushes)) <$> provider.serve t =
      (fun q => ((q.1 >>= fun _ => ending).mapError .wire, q.2)) <$>
        (fun p => (p.1, p.2.written, p.2.flushes)) <$>
          Transport.respondAll provider.handle requests t.sink := by
  have run := congrArg ((fun p => (p.1, p.2.written, p.2.flushes)) <$> ·)
    (provider.serve_run starts ends delivers)
  simp only [Functor.map_map] at run ⊢
  exact run

/-- **What a service does with any octets**, however they are cut: it answers the requests that they
begin with, each of them once and in their order, and is told by what stands behind them how it
ends.  A response that can not be written ends the session at once. -/
theorem serve_session (t : Transport) {octets : Bytes} (delivers : t.source.Delivers octets) :
    ∃ requests rest ending, Frame.Starts Request octets requests rest ∧
      Frame.Ends Request rest ending ∧ (ending = .ok () ↔ rest = []) ∧
      (∀ requests' rest' ending', Frame.Starts Request octets requests' rest' →
        Frame.Ends Request rest' ending' →
          requests' = requests ∧ rest' = rest ∧ ending' = ending) ∧
      (fun p => (p.1, p.2.sink)) <$> provider.serve t =
        (fun p => ((p.1 >>= fun _ => ending).mapError .wire, p.2)) <$>
          Transport.respondAll provider.handle requests t.sink ∧
      (t.sink.Patient → (∀ request ∈ requests, Yields Frame.Fits (provider.handle request)) →
        (fun p => (p.1, p.2.sink.written, p.2.sink.flushes)) <$> provider.serve t =
          requests.mapM provider.handle >>= fun responses =>
            pure (ending.mapError .wire, t.sink.written ++ Frame.framesOf responses,
              t.sink.flushes + requests.length)) ∧
      (t.sink.Patient → ∀ before request after, requests = before ++ request :: after →
        (∀ earlier ∈ before, Yields Frame.Fits (provider.handle earlier)) →
        Yields (fun response => ¬ Frame.Fits response) (provider.handle request) →
          (fun p => (p.1, p.2.sink.written, p.2.sink.flushes)) <$> provider.serve t =
            before.mapM provider.handle >>= fun responses =>
              provider.handle request >>= fun response =>
                pure (.error (.wire (.frameTooLarge (Message.encode response).length
                    Frame.maxLength)),
                  t.sink.written ++ Frame.framesOf responses, t.sink.flushes + before.length)) := by
  obtain ⟨requests, rest, ending, starts, ends⟩ := Frame.exists_frames Request octets
  refine ⟨requests, rest, ending, starts, ends, ends.ok_iff, ?_,
    provider.serve_run starts ends delivers, ?_, ?_⟩
  · intro requests' rest' ending' starts' ends'
    exact starts'.unique ends' starts ends
  · intro patient fit
    rw [provider.serve_written starts ends delivers, Transport.respondAll_patient fit patient,
      map_bind]
    simp only [map_pure]
    rfl
  · rintro patient before request after rfl fit unfit
    rw [provider.serve_written starts ends delivers, Transport.respondAll_unfit fit unfit patient,
      map_bind]
    simp only [map_bind, map_pure]
    rfl

/-- A provider that does not sign, and says why; it hands back what it is to encrypt or decrypt. -/
def unableToSign (reason : String) : Provider Id where
  certificateChain := pure (.ok [])
  publicKey := pure (.ok [])
  sign _ _ := pure (.error (.wire (.remote reason)))
  encrypt octets _ := pure (.ok octets)
  decrypt octets _ := pure (.ok octets)

/-- A session of one request behind an interruption. -/
theorem serve_session_interrupted :
    let request := Request.current 0 .publicKey
    let t : Transport :=
      { source := { chunks := [.failure ⟨.interrupted, ""⟩, .octets (Frame.ofMessage request)] } }
    t.source.Delivers (Frame.ofMessage request) ∧
      let result := ((unableToSign "").serve t).run
      (result.1, result.2.sink.written, result.2.sink.flushes) =
        (.ok (), Frame.ofMessage (Response.ok 0 (.publicKey [])), 1) := by
  intro request t
  have delivers : t.source.Delivers (Frame.ofMessage request) := by
    refine ⟨?_, List.append_nil _⟩
    intro chunk mem
    rcases List.mem_cons.mp mem with rfl | mem
    · rfl
    · rw [List.mem_singleton.mp mem]
      exact nofun
  have fits : Frame.Fits request := by decide +kernel
  have fit : ∀ r ∈ [request], Yields Frame.Fits ((unableToSign "").handle r) := by
    intro r mem
    rw [List.mem_singleton.mp mem]
    have answer : Frame.Fits (Response.ok 0 (.publicKey [])) := by decide +kernel
    exact ⟨pure ⟨_, answer⟩, rfl⟩
  obtain ⟨requests, rest, ending, -, -, -, unique, -, closed, -⟩ :=
    serve_session (unableToSign "") t delivers
  have starts := Frame.starts_framesOf (List.forall_mem_singleton.mpr fits)
  rw [Frame.framesOf_singleton] at starts
  obtain ⟨rfl, rfl, rfl⟩ := unique [request] [] (.ok ()) starts .finished
  refine ⟨delivers, (closed (Sink.patient_of_nil rfl rfl) fit).trans ?_⟩
  change (Except.ok (), Frame.framesOf [Response.ok 0 (.publicKey [])], 1) = _
  rw [Frame.framesOf_singleton]

end Signer.Provider

end RemoteSigner
