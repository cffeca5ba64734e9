import RemoteSigner.Program.Run
import RemoteSigner.Proofs.Wire.Sessions

/-!
# Logging leaves the protocol alone

A record that is shown changes standard error and nothing else, as long as the logger keeps away
from standard output.  So an action of a program comes to the same under any such logger: it follows
the steps that it takes on standard input and output.  Where nothing is shown it makes no records
either.

## Main definitions

* `Logging.Apart`, `Logging.Silent`: nothing is shown on standard output, or nothing at all
* `ConsoleT.Follows`: what an action does, but for its records

## Main results

* `Logging.setUp_fresh`: what a program logs
* `ConsoleT.Follows.serve`, `ConsoleT.Follows.close`: serving and closing
* `Program.runSigner_undisturbed`: whole runs of the signer
-/

namespace RemoteSigner

open Wire

/-! ## Loggers -/

namespace Logging

/-- No record is shown on standard output. -/
def Apart (logging : Logging) : Prop :=
  ∀ importance, logging.stream? importance ≠ some .output

/-- No record is shown. -/
def Silent (logging : Logging) : Prop := ∀ importance, logging.stream? importance = none

/-- A process can set up logging.  Records are then kept apart from standard output, and are shown
only if a variable asks for them. -/
theorem setUp_fresh (level : LogLevel) :
    ∃ logging, setUp level {} = .ok logging ∧ logging.Apart ∧ (level = .off → logging.Silent) := by
  cases level with
  | off => exact ⟨{}, rfl, fun importance => nofun, fun _ importance => rfl⟩
  | debug =>
    refine ⟨⟨.debug, some .errors⟩, rfl, ?_, nofun⟩
    intro importance
    cases importance <;> decide

end Logging

theorem LogLevel.ofVariable_unset {value : Option Bytes} (unset : value = none ∨ value = some []) :
    ofVariable value = .off := by
  rcases unset with rfl | rfl <;> rfl

section

variable {logging : Logging} (record : LogRecord) (console : Console)

/-- A record leaves standard input and output as they are. -/
theorem Console.noted_transport (apart : logging.Apart) :
    (console.noted logging record).transport = console.transport := by
  rw [noted]
  split
  · rfl
  · rfl
  · next shown => exact absurd shown (apart record.importance)

theorem Console.noted_silent (silent : logging.Silent) :
    console.noted logging record = console := by
  rw [noted, silent]

end

/-! ## Steps of a program -/

namespace ConsoleT

variable {m : Type → Type} [Monad m] {α β : Type} {logging : Logging}

theorem run_perform [LawfulMonad m] (x : m α) (console : Console) :
    ((perform x).run logging).run console = (fun a => (a, console)) <$> x := by
  rw [map_eq_pure_bind]
  exact StateT.run_lift x console

theorem run_stream (f : Transport → α × Transport) (console : Console) :
    ((stream f : ConsoleT m α).run logging).run console =
      pure ((f console.transport).1, { console with transport := (f console.transport).2 }) := rfl

theorem run_note (importance : Importance) (message : String) (console : Console) :
    ((note importance message : ConsoleT m Unit).run logging).run console =
      pure ((), console.noted logging ⟨importance, message⟩) := rfl

/-- What an action does to standard input and output, and what it gives, is what these steps do.
Without a logger it does nothing else. -/
structure Follows (logging : Logging) (action : ConsoleT m α) (steps : StateT Transport m α) :
    Prop where
  /-- The result and the streams. -/
  same : ∀ console, (fun r => (r.1, r.2.transport)) <$> (action.run logging).run console =
    steps.run console.transport
  /-- The whole console where nothing is shown. -/
  unseen : logging.Silent → ∀ console, (action.run logging).run console =
    (fun r => (r.1, { console with transport := r.2 })) <$> steps.run console.transport

namespace Follows

variable [LawfulMonad m]

theorem pure (a : α) : Follows logging (Pure.pure a : ConsoleT m α) (Pure.pure a) where
  same console := by rw [ReaderT.run_pure, StateT.run_pure, StateT.run_pure, map_pure]
  unseen _ console := by rw [ReaderT.run_pure, StateT.run_pure, StateT.run_pure, map_pure]

/-- One action behind another one follows the steps of both. -/
theorem bind {action : ConsoleT m α} {steps : StateT Transport m α} {next : α → ConsoleT m β}
    {steps' : α → StateT Transport m β} (follows : Follows logging action steps)
    (follows' : ∀ a, Follows logging (next a) (steps' a)) :
    Follows logging (action >>= next) (steps >>= steps') where
  same console := by
    rw [ReaderT.run_bind, StateT.run_bind, StateT.run_bind, map_bind, ← follows.same, bind_map_left]
    congr 1
    funext r
    exact (follows' r.1).same r.2
  unseen silent console := by
    rw [ReaderT.run_bind, StateT.run_bind, StateT.run_bind, map_bind, follows.unseen silent,
      bind_map_left]
    congr 1
    funext r
    exact (follows' r.1).unseen silent _

/-- What has nothing to do with the streams. -/
theorem perform (x : m α) : Follows logging (ConsoleT.perform x) (StateT.lift x) where
  same console := by
    rw [run_perform, Functor.map_map, StateT.run_lift, map_eq_pure_bind]
  unseen _ console := by
    rw [run_perform, StateT.run_lift, map_bind, map_eq_pure_bind]
    simp only [map_pure]

/-- The streams themselves. -/
theorem stream (f : Transport → α × Transport) :
    Follows logging (ConsoleT.stream f : ConsoleT m α) (modifyGet f) where
  same console := by
    rw [run_stream, map_pure]
    rfl
  unseen _ console := by
    rw [run_stream, StateT.run_modifyGet, map_pure]

/-- A record. -/
theorem note (apart : logging.Apart) (importance : Importance) (message : String) :
    Follows logging (ConsoleT.note importance message : ConsoleT m Unit) (Pure.pure ()) where
  same console := by
    rw [run_note, map_pure, console.noted_transport _ apart, StateT.run_pure]
  unseen silent console := by
    rw [run_note, console.noted_silent _ silent, StateT.run_pure, map_pure]

/-- An action behind one that only makes records follows its own steps. -/
theorem after {records : ConsoleT m Unit} (quiet : Follows logging records (Pure.pure ()))
    {action : ConsoleT m α} {steps : StateT Transport m α}
    (follows : Follows logging action steps) :
    Follows logging (records >>= fun _ => action) steps := by
  rw [← pure_bind () fun _ => steps]
  exact quiet.bind fun _ => follows

theorem noteAll (apart : logging.Apart) (records : List LogRecord) :
    Follows logging (ConsoleT.noteAll records : ConsoleT m Unit) (Pure.pure ()) := by
  induction records with
  | nil => exact pure ()
  | cons record records ih => exact (note apart record.importance record.message).after ih

theorem noteFailure (apart : logging.Apart) (what : String) (result : Except IoError Unit) :
    Follows logging (ConsoleT.noteFailure what result : ConsoleT m Unit) (Pure.pure ()) := by
  cases result with
  | error error => exact note apart _ _
  | ok => exact pure ()

end Follows

/-! ## Serving and closing -/

section

variable [LawfulMonad m] {respond : Request → m Response} {source rest : Source}

theorem modifyGet_bind (f : Transport → α × Transport) (next : α → StateT Transport m β)
    (t : Transport) : (modifyGet f >>= next) t = next (f t).1 (f t).2 :=
  pure_bind (m := m) (f t) fun r => next r.1 r.2

theorem lift_bind (x : m α) (next : α → StateT Transport m β) (t : Transport) :
    (StateT.lift x >>= next) t = x >>= fun a => next a t := by
  change (x >>= fun a => pure (a, t)) >>= (fun r => next r.1 r.2) = _
  rw [bind_assoc]
  simp only [pure_bind]

/-- The steps of serving where there are no more requests. -/
theorem steps_of_ending (ending : Except Wire.Error Unit)
    (read : Frame.read Request source = (ending.map fun _ => none, rest)) :
    (fun t => Transport.serve respond { t with source }) = (do
      modifyGet fun t => ((), { t with source := rest })
      pure ending : StateT Transport m (Except Wire.Error Unit)) := by
  funext t
  have received : ({ t with source } : Transport).receive Request =
      (ending.map fun _ => none, { t with source := rest }) := by
    rw [Transport.receive, read]
  rw [Transport.serve_of_ending received, modifyGet_bind]
  rfl

/-- The steps of serving one request, and then all others. -/
theorem steps_of_request {request : Request}
    (read : Frame.read Request source = (.ok (some request), rest)) :
    (fun t => Transport.serve respond { t with source }) = (do
      modifyGet fun t => ((), { t with source := rest })
      let response ← StateT.lift (respond request)
      match ← modifyGet (Transport.send response) with
      | .error error => pure (.error error)
      | .ok () => fun t => Transport.serve respond { t with source := rest } :
        StateT Transport m (Except Wire.Error Unit)) := by
  funext t
  have received : ({ t with source } : Transport).receive Request =
      (.ok (some request), { t with source := rest }) := by
    rw [Transport.receive, read]
  rw [Transport.serve_of_request received, modifyGet_bind, lift_bind]
  congr 1
  funext response
  rw [modifyGet_bind, Transport.send]
  rcases Frame.write response t.sink with ⟨error | _, sink⟩ <;> rfl

/-- The steps of closing. -/
theorem steps_of_close : (modifyGet Transport.close : StateT Transport m (Except IoError Unit)) =
    (do
      let first ← modifyGet fun t => (t.source.close.1, { t with source := t.source.close.2 })
      let second ← modifyGet fun t => (t.sink.close.1, { t with sink := t.sink.close.2 })
      pure (match first with | .error error => .error error | .ok () => second)) := by
  funext t
  rw [modifyGet_bind, modifyGet_bind]
  rfl

end

namespace Follows

variable [LawfulMonad m]

/-- Serving is what it is without records, if every response is.  Every request takes something off
what is left to be read. -/
theorem serveFrom {handle : Request → ConsoleT m Response} {respond : Request → m Response}
    (responds : ∀ request, Follows logging (handle request) (StateT.lift (respond request)))
    (source : Source) : Follows logging (ConsoleT.serveFrom handle source)
      (fun t => Transport.serve respond { t with source }) := by
  induction size : Source.size source.chunks using Nat.strongRecOn generalizing source with
  | _ n ih =>
  rw [ConsoleT.serveFrom]
  split
  · next error rest read =>
    rw [steps_of_ending (.error error) read]
    exact (stream _).bind fun _ => pure _
  · next rest read =>
    rw [steps_of_ending (.ok ()) read]
    exact (stream _).bind fun _ => pure _
  · next request rest read =>
    rw [steps_of_request read]
    refine (stream _).bind fun _ => (responds request).bind fun response =>
      (stream _).bind fun sent => ?_
    cases sent with
    | error error => exact pure _
    | ok => exact ih _ (size ▸ Frame.size_read_lt read) rest rfl

theorem serve {handle : Request → ConsoleT m Response} {respond : Request → m Response}
    (responds : ∀ request, Follows logging (handle request) (StateT.lift (respond request))) :
    Follows logging (ConsoleT.serve handle) (Transport.serve respond) := by
  have steps : Transport.serve respond = (do
      let source ← modifyGet fun t => (t.source, t)
      fun t => Transport.serve respond { t with source } :
        StateT Transport m (Except Wire.Error Unit)) := by
    funext t
    rw [modifyGet_bind]
  rw [steps]
  exact (stream _).bind fun source => serveFrom responds source

theorem close (apart : logging.Apart) :
    Follows logging (ConsoleT.close : ConsoleT m (Except IoError Unit))
      (modifyGet Transport.close) := by
  rw [steps_of_close]
  refine (stream _).bind fun first => (noteFailure apart _ first).after ?_
  exact (stream _).bind fun second => (noteFailure apart _ second).after (pure _)

end Follows

end ConsoleT

/-! ## Programs -/

namespace Program

open ConsoleT

variable {m : Type → Type} [Monad m] [LawfulMonad m]

/-- A program comes to what its steps come to, and shows no records unless it is asked to. -/
theorem start_follows {action : ConsoleT m Bool} {steps : StateT Transport m Bool}
    (follows : ∀ logging : Logging, logging.Apart → Follows logging action steps)
    (env : Environment) (t : Transport) :
    (fun run => (run.succeeded, run.transport)) <$> start env action t = steps.run t ∧
      (env.logs = none ∨ env.logs = some [] →
        Yields (fun run => run.records = []) (start env action t)) := by
  obtain ⟨logging, fresh, apart, silent⟩ := Logging.setUp_fresh (.ofVariable env.logs)
  have started : start env action t = (fun r => ⟨r.2.transport, r.1, r.2.errors⟩) <$>
      (action.run logging).run { transport := t } := by
    rw [start, fresh, map_eq_pure_bind]
  have followed := follows logging apart
  constructor
  · rw [started, Functor.map_map]
    exact followed.same { transport := t }
  · intro unset
    rw [started, followed.unseen (silent (LogLevel.ofVariable_unset unset)), Functor.map_map]
    apply Yields.of_forall
    exact fun _ => rfl

section

variable {logging : Logging} (apart : logging.Apart)
include apart

theorem answer_follows (provider : Signer.Provider m) (request : Request) :
    Follows logging (answer provider request) (StateT.lift (provider.handle request)) := by
  rw [← bind_pure (StateT.lift (provider.handle request))]
  exact (Follows.perform _).bind fun response => (Follows.note apart _ _).after (.pure response)

/-- Loading a key is what it is without records. -/
theorem loadKey_follows (files : FileSystem) (path : Bytes) :
    Follows logging (loadKey files path : ConsoleT m _)
      (pure (Signer.loadConfiguredKey files path)) := by
  apply (Follows.note apart _ _).after
  rw [Signer.loadConfiguredKey]
  cases (Config.Document.load files path).mapError Signer.Error.config with
  | error error => exact .pure _
  | ok document => exact (Follows.noteAll apart _).after (.pure _)

variable {serve : Signer.SoftwareKey → ConsoleT m (Except Signer.Error Unit)}
  {steps : Signer.SoftwareKey → StateT Transport m (Except Signer.Error Unit)}

theorem runConfigured_follows (follows : ∀ key, Follows logging (serve key) (steps key))
    (parent : Int32) (files : FileSystem) (path : Bytes) :
    Follows logging (runConfigured parent files path serve)
      (match Signer.loadConfiguredKey files path with
        | .error error => pure (.error error)
        | .ok key => steps key) := by
  let next : Except Signer.Error Signer.SoftwareKey → StateT Transport m (Except Signer.Error Unit)
    | .error error => pure (.error error)
    | .ok key => steps key
  change Follows logging _ (next (Signer.loadConfiguredKey files path))
  rw [← pure_bind (Signer.loadConfiguredKey files path) next]
  refine (loadKey_follows apart files path).bind fun loaded => ?_
  cases loaded with
  | error error => exact .pure _
  | ok key => exact (Follows.note apart _ _).after ((Follows.note apart _ _).after (follows key))

theorem refuse_follows (complaint : String) :
    Follows logging (refuse complaint : ConsoleT m Bool) (pure false) :=
  (Follows.note apart _ _).after ((Follows.note apart _ _).after (.pure false))

/-- The program follows its session if there is a key; whether all goes well is read off what comes
of both. -/
theorem signerAt_follows (follows : ∀ key, Follows logging (serve key) (steps key))
    (parent : Int32) (files : FileSystem) (path : Bytes) :
    Follows logging (signerAt parent files path serve)
      ((Signer.loadConfiguredKey files path).toOption.elim (pure false) fun key =>
        Except.isOk <$> steps key) := by
  have told : ((Signer.loadConfiguredKey files path).toOption.elim (pure false) fun key =>
        Except.isOk <$> steps key) =
      (match Signer.loadConfiguredKey files path with
        | .error error => pure (.error error)
        | .ok key => steps key) >>= fun result => pure result.isOk := by
    cases Signer.loadConfiguredKey files path with
    | error error =>
      exact (pure_bind (m := StateT Transport m) (Except.error error : Except Signer.Error Unit)
        fun result => pure result.isOk).symm
    | ok key => exact map_eq_pure_bind _ _
  rw [told]
  refine (runConfigured_follows apart follows parent files path).bind fun result => ?_
  cases result with
  | error error => exact (Follows.note apart _ _).after (.pure false)
  | ok => exact .pure true

/-- The signer serves its key, if it has one, and is told by that how it ends. -/
theorem signer_follows (follows : ∀ key, Follows logging (serve key) (steps key))
    (wording : CommandLine.Wording) (parent : Int32) (files : FileSystem) (arguments : List Bytes) :
    Follows logging (signer wording parent files arguments serve)
      ((startSigner files arguments).elim (pure false) fun key => Except.isOk <$> steps key) := by
  rw [signer, startSigner]
  cases CommandLine.read arguments with
  | error fault => exact refuse_follows apart (wording arguments fault)
  | ok path => exact signerAt_follows apart follows parent files path

/-- What serving comes to once the streams have been closed behind it. -/
def closed : Except Signer.Error Unit × Transport → Except Signer.Error Unit × Transport
  | (.error error, t) => (.error error, t)
  | (.ok (), t) => (t.close.1.mapError (.io "closing standard input and output"), t.close.2)

/-- Serving requests and closing the streams behind them, without a record. -/
def session (provider : Signer.Provider m) : StateT Transport m (Except Signer.Error Unit) :=
  fun t => closed <$> provider.serve t

/-- Serving follows a session: both put the failures of the protocol into those of the service. -/
theorem serveProvider_follows (provider : Signer.Provider m) :
    Follows logging (serveProvider provider) (session provider) := by
  have steps : session provider = (do
      match ← (Transport.serve provider.handle : StateT Transport m (Except Wire.Error Unit)) with
      | .error error => pure (.error (.wire error))
      | .ok () => do
        let closed ← modifyGet Transport.close
        pure (closed.mapError (.io "closing standard input and output")) :
          StateT Transport m (Except Signer.Error Unit)) := by
    funext t
    rw [session, Signer.Provider.serve, map_bind]
    change _ = t.serve provider.handle >>= _
    congr 1
    funext served
    rcases served with ⟨error | _, t⟩
    · rw [map_pure]
      rfl
    · rw [map_pure]
      change _ = ((modifyGet Transport.close : StateT Transport m _) >>= _) t
      rw [modifyGet_bind]
      rfl
  rw [steps]
  refine (Follows.serve (answer_follows apart provider)).bind fun served => ?_
  cases served with
  | error error => exact .pure _
  | ok =>
    refine (Follows.note apart _ _).after ?_
    exact (Follows.close apart).bind fun result => .pure _

end

/-! ## Runs of the signer -/

/-- A key is loaded if the command line names a configuration from which it can be loaded. -/
theorem startSigner_eq_some_iff {files : FileSystem} {arguments : List Bytes}
    {key : Signer.SoftwareKey} : startSigner files arguments = some key ↔
      ∃ path, CommandLine.read arguments = .ok path ∧
        Signer.loadConfiguredKey files path = .ok key := by
  have ok {ε α : Type} (result : Except ε α) (a : α) :
      result.toOption = some a ↔ result = .ok a := by
    cases result <;> simp [Except.toOption]
  rw [startSigner, Option.bind_eq_bind, Option.bind_eq_some_iff]
  simp only [ok]

/-- The signer program serves requests with the key that it has loaded, and closes its streams. -/
theorem runSigner_follows (wording : CommandLine.Wording) (draw : Nat → m Bytes) (parent : Int32)
    (files : FileSystem) (arguments : List Bytes) (logging : Logging) (apart : logging.Apart) :
    Follows logging
      (signer wording parent files arguments fun key => serveProvider (key.provider draw))
      ((startSigner files arguments).elim (pure false) fun key =>
        Except.isOk <$> session (key.provider draw)) :=
  signer_follows apart (fun key => serveProvider_follows apart (key.provider draw)) wording parent
    files arguments

/-- What standard input and output are at the end of a run, and the exit status. -/
def Run.outcome (run : Run) : Transport × UInt32 := (run.transport, run.exitCode)

theorem runSigner_outcome (wording : CommandLine.Wording) (draw : Nat → m Bytes)
    (env : Environment) (files : FileSystem) (arguments : List Bytes) (t : Transport) :
    Run.outcome <$> runSigner wording draw env files arguments t =
      (startSigner files arguments).elim (pure (t, 1)) fun key =>
        (fun r => ((closed r).2, if (closed r).1.isOk then 0 else 1)) <$>
          (key.provider draw).serve t := by
  let ends (r : Bool × Transport) : Transport × UInt32 := (r.2, if r.1 then 0 else 1)
  have run := congrArg (ends <$> ·)
    (start_follows (runSigner_follows wording draw env.parent files arguments) env t).1
  rw [Functor.map_map] at run
  refine run.trans ?_
  cases startSigner files arguments with
  | none => exact map_pure ends (false, t)
  | some key =>
    change ends <$> (Except.isOk <$> session (key.provider draw)).run t = _
    rw [StateT.run_map, Functor.map_map]
    exact Functor.map_map _ _ _

theorem closed_eq (r : Except Signer.Error Unit × Transport) :
    (closed r).2.sink.written = r.2.sink.written ∧
      (closed r).1.isOk = (r.1.isOk && r.2.close.1.isOk) := by
  rcases r with ⟨error | _, t⟩
  · exact ⟨rfl, rfl⟩
  · refine ⟨rfl, ?_⟩
    change (t.close.1.mapError _).isOk = t.close.1.isOk
    cases t.close.1 <;> rfl

/-- **Logging never disturbs the protocol.**  Whatever is logged, standard input and output and the
exit status come to the same.  If the command line names a configuration from which a key can be
loaded, standard output is what the service writes, and the signer succeeds exactly if the service
does and the streams can be closed then.  Otherwise nothing is read or written, and the signer
fails.  Unless logging is asked for, nothing is shown on standard error. -/
theorem runSigner_undisturbed (wording : CommandLine.Wording) (draw : Nat → m Bytes)
    (files : FileSystem) (arguments : List Bytes) (t : Transport) :
    (∀ env env', Run.outcome <$> runSigner wording draw env files arguments t =
      Run.outcome <$> runSigner wording draw env' files arguments t) ∧
    (∀ env path key, CommandLine.read arguments = .ok path →
      Signer.loadConfiguredKey files path = .ok key →
        (fun run => (run.transport.sink.written, run.exitCode)) <$>
            runSigner wording draw env files arguments t =
          (fun r => (r.2.sink.written, if r.1.isOk && r.2.close.1.isOk then 0 else 1)) <$>
            (key.provider draw).serve t) ∧
    (∀ env, (∀ path key, CommandLine.read arguments = .ok path →
        Signer.loadConfiguredKey files path ≠ .ok key) →
      Run.outcome <$> runSigner wording draw env files arguments t = pure (t, 1)) ∧
    (∀ env, env.logs = none ∨ env.logs = some [] →
      Yields (fun run => run.records = []) (runSigner wording draw env files arguments t)) := by
  refine ⟨?_, ?_, ?_, ?_⟩
  · intro env env'
    rw [runSigner_outcome, runSigner_outcome]
  · intro env path key read loaded
    have outcome := runSigner_outcome wording draw env files arguments t
    rw [startSigner_eq_some_iff.mpr ⟨path, read, loaded⟩] at outcome
    have written := congrArg ((fun o => (o.1.sink.written, o.2)) <$> ·) outcome
    simp only [Option.elim_some, Functor.map_map, closed_eq] at written
    exact written
  · intro env unloaded
    have none : startSigner files arguments = none := by
      rw [Option.eq_none_iff_forall_ne_some]
      intro key loaded
      obtain ⟨path, read, loaded⟩ := startSigner_eq_some_iff.mp loaded
      exact unloaded path key read loaded
    rw [runSigner_outcome, none]
    rfl
  · intro env unset
    exact (start_follows (runSigner_follows wording draw env.parent files arguments) env t).2 unset

/-- The number one on a curve, for a client that asks for the public key; and a second argument. -/
theorem runSigner_undisturbed_one :
    let one : PrivateKey := .ecdsa .p256 1 Curve.p256.generator
    let sections : List Pem.Section := [⟨.certificate, []⟩,
      ⟨.ecPrivateKey, [0x30, 0x25, 0x02, 1, 1, 0x04, 0x20] ++ List.replicate 31 0 ++ [1]⟩]
    let document : Config.Document :=
      ⟨{ ecp := "signer" }, { software := some ⟨"key.pem", "key.pem"⟩ }⟩
    let path := Bytes.ofText "config.json"
    let files : FileSystem := fun name =>
      .ok { bytes := if name = path then document.file else sections.flatMap (·.encode) }
    let wording : CommandLine.Wording := fun _ _ => "unexpected argument"
    let draw (_ : Nat) : Id Bytes := pure []
    let t : Transport :=
      { source := { chunks := [.octets (Frame.ofMessage (Request.current 7 .publicKey))] } }
    let quiet := (runSigner wording draw {} files [path] t).run
    let loud := (runSigner wording draw { logs := some [0x31] } files [path] t).run
    quiet.outcome = loud.outcome ∧ quiet.records = [] ∧
      (loud.transport.sink.written, loud.exitCode) =
        (Frame.ofMessage (Response.ok 7 (.publicKey one.publicKey.encode)), 0) ∧
      (runSigner wording draw {} files [path, path] t).run.outcome = (t, 1) := by
  intro one sections document path files wording draw t quiet loud
  let software : Signer.SoftwareKey := ⟨[[]], one⟩
  have read : CommandLine.read [path] = .ok path := by decide +kernel
  have loaded : Signer.loadConfiguredKey files path = .ok software := by decide +kernel
  have two : CommandLine.read [path, path] = .error .unknownArgument := by decide +kernel
  let ends (r : Except Signer.Error Unit × Transport) : Bytes × UInt32 :=
    (r.2.sink.written, if r.1.isOk && r.2.close.1.isOk then 0 else 1)
  have served : ends ((software.provider draw).serve t).run =
      (Frame.ofMessage (Response.ok 7 (.publicKey one.publicKey.encode)), 0) := by
    decide +kernel
  obtain ⟨same, serves, -, silent⟩ := runSigner_undisturbed wording draw files [path] t
  obtain ⟨-, -, refused, -⟩ := runSigner_undisturbed wording draw files [path, path] t
  refine ⟨same _ _, (silent {} (.inl rfl)).run, (serves _ path software read loaded).trans served,
    refused {} ?_⟩
  intro other key named
  cases two.symm.trans named

end Program

end RemoteSigner
