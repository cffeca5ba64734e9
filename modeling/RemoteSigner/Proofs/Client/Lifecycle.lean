import RemoteSigner.Client.Embedding

/-!
# The life of a signer

A client that has started a signer always ends it in the same way: it releases the end that it
reads, then the end that it writes, kills the signer once and waits for it once.  It makes no
difference which step of the start failed, what the key was used for, how the uses went, or whether
the key was closed or only given up.

Calls exchange octets with the signer, and leave alone everything that the end depends on
(`Child.Untouched`).  So the end of a child that has been used is the end of a child at its start.

## Main definitions

* `Transport.ClosesAs`: streams that close in the same way
* `Child.Untouched`, `Child.Ended`: a child before and after its end
* `Key.Use`, `Key.after`: what a key may be used for, and the key after some uses

## Main results

* `Key.close_untouched`: how the steps at the end go
* `Key.spawn_ends`: every started signer is ended
* `Embedding.withKey_ends`: so it is behind the interface for programs in C
-/

namespace RemoteSigner

/-! ## Traffic -/

namespace Wire

namespace Frame

variable {α : Type} [Message α]

theorem readBody_closeError (length : Nat) (source : Source) :
    (readBody α length source).2.closeError = source.closeError := by
  unfold readBody
  rcases run : Source.fillFrom length source.chunks with ⟨_ | body | _, chunks⟩ <;>
    simp only [Source.fill, run]
  split <;> rfl

theorem read_closeError (source : Source) :
    (read α source).2.closeError = source.closeError := by
  unfold read
  rcases run : Source.fillFrom headerLength source.chunks with ⟨header | bytes | _, chunks⟩ <;>
    simp only [Source.fill, run]
  · split
    · rfl
    · exact readBody_closeError _ _
  · cases bytes <;> rfl

theorem write_closeError (message : α) (sink : Sink) :
    (write message sink).2.closeError = sink.closeError := by
  have flushed (sink : Sink) : sink.flush.2.closeError = sink.closeError := by
    rw [Sink.flush]
    split <;> rfl
  rw [write]
  split
  · rfl
  split
  · next error left run => exact congrArg (·.2.closeError) run.symm
  · next left run =>
    have taken : left.closeError = sink.closeError := congrArg (·.2.closeError) run.symm
    split <;> next ended => rw [← taken, ← flushed left, ended]

end Frame

/-- What closing the streams of a transport fails with is the same for another one. -/
structure Transport.ClosesAs (t t' : Transport) : Prop where
  source : t'.source.closeError = t.source.closeError
  sink : t'.sink.closeError = t.sink.closeError

namespace Transport

theorem ClosesAs.refl (t : Transport) : t.ClosesAs t := ⟨rfl, rfl⟩

theorem ClosesAs.trans {t t' t'' : Transport} (first : t.ClosesAs t') (second : t'.ClosesAs t'') :
    t.ClosesAs t'' :=
  ⟨second.source.trans first.source, second.sink.trans first.sink⟩

theorem send_closesAs {α : Type} [Message α] (message : α) (t : Transport) :
    t.ClosesAs (t.send message).2 :=
  ⟨rfl, Frame.write_closeError message t.sink⟩

theorem receive_closesAs (α : Type) [Message α] (t : Transport) : t.ClosesAs (t.receive α).2 :=
  ⟨Frame.read_closeError t.source, rfl⟩

end Transport

namespace Connection

theorem call_closesAs (call : Call) (c : Connection) :
    c.transport.ClosesAs (c.call call).2.transport := by
  have sent := Transport.send_closesAs (Request.current c.nextId call) c.transport
  rw [Connection.call]
  split
  · next error t run => rwa [run] at sent
  · next t run =>
    rw [run] at sent
    have received := sent.trans (Transport.receive_closesAs Response t)
    split <;> next run => rwa [run] at received

theorem request_closesAs {α : Type} (call : Call) (pick : Reply → Option α) (c : Connection) :
    c.transport.ClosesAs (c.request call pick).2.transport :=
  call_closesAs call c

end Connection

end Wire

/-! ## Children -/

namespace Child

/-- A child of this process to which nothing has been done: its streams may have been used. -/
structure Untouched (process : Process) (child : Child) : Prop where
  running : child.isRunning = true
  history : child.history = []
  killError : child.killError = process.killError
  waitError : child.waitError = process.waitError
  closes : process.transport.ClosesAs child.connection.transport

/-- A child that has been ended: every step has been attempted once, in this order. -/
structure Ended (child : Child) : Prop where
  history : child.history = [.releaseSource, .releaseSink, .kill, .wait]
  waited : child.isRunning = false
  source : child.connection.transport.source.isClosed = true
  sink : child.connection.transport.sink.isClosed = true

theorem untouched_start (process : Process) : (start process).Untouched process :=
  ⟨rfl, rfl, rfl, rfl, .refl _⟩

variable {process : Process} {child : Child}

/-- Calls do not touch a child. -/
theorem Untouched.exchange (untouched : child.Untouched process) {c : Wire.Connection}
    (closes : child.connection.transport.ClosesAs c.transport) :
    { child with connection := c }.Untouched process where
  running := untouched.running
  history := untouched.history
  killError := untouched.killError
  waitError := untouched.waitError
  closes := untouched.closes.trans closes

theorem isRunning_wait (child : Child) : child.wait.2.isRunning = false := by
  unfold wait
  split
  · rfl
  · next ended => exact Bool.eq_false_iff.mpr ended

/-- A child that is given up is ended. -/
theorem Untouched.abandon (untouched : child.Untouched process) : child.abandon.Ended := by
  have running := untouched.running
  have history := untouched.history
  constructor <;>
    simp [Child.abandon, releaseSource, releaseSink, reap, kill, wait, running, history,
      Wire.Source.close, Wire.Sink.close]

end Child

namespace Client

/-- What the steps at the end of a process fail with, in the order of the steps. -/
def endFailures (process : Process) : List Error :=
  let transport := process.transport
  (transport.source.closeError.map Error.connectionClose).toList ++
    (transport.sink.closeError.map Error.connectionClose).toList ++
      (process.killError.map Error.kill).toList ++ (process.waitError.map Error.wait).toList

/-- What is reported of some failures: the first one. -/
def firstOf : List Error → Except Error Unit
  | [] => .ok ()
  | error :: _ => .error error

theorem handshake_closesAs (c : Wire.Connection) :
    c.transport.ClosesAs (handshake c).2.transport := by
  have asked : c.transport.ClosesAs c.certificateChain.2.transport :=
    Wire.Connection.request_closesAs ..
  rcases run : c.certificateChain with ⟨chain, c'⟩
  rw [run] at asked
  have askedAgain : c'.transport.ClosesAs c'.publicKey.2.transport :=
    Wire.Connection.request_closesAs ..
  simp only [handshake, run]
  split
  · exact asked
  · exact asked.trans askedAgain

namespace Key

variable {process : Process} {key : Key}

/-! ## Uses -/

/-- What a key may be used for. -/
inductive Use where
  | sign (digest : Bytes) (opts : Option SignerOpts)
  | encrypt (plaintext : Bytes) (hash : HashAlgorithm)
  | decrypt (ciphertext : Bytes) (hash : HashAlgorithm)
  deriving DecidableEq, Repr

/-- One use of a key. -/
def use (key : Key) : Use → Except Error Bytes × Key
  | .sign digest opts => key.sign digest opts
  | .encrypt plaintext hash => key.encrypt plaintext hash
  | .decrypt ciphertext hash => key.decrypt ciphertext hash

/-- The key after some uses, whatever they came to. -/
def after (key : Key) (uses : List Use) : Key := uses.foldl (fun key next => (key.use next).2) key

theorem call_untouched {α : Type} (operation : Call.Tag)
    {f : Wire.Connection → Except Wire.Error α × Wire.Connection}
    (closes : ∀ c : Wire.Connection, c.transport.ClosesAs (f c).2.transport)
    (untouched : key.child.Untouched process) :
    (Key.call operation f key).2.child.Untouched process :=
  untouched.exchange (closes key.child.connection)

/-- A use leaves the child alone. -/
theorem use_untouched (untouched : key.child.Untouched process) (next : Use) :
    (key.use next).2.child.Untouched process := by
  cases next with
  | sign => exact call_untouched _ (Wire.Connection.request_closesAs _ _) untouched
  | encrypt => exact call_untouched _ (Wire.Connection.request_closesAs _ _) untouched
  | decrypt => exact call_untouched _ (Wire.Connection.request_closesAs _ _) untouched

/-- Any number of uses leave the child alone. -/
theorem after_untouched (untouched : key.child.Untouched process) (uses : List Use) :
    (key.after uses).child.Untouched process := by
  induction uses generalizing key with
  | nil => exact untouched
  | cons next uses ih => exact ih (use_untouched untouched next)

/-! ## The end -/

/-- Closing a key does the same to the child as giving the key up. -/
theorem close_snd (running : key.child.isRunning = true) : key.close.2 = key.drop := by
  let released := key.child.releaseSource.2.releaseSink.2
  have still : released.isRunning = true := running
  have waited : ¬ released.kill.2.wait.2.isRunning = true := by
    rw [Child.isRunning_wait]
    exact Bool.false_ne_true
  calc key.close.2
    _ = released.kill.2.wait.2.reap := rfl
    _ = released.kill.2.wait.2 := if_neg waited
    _ = released.reap := (if_pos still).symm
    _ = key.drop := rfl

/-- The steps at the end of an untouched child are all attempted, and the first failure is
reported. -/
theorem close_untouched (untouched : key.child.Untouched process) :
    key.close.2.Ended ∧ key.close.1 = firstOf (endFailures process) := by
  have running := untouched.running
  constructor
  · rw [close_snd running]
    exact untouched.abandon
  · rw [endFailures, ← untouched.closes.source, ← untouched.closes.sink, ← untouched.killError,
      ← untouched.waitError]
    simp only [close, Child.release, Child.releaseSource, Child.releaseSink, Child.kill, Child.wait,
      running, if_true, Wire.Source.close, Wire.Sink.close]
    rcases key.child.connection.transport.source.closeError with _ | readError
    · rcases key.child.connection.transport.sink.closeError with _ | writeError
      · rcases key.child.killError with _ | killError
        · rcases key.child.waitError with _ | waitError <;> rfl
        · rfl
      · rfl
    · rfl

/-- What becomes of a started process: a key is opened with an untouched child, or the child is
ended. -/
def Settles (process : Process) : Except Failure Key → Prop
  | .error failure => ∃ child, failure.child = some child ∧ child.Ended
  | .ok key => key.child.Untouched process

theorem ofChild_settles {child : Child} (untouched : child.Untouched process) :
    Settles process (ofChild child) := by
  have after := untouched.exchange (handshake_closesAs child.connection)
  rcases run : handshake child.connection with ⟨identity, c⟩
  rw [run] at after
  rw [ofChild, run]
  cases identity with
  | error error => exact ⟨_, rfl, after.abandon⟩
  | ok identity => exact after

/-- **Every signer that has been started is ended**, each step being attempted once and the streams
going first: by the start itself if that fails, or else when the key is closed or given up, whatever
it was used for.  Closing reports the first step that failed. -/
theorem spawn_ends {launch : Launcher} {signer config : Bytes}
    (started : launch signer config = .ok process) :
    (∀ failure, spawn launch signer config = .error failure →
      ∃ child, failure.child = some child ∧ child.Ended) ∧
    (∀ key, spawn launch signer config = .ok key → ∀ uses : List Use,
      (key.after uses).child.Untouched process ∧ (key.after uses).drop.Ended ∧
        (key.after uses).close.2.Ended ∧
          (key.after uses).close.1 = firstOf (endFailures process)) := by
  have opening : spawn launch signer config = ofChild (.start process) := by rw [spawn, started]
  have settles := ofChild_settles (Child.untouched_start process)
  rw [← opening] at settles
  constructor
  · intro failure failed
    rwa [failed] at settles
  · intro key opened uses
    rw [opened] at settles
    have used := after_untouched settles uses
    obtain ⟨ended, reported⟩ := close_untouched used
    exact ⟨used, used.abandon, ended, reported⟩

/-- A signer that answers the first two calls: its key is opened, used and closed, although neither
the end that is written can be closed nor the signer be killed. -/
theorem spawn_ends_unkillable :
    let responses : List Response :=
      [.ok 0 (.certificateChain [[]]), .ok 1 (.publicKey (PublicKey.encode (.rsa ⟨15, 3⟩)))]
    let frames := responses.flatMap fun response => Wire.Frame.encode (Message.encode response)
    let process : Process :=
      { transport :=
          ⟨{ chunks := [.octets frames] }, { closeError := some ⟨.other, "broken pipe"⟩ }⟩
        killError := some ⟨.other, "no such process"⟩ }
    ∃ key, spawn (fun _ _ => .ok process) [] [] = .ok key ∧
      (key.after [.sign [] none]).drop.Ended ∧ (key.after [.sign [] none]).close.2.Ended ∧
        (key.after [.sign [] none]).close.1 =
          .error (.connectionClose ⟨.other, "broken pipe"⟩) := by
  intro responses frames process
  let launch : Launcher := fun _ _ => .ok process
  have opens : (spawn launch [] []).isOk = true := by decide +kernel
  rcases spawned : spawn launch [] [] with failure | key
  · rw [spawned] at opens
    exact absurd opens Bool.false_ne_true
  have started : launch [] [] = .ok process := rfl
  obtain ⟨-, dropped, closed, reported⟩ := (spawn_ends started).2 key spawned [.sign [] none]
  exact ⟨key, rfl, dropped, closed, reported⟩

end Key

/-- However a key is opened, a signer that has been started is settled. -/
theorem openKey_settles (host : Host) (explicit : Option Bytes) :
    (∃ error, openKey host explicit = .error ⟨error, none⟩) ∨
      ∃ process, Key.Settles process (openKey host explicit) := by
  rw [openKey]
  split
  · next error _ => exact .inl ⟨_, rfl⟩
  rw [Key.spawn]
  split
  · next error _ => exact .inl ⟨_, rfl⟩
  · next process _ => exact .inr ⟨process, Key.ofChild_settles (Child.untouched_start process)⟩

namespace Embedding

/-- A function of the interface ends the signer that it has started, if its use of the key leaves
the signer alone. -/
theorem withKey_ends {α : Type} (host : Host) (config : Option Bytes)
    {use : Key → Except Error α × Key}
    (leaves : ∀ process key, key.child.Untouched process → (use key).2.child.Untouched process) :
    ∀ child ∈ (withKey host config use).2, child.Ended := by
  intro child started
  rw [withKey] at started
  rcases openKey_settles host (configPath config) with ⟨error, opening⟩ | ⟨process, settles⟩
  · rw [opening] at started
    exact absurd started (Option.not_mem_none child)
  · rcases opening : openKey host (configPath config) with failure | key <;>
      rw [opening] at settles started
    · obtain ⟨left, given, ended⟩ := settles
      obtain rfl := Option.some.inj (given.symm.trans started)
      exact ended
    · obtain rfl := Option.some.inj started
      exact (Key.close_untouched (leaves process key settles)).1

/-- **No function of the interface leaves a signer behind.** -/
theorem functions_end (host : Host) (config digest buffer : Option Bytes) :
    (∀ child ∈ (getCertPem host config buffer).2, child.Ended) ∧
    (∀ child ∈ (sign host config digest buffer).2, child.Ended) ∧
    (∀ child ∈ (keyType host config).2, child.Ended) := by
  refine ⟨?_, ?_, ?_⟩
  · show ∀ child ∈ (withKey host config fun key => (.ok key.chainFile, key)).2, child.Ended
    exact withKey_ends host config fun _ _ untouched => untouched
  · cases digest with
    | none => exact fun child none => absurd none (Option.not_mem_none child)
    | some digest =>
      apply withKey_ends host config
      intro process key untouched
      split
      · exact untouched
      · next opts _ => exact Key.use_untouched untouched (.sign digest (some opts))
  · show ∀ child ∈ (withKey host config fun key => (.ok (kindOf key.publicKey), key)).2, child.Ended
    exact withKey_ends host config fun _ _ untouched => untouched

end Embedding

end Client

end RemoteSigner
