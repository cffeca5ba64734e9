import RemoteSigner.Main
import RemoteSigner.Proofs.Program.Logging
import RemoteSigner.Proofs.Wire.Reading

/-!
# Standard input in portions

A program can not wait for all of standard input, because its client waits for answers.  It reads on
until there is a frame, asking for no more than is missing, serves that portion, and reads on.  To
serve one portion after the other comes to the same as to serve all of them at once: the results,
what is written and what is recorded are the same, and all that may differ is what is left of
standard input behind a failure, which nobody reads.

## Main definitions

* `Frame.Gathers`, `Frame.Whole`: octets that are read on until they make a frame
* `ConsoleT.Blind`: an action that has nothing to do with standard input
* `ConsoleT.observed`: what an action comes to, but for what is left of standard input
* `ConsoleT.servePortions`: serving one portion after the other

## Main results

* `Frame.Gathers.whole`: what is read of a frame is a portion
* `ConsoleT.observed_servePortions`: serving portions
* `Program.observed_finish`: a signer that serves portions
* `CommandLine.answer_blind`: what the executable does with a request is fit for that
-/

namespace RemoteSigner

open Wire

/-! ## Reading on -/

namespace Wire

namespace Frame

/-- Octets that are read on for the sake of one frame, with no more octets than it lacks. -/
inductive Gathers : Bytes → Prop where
  | nil : Gathers []
  | more {octets bytes : Bytes} (gathers : Gathers octets) (few : bytes.length ≤ missing octets) :
      Gathers (octets ++ bytes)

/-- A whole frame, or a header that announces too much. -/
structure Whole (octets : Bytes) : Prop where
  long : headerLength ≤ octets.length
  exact : announced octets ≤ maxLength → octets.length = headerLength + announced octets

/-- Octets within the first frame stay within it. -/
theorem Gathers.within {octets : Bytes} (gathers : Gathers octets) :
    octets.length ≤ headerLength ∨ octets.length ≤ headerLength + announced octets := by
  induction gathers with
  | nil => exact .inl (Nat.zero_le _)
  | @more octets bytes gathers few ih =>
    rw [List.length_append]
    change bytes.length ≤ if octets.length < headerLength then headerLength - octets.length
      else if maxLength < announced octets then 0
      else headerLength + announced octets - octets.length at few
    split_ifs at few with short large
    · exact .inl (by omega)
    · obtain rfl := List.length_eq_zero_iff.mp (Nat.le_zero.mp few)
      rw [List.append_nil]
      exact ih
    · have same : announced (octets ++ bytes) = announced octets := by
        rw [announced, List.take_append_of_le_length (Nat.not_lt.mp short), announced]
      rw [same]
      exact .inr (by omega)

/-- **What is gathered until nothing is missing is a whole frame**, and no octet of another one. -/
theorem Gathers.whole {octets : Bytes} (gathers : Gathers octets) (complete : missing octets = 0) :
    Whole octets := by
  have none : ¬ 0 < missing octets := by rw [complete]; exact Nat.lt_irrefl 0
  rw [missing_pos_iff] at none
  have within := gathers.within
  constructor
  · omega
  · intro fits
    omega

end Frame

namespace Source

variable (bytes : Bytes) (later : List Chunk)

/-- A buffer is filled with the front of a longer piece. -/
theorem fillFrom_octets {n : Nat} (room : 0 < n) (enough : n ≤ bytes.length) :
    fillFrom n (.octets bytes :: later) =
      (.full (bytes.take n), putBack (bytes.drop n) later) := by
  obtain ⟨n, rfl⟩ := Nat.exists_eq_add_one.mpr room
  have some : ¬ bytes.isEmpty = true := by
    rw [List.isEmpty_iff]
    rintro rfl
    exact absurd enough (Nat.not_succ_le_zero n)
  rw [fillFrom, if_neg some, putBack]
  split_ifs with all
  · rw [List.isEmpty_iff, List.drop_eq_nil_iff] at all
    simp only [Nat.sub_eq_zero_of_le enough, fillFrom, Fill.after, List.append_nil,
      List.take_of_length_le all]
  · rfl

/-- A buffer of the right length takes a whole piece. -/
theorem fillFrom_putBack : fillFrom bytes.length (putBack bytes later) = (.full bytes, later) := by
  rcases bytes with _ | ⟨b, bytes⟩
  · simp only [List.length_nil, fillFrom, putBack, List.isEmpty_nil, if_true]
  · have some : putBack (b :: bytes) later = .octets (b :: bytes) :: later := rfl
    have room : 0 < (b :: bytes).length := Nat.succ_pos _
    rw [some, fillFrom_octets (b :: bytes) later room le_rfl, List.take_length, List.drop_length]
    rfl

end Source

namespace Frame

variable (α : Type) [Message α]

/-- A portion is read as a message, and nothing behind it is taken, or it is no message whatever is
behind it. -/
theorem read_portion {octets : Bytes} (whole : Whole octets) (source : Source) :
    (∃ error, ∀ later, ∃ left, read α { source with chunks := .octets octets :: later } =
      (.error error, { source with chunks := left })) ∨
    ∃ message, ∀ later, read α { source with chunks := .octets octets :: later } =
      (.ok (some message), { source with chunks := later }) := by
  let left := octets.drop headerLength
  have run (later : List Chunk) : read α { source with chunks := .octets octets :: later } =
      if maxLength < announced octets then
        (.error (.frameTooLarge (announced octets) maxLength),
          { source with chunks := Source.putBack left later })
      else
        let between : Source := { source with chunks := Source.putBack left later }
        ((readBody α (announced octets) between).1.map some,
          (readBody α (announced octets) between).2) := by
    simp only [read, Source.fill, Source.fillFrom_octets octets later (by decide) whole.long]
    rfl
  by_cases large : maxLength < announced octets
  · exact .inl ⟨_, fun later => ⟨_, (run later).trans (if_pos large)⟩⟩
  have body : left.length = announced octets := by
    rw [List.length_drop, whole.exact (Nat.not_lt.mp large), Nat.add_sub_cancel_left]
  have decoded (later : List Chunk) :
      readBody α (announced octets) { source with chunks := Source.putBack left later } =
        ((Message.decode α .memory left).mapError Error.serialization,
          { source with chunks := later }) := by
    simp only [readBody, Source.fill, ← body, Source.fillFrom_putBack]
    cases Message.decode α .memory left <;> rfl
  simp only [if_neg large, decoded] at run
  cases found : Message.decode α .memory left with
  | error error =>
    rw [found] at run
    exact .inl ⟨_, fun later => ⟨later, run later⟩⟩
  | ok message =>
    rw [found] at run
    exact .inr ⟨message, run⟩

/-- Where nothing is left, the stream ends in front of a message. -/
theorem read_end (source : Source) : read α { source with chunks := [] } =
    (Except.map (fun _ => none) (.ok ()), { source with chunks := [] }) := by
  simp only [read, Source.fill, headerLength, Source.fillFrom]
  rfl

/-- What is read is the end or a failure, or a message. -/
theorem read_cases (source : Source) :
    (∃ (ending : Except Error Unit) (rest : Source),
      read α source = (ending.map fun _ => none, rest)) ∨
    ∃ message rest, read α source = (.ok (some message), rest) := by
  rcases read α source with ⟨error | _ | message, rest⟩
  · exact .inl ⟨.error error, rest, rfl⟩
  · exact .inl ⟨.ok (), rest, rfl⟩
  · exact .inr ⟨message, rest, rfl⟩

end Frame

end Wire

/-! ## Actions and standard input -/

/-- The console with standard input changed. -/
def Console.onSource (f : Source → Source) (console : Console) : Console :=
  { console with transport.source := f console.transport.source }

/-- A source of which nothing is left. -/
def Wire.Source.drained (source : Source) : Source := { source with chunks := [] }

theorem Console.noted_onSource (logging : Logging) (record : LogRecord) (f : Source → Source)
    (console : Console) :
    (console.onSource f).noted logging record = (console.noted logging record).onSource f := by
  rw [noted, noted]
  split <;> rfl

namespace ConsoleT

variable {m : Type → Type} [Monad m] {α β : Type} {f : Source → Source}

/-- An action does the same where standard input is changed, and does not undo the change. -/
def Respects (f : Source → Source) (action : ConsoleT m α) : Prop :=
  ∀ logging console, (action.run logging).run (console.onSource f) =
    (fun r => (r.1, r.2.onSource f)) <$> (action.run logging).run console

/-- An action has nothing to do with standard input. -/
def Blind (action : ConsoleT m α) : Prop := ∀ f, Respects f action

/-- What an action comes to, but for what is left of standard input. -/
def observed (logging : Logging) (action : ConsoleT m α) (console : Console) : m (α × Console) :=
  (fun r => (r.1, r.2.onSource Source.drained)) <$> (action.run logging).run console

/-- Serves one portion of standard input after the other. -/
def servePortions (handle : Request → ConsoleT m Response) :
    List (List Chunk) → ConsoleT m (Except Wire.Error Unit)
  | [] => pure (.ok ())
  | chunks :: rest => servePortion handle chunks (servePortions handle rest)

variable [LawfulMonad m]

namespace Respects

theorem pure (a : α) : Respects f (Pure.pure a : ConsoleT m α) := by
  intro logging console
  rw [ReaderT.run_pure, StateT.run_pure, StateT.run_pure, map_pure]

theorem bind {action : ConsoleT m α} {next : α → ConsoleT m β} (respects : Respects f action)
    (respects' : ∀ a, Respects f (next a)) : Respects f (action >>= next) := by
  intro logging console
  rw [ReaderT.run_bind, StateT.run_bind, StateT.run_bind, respects, map_bind, bind_map_left]
  congr 1
  funext r
  exact respects' r.1 logging r.2

theorem perform (x : m α) : Respects f (ConsoleT.perform x) := by
  intro logging console
  rw [run_perform, run_perform, Functor.map_map]

theorem note (importance : Importance) (message : String) :
    Respects f (ConsoleT.note importance message : ConsoleT m Unit) := by
  intro logging console
  rw [run_note, run_note, map_pure, console.noted_onSource]

theorem noteFailure (what : String) (result : Except IoError Unit) :
    Respects f (ConsoleT.noteFailure what result : ConsoleT m Unit) := by
  cases result with
  | error error => exact note _ _
  | ok => exact pure ()

/-- Streams are used in the same way if what is done to them is. -/
theorem stream {g : Transport → α × Transport}
    (same : ∀ t : Transport, g { t with source := f t.source } =
      ((g t).1, { (g t).2 with source := f (g t).2.source })) :
    Respects f (ConsoleT.stream g : ConsoleT m α) := by
  intro logging console
  rw [run_stream, run_stream, map_pure]
  simp only [Console.onSource, same console.transport]

end Respects

/-! ## Serving -/

section

variable {logging : Logging} {handle : Request → ConsoleT m Response} {source rest : Source}

/-- What cannot be told apart without reading on stays so behind an action that does not read. -/
theorem observed_bind {action : ConsoleT m α} {next : α → ConsoleT m β}
    (respects : ∀ a, Respects Source.drained (next a)) (console : Console) :
    observed logging (action >>= next) console =
      observed logging action console >>= fun r => observed logging (next r.1) r.2 := by
  have again (console : Console) : (console.onSource Source.drained).onSource Source.drained =
      console.onSource Source.drained := rfl
  simp only [observed, ReaderT.run_bind, StateT.run_bind, map_bind, bind_map_left]
  congr 1
  funext r
  rw [respects, Functor.map_map]
  simp only [again]

/-- Where there are no more requests, serving leaves what is left behind the last one. -/
theorem run_serveFrom_of_ending {ending : Except Wire.Error Unit}
    (read : Frame.read Request source = (ending.map fun _ => none, rest)) (console : Console) :
    ((serveFrom handle source).run logging).run console =
      pure (ending, console.onSource fun _ => rest) := by
  have ends : serveFrom handle source = (do
      stream fun t => ((), { t with source := rest })
      pure ending) := by
    rw [serveFrom]
    split <;> next same =>
      rw [read] at same
      cases ending <;> cases same <;> rfl
  rw [ends, ReaderT.run_bind, StateT.run_bind, run_stream, pure_bind]
  rfl

/-- Serving one request, and then all others. -/
theorem run_serveFrom_of_request {request : Request}
    (read : Frame.read Request source = (.ok (some request), rest)) (console : Console) :
    ((serveFrom handle source).run logging).run console =
      ((handle request).run logging).run (console.onSource fun _ => rest) >>= fun r =>
        match r.2.transport.send r.1 with
        | (.error error, transport) => pure (.error error, { r.2 with transport })
        | (.ok (), transport) =>
          ((serveFrom handle rest).run logging).run { r.2 with transport } := by
  rw [serveFrom]
  split
  · next received => cases read.symm.trans received
  · next received => cases read.symm.trans received
  · next received =>
    cases read.symm.trans received
    rw [ReaderT.run_bind, StateT.run_bind, run_stream, pure_bind, ReaderT.run_bind,
      StateT.run_bind]
    congr 1
    funext r
    rw [ReaderT.run_bind, StateT.run_bind, run_stream, pure_bind]
    rcases r.2.transport.send r.1 with ⟨error | _, transport⟩ <;> rfl

/-- Serving does not ask which source the console has. -/
theorem run_serveFrom_onSource (f : Source → Source) (console : Console) :
    ((serveFrom handle source).run logging).run (console.onSource f) =
      ((serveFrom handle source).run logging).run console := by
  rcases Frame.read_cases Request source with ⟨ending, rest, read⟩ | ⟨request, rest, read⟩
  · rw [run_serveFrom_of_ending read, run_serveFrom_of_ending read]
    rfl
  · rw [run_serveFrom_of_request read, run_serveFrom_of_request read]
    rfl

theorem run_serve_onSource (console : Console) :
    ((serve handle).run logging).run (console.onSource fun _ => source) =
      ((serveFrom handle source).run logging).run console := by
  rw [serve, ReaderT.run_bind, StateT.run_bind, run_stream, pure_bind]
  exact run_serveFrom_onSource (fun _ => source) console

/-- Serving a portion is serving what it adds to standard input. -/
theorem run_servePortion (chunks : List Chunk) (next : ConsoleT m (Except Wire.Error Unit))
    (console : Console) :
    ((servePortion handle chunks next).run logging).run (console.onSource fun _ => source) =
      ((serveFrom handle { source with chunks }).run logging).run console >>= fun r =>
        match r.1 with
        | .error error => pure (.error error, r.2)
        | .ok () => (next.run logging).run r.2 := by
  rw [servePortion, ReaderT.run_bind, StateT.run_bind, run_stream, pure_bind, ReaderT.run_bind,
    StateT.run_bind, ← run_serve_onSource]
  congr 1
  funext r
  rcases r with ⟨error | _, console⟩ <;> rfl

variable (blind : ∀ request, Blind (handle request))
include blind

/-- A portion in front of others is served alone; what comes next serves the others. -/
theorem observed_servePortion {octets : Bytes} (whole : Frame.Whole octets) (later : List Chunk)
    {next : ConsoleT m (Except Wire.Error Unit)}
    (goesOn : ∀ console : Console,
      observed logging next (console.onSource fun _ => { source with chunks := [] }) =
        observed logging (serveFrom handle { source with chunks := later }) console)
    (console : Console) :
    observed logging (servePortion handle [.octets octets] next)
        (console.onSource fun _ => source) =
      observed logging (serveFrom handle { source with chunks := .octets octets :: later })
        console := by
  rw [observed, run_servePortion]
  rcases Frame.read_portion Request whole source with ⟨error, refused⟩ | ⟨request, received⟩
  · have ends (later : List Chunk) : ∃ left, Frame.read Request
        { source with chunks := .octets octets :: later } =
          (Except.map (fun _ => none) (.error error : Except Wire.Error Unit),
            { source with chunks := left }) :=
      refused later
    obtain ⟨left, read⟩ := ends later
    obtain ⟨left', read'⟩ := ends []
    rw [observed, run_serveFrom_of_ending read, run_serveFrom_of_ending read', pure_bind, map_pure,
      map_pure]
    rfl
  · have finished := Frame.read_end Request source
    rw [observed, run_serveFrom_of_request (received later), run_serveFrom_of_request (received []),
      blind request, blind request]
    simp only [map_bind, bind_map_left, bind_assoc]
    congr 1
    funext r
    rcases sent : Frame.write r.1 r.2.transport.sink with ⟨error | _, sink⟩
    · simp only [Transport.send, Console.onSource, sent, pure_bind, map_pure]
      rfl
    · simp only [Transport.send, Console.onSource, sent, run_serveFrom_of_ending finished,
        pure_bind]
      have others := goesOn { r.2 with transport := { r.2.transport with sink } }
      rw [observed, observed, ← run_serveFrom_onSource fun _ => { source with chunks := later }]
        at others
      exact others

/-- **Serving portions is serving all of standard input.** -/
theorem observed_servePortions {portions : List Bytes}
    (whole : ∀ octets ∈ portions, Frame.Whole octets) (last : List Chunk) (source : Source)
    (console : Console) :
    observed logging (servePortions handle (portions.map ([.octets ·]) ++ [last]))
        (console.onSource fun _ => source) =
      observed logging (serveFrom handle { source with
        chunks := portions.map .octets ++ last }) console := by
  induction portions generalizing source console with
  | nil =>
    rw [List.map_nil, List.map_nil, List.nil_append, List.nil_append, observed, servePortions,
      run_servePortion, observed, servePortions]
    congr 1
    refine Eq.trans ?_ (bind_pure _)
    congr 1
    funext r
    rcases r with ⟨error | _, console⟩ <;> rfl
  | cons octets rest ih =>
    obtain ⟨first, others⟩ := List.forall_mem_cons.mp whole
    exact observed_servePortion blind first (rest.map .octets ++ last)
      (ih others { source with chunks := [] }) console

end

end ConsoleT

/-! ## The signer program -/

namespace Program

open ConsoleT

variable {m : Type → Type} [Monad m] [LawfulMonad m]

theorem answer_blind (provider : Signer.Provider m) (request : Request) :
    Blind (answer provider request) := by
  intro f
  refine .bind (.perform _) fun response => ?_
  exact .bind (.note _ _) fun _ => .pure response

/-- Closing the streams does not take anything from standard input. -/
theorem respects_finish (served : Except Wire.Error Unit) :
    Respects Source.drained (finish served : ConsoleT m _) := by
  cases served with
  | error error => exact .pure _
  | ok =>
    have closing : Respects Source.drained (ConsoleT.close : ConsoleT m _) := by
      refine .bind (.stream fun t => rfl) fun first => ?_
      refine .bind (.noteFailure _ first) fun _ => ?_
      refine .bind (.stream fun t => rfl) fun second => ?_
      exact .bind (.noteFailure _ second) fun _ => .pure _
    exact .bind (.note _ _) fun _ => .bind closing fun closed => .pure _

/-- **A signer that serves portions serves all of standard input**: with the same outcome, the same
octets on standard output and the same records. -/
theorem observed_finish {handle : Request → ConsoleT m Response}
    (blind : ∀ request, Blind (handle request)) {portions : List Bytes}
    (gathered : ∀ octets ∈ portions, Frame.Gathers octets ∧ Frame.missing octets = 0)
    (last : List Chunk) (source : Source) (logging : Logging) (console : Console) :
    observed logging (servePortions handle (portions.map ([.octets ·]) ++ [last]) >>= finish)
        (console.onSource fun _ => source) =
      observed logging (ConsoleT.serve handle >>= finish) (console.onSource fun _ =>
        { source with chunks := portions.map .octets ++ last }) := by
  have whole (octets : Bytes) (portion : octets ∈ portions) : Frame.Whole octets :=
    (gathered octets portion).1.whole (gathered octets portion).2
  rw [observed_bind respects_finish, observed_bind respects_finish,
    observed_servePortions blind whole, observed, observed, run_serve_onSource]

end Program

/-- What the executable does with a request leaves standard input alone. -/
theorem CommandLine.answer_blind {m : Type → Type} [Monad m] [LawfulMonad m]
    (provider : Signer.Provider m) (put : Bytes → m Sink) (request : Request) :
    ConsoleT.Blind (answer provider put request) := by
  intro f
  refine .bind (Program.answer_blind provider request f) fun response => ?_
  exact .bind (.perform _) fun sink => .bind (.stream fun t => rfl) fun _ => .pure response

end RemoteSigner
