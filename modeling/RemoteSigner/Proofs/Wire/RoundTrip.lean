import RemoteSigner.Proofs.Wire.Frames
import RemoteSigner.Proofs.Wire.Messages

/-!
# Messages survive a stream that breaks off

Messages that are written one after the other are read back in their order, however the octets are
cut on the way.  Where the stream breaks off too early, the messages whose frames have come through
whole are read all the same; then the reader finds the end of the stream if it is between two
frames, and a failure of the stream otherwise.

## Main definitions

* `writeEach`, `readAll`: messages one after the other
* `Transmits`: what a stream makes of a kind of messages

## Main results

* `starts_of_prefix`: the whole frames in a part of a stream
* `readAll_eq`: a steady source gives the messages at its start
* `transmits`: messages that are read back are transmitted
-/

namespace RemoteSigner.Wire.Frame

variable {α : Type} [Message α]

/-! ## Messages one after the other -/

/-- Writes messages one after the other, up to the first failure. -/
def writeEach : List α → Sink → Except Error Unit × Sink
  | [], sink => (.ok (), sink)
  | message :: messages, sink =>
    match write message sink with
    | (.error error, sink) => (.error error, sink)
    | (.ok (), sink) => writeEach messages sink

/-- Reads messages one after the other, up to the end of the stream or the first failure. -/
def readAll (α : Type) [Message α] (source : Source) : List α × Except Error Unit :=
  match _ : read α source with
  | (.error error, _) => ([], .error error)
  | (.ok none, _) => ([], .ok ())
  | (.ok (some message), left) =>
    let (messages, ending) := readAll α left
    (message :: messages, ending)
termination_by Source.size source.chunks
decreasing_by exact size_read_lt ‹_›

/-- The frames of messages, one after the other. -/
def framesOf (messages : List α) : Bytes := messages.flatMap ofMessage

theorem framesOf_cons (message : α) (messages : List α) :
    framesOf (message :: messages) = ofMessage message ++ framesOf messages :=
  List.flatMap_cons

theorem framesOf_singleton (message : α) : framesOf [message] = ofMessage message := by
  rw [framesOf_cons, framesOf, List.flatMap_nil, List.append_nil]

theorem writeEach_cons_of_ok {message : α} {messages : List α} {sink : Sink}
    (wrote : (write message sink).1 = .ok ()) :
    writeEach (message :: messages) sink = writeEach messages (write message sink).2 := by
  rcases run : write message sink with ⟨result, left⟩
  rw [run] at wrote
  obtain rfl : result = .ok () := wrote
  simp only [writeEach, run]

/-- Messages are written if the first one is, and then the others. -/
theorem writeEach_cons_eq_ok_iff {message : α} {messages : List α} {sink : Sink} :
    (writeEach (message :: messages) sink).1 = .ok () ↔
      (write message sink).1 = .ok () ∧ (writeEach messages (write message sink).2).1 = .ok () := by
  rcases run : write message sink with ⟨error | _, left⟩
  · simp only [writeEach, run]
    exact ⟨nofun, fun both => nomatch both.1⟩
  · simp only [writeEach, run, true_and]

/-- A patient sink takes the frames of all messages that may be sent. -/
theorem writeEach_patient {messages : List α} (fit : ∀ message ∈ messages, Fits message)
    {sink : Sink} (patient : sink.Patient) :
    ∃ left, writeEach messages sink = (.ok (), left) ∧
      sink.Took (framesOf messages) messages.length left := by
  induction messages generalizing sink with
  | nil => exact ⟨sink, rfl, .refl patient⟩
  | cons message messages ih =>
    obtain ⟨between, wrote, took⟩ := write_patient (fit message List.mem_cons_self) patient
    obtain ⟨left, wroteMore, tookMore⟩ :=
      ih (fun message mem => fit message (List.mem_cons_of_mem _ mem)) took.patient
    refine ⟨left, ?_, ?_⟩
    · simp only [writeEach, wrote, wroteMore]
    · rw [framesOf_cons, List.length_cons, Nat.add_comm]
      exact took.trans tookMore

theorem readAll_of_ending {source left : Source} {ending : Except Error Unit}
    (run : read α source = (ending.map fun _ => none, left)) : readAll α source = ([], ending) := by
  rw [readAll]
  split <;> next same =>
    rw [run] at same
    cases ending <;> cases same <;> rfl

theorem readAll_of_message {source left : Source} {message : α}
    (run : read α source = (.ok (some message), left)) :
    readAll α source = (message :: (readAll α left).1, (readAll α left).2) := by
  rw [readAll]
  split <;> next same =>
    rw [run] at same
    cases same <;> rfl

/-- A steady source gives the messages that it starts with, and then ends as it does.  Each message
is read, and the rest of the source goes on. -/
theorem readAll_eq {octets rest : Bytes} {messages : List α} {ending : Except Error Unit}
    (starts : Starts α octets messages rest) (ends : Ends α rest ending) {source : Source}
    (delivers : source.Delivers octets) : readAll α source = (messages, ending) := by
  induction starts generalizing source with
  | nil rest =>
    obtain ⟨left, run⟩ := read_ends ends delivers
    exact readAll_of_ending run
  | cons fits decodes more ih =>
    obtain ⟨left, delivers, run⟩ := read_message delivers fits decodes
    rw [readAll_of_message run, ih ends delivers]

/-! ## Streams that break off -/

/-- A frame that breaks off ends a stream: in order if nothing of it has come, and with a failure of
the stream otherwise.  A whole header announces the body, of which something is missing. -/
theorem ends_of_truncated (α : Type) [Message α] {body tail : Bytes}
    (fits : body.length ≤ maxLength) (front : tail <+: encode body)
    (short : tail.length < (encode body).length) :
    ∃ ending, Ends α tail ending ∧ (tail = [] → ending = .ok ()) ∧
      (tail ≠ [] → ∃ context error, ending = .error (.io context error)) := by
  by_cases start : tail = []
  · subst start
    exact ⟨.ok (), .finished, fun _ => rfl, fun h => absurd rfl h⟩
  by_cases cut : tail.length < headerLength
  · exact ⟨_, .shortHeader start cut, fun h => absurd h start, fun _ => ⟨_, _, rfl⟩⟩
  have enough : headerLength ≤ tail.length := Nat.not_lt.mp cut
  have header : tail.take headerLength = Bytes.ofNatural headerLength body.length := by
    rcases front with ⟨lost, whole⟩
    have start : (tail ++ lost).take headerLength = tail.take headerLength :=
      List.take_append_of_le_length enough
    rw [← start, whole, encode]
    exact List.take_left' (by simp)
  have announced : Bytes.toNatural (tail.take headerLength) = body.length := by
    rw [header, toNatural_header fits]
  have ends : Ends α (tail.take headerLength ++ tail.drop headerLength) _ :=
    .shortBody (List.length_take_of_le enough) (announced ▸ fits) (by
      rw [announced, List.length_drop]
      rw [length_encode] at short
      omega)
  rw [List.take_append_drop] at ends
  exact ⟨_, ends, fun h => absurd h start, fun _ => ⟨_, _, rfl⟩⟩

/-- A stream of messages starts with them, and nothing else is in it. -/
theorem starts_framesOf [LawfulMessage α] {messages : List α}
    (fit : ∀ message ∈ messages, Fits message) : Starts α (framesOf messages) messages [] := by
  induction messages with
  | nil => exact .nil []
  | cons message messages ih =>
    rw [framesOf_cons]
    exact .cons (fit message List.mem_cons_self) (Message.decode_encode message trivial)
      (ih fun message mem => fit message (List.mem_cons_of_mem _ mem))

/-- A part of a stream of messages starts with those whose frames are whole in it; then it ends in
order between two frames, and with a failure of the stream within one.  The first frame is whole in
the octets, or they end within it. -/
theorem starts_of_prefix [LawfulMessage α] {messages : List α}
    (fit : ∀ message ∈ messages, Fits message) {octets : Bytes}
    (front : octets <+: framesOf messages) :
    ∃ n tail ending, n ≤ messages.length ∧ octets = framesOf (messages.take n) ++ tail ∧
      (∀ k ≤ messages.length, (framesOf (messages.take k)).length ≤ octets.length ↔ k ≤ n) ∧
      Starts α octets (messages.take n) tail ∧ Ends α tail ending ∧
      (tail = [] → ending = .ok ()) ∧
      (tail ≠ [] → ∃ context error, ending = .error (.io context error)) := by
  induction messages generalizing octets with
  | nil =>
    obtain rfl := List.prefix_nil.mp front
    refine ⟨0, [], .ok (), Nat.le_refl 0, rfl, ?_, .nil [], .finished, fun _ => rfl,
      fun h => absurd rfl h⟩
    intro k none
    simp [Nat.le_zero.mp none, framesOf]
  | cons message messages ih =>
    have fits : Fits message := fit message List.mem_cons_self
    rw [framesOf_cons] at front
    by_cases whole : (ofMessage message).length ≤ octets.length
    · obtain ⟨more, rfl⟩ := List.prefix_of_prefix_length_le (List.prefix_append _ _) front whole
      obtain ⟨n, tail, ending, le, split, count, starts, ends, kind⟩ :=
        ih (fun message mem => fit message (List.mem_cons_of_mem _ mem))
          ((List.prefix_append_right_inj _).mp front)
      refine ⟨n + 1, tail, ending, Nat.succ_le_succ le, ?_, ?_, ?_, ends, kind⟩
      · rw [List.take_succ_cons, framesOf_cons, List.append_assoc, ← split]
      · rintro (_ | k) inside
        · simp [framesOf]
        · have := count k (Nat.le_of_succ_le_succ inside)
          rw [List.take_succ_cons, framesOf_cons, List.length_append, List.length_append]
          omega
      · exact .cons fits (Message.decode_encode message trivial) starts
    · have short := Nat.not_le.mp whole
      have part : octets <+: ofMessage message :=
        List.prefix_of_prefix_length_le front (List.prefix_append _ _) (Nat.le_of_lt short)
      obtain ⟨ending, ends, kind⟩ := ends_of_truncated α fits part short
      refine ⟨0, octets, ending, Nat.zero_le _, rfl, ?_, .nil octets, ends, kind⟩
      rintro (_ | k) -
      · simp [framesOf]
      · rw [List.take_succ_cons, framesOf_cons, List.length_append]
        omega

/-! ## Transmission -/

/-- What a stream makes of messages of a kind. -/
structure Transmits (α : Type) [Message α] : Prop where
  /-- Messages that may be sent are taken by a patient sink.  Where a steady source hands over a
  part of what was taken, the messages whose frames are whole in it are read, and no others.  Then
  the stream has ended if it breaks off between two frames, and fails otherwise. -/
  roundTrip : ∀ messages : List α, (∀ message ∈ messages, Fits message) →
    ∀ sink : Sink, sink.Patient →
      ∃ left, writeEach messages sink = (.ok (), left) ∧
        left.written = sink.written ++ framesOf messages ∧
        ∀ part, part <+: framesOf messages → ∃ n ≤ messages.length,
          (∀ k ≤ messages.length, (framesOf (messages.take k)).length ≤ part.length ↔ k ≤ n) ∧
          ∀ source : Source, source.Delivers part →
            (part = framesOf (messages.take n) → readAll α source = (messages.take n, .ok ())) ∧
            (part ≠ framesOf (messages.take n) → ∃ context error,
              readAll α source = (messages.take n, .error (.io context error)))
  /-- A message that any sink has taken whole is read from it, whatever follows. -/
  accepted : ∀ (message : α) (sink left : Sink), write message sink = (.ok (), left) →
    ∃ frame, left.written = sink.written ++ frame ∧
      ∀ (source : Source) (rest : Bytes), source.Delivers (frame ++ rest) →
        ∃ behind : Source, behind.Delivers rest ∧ read α source = (.ok (some message), behind)

/-- Messages that are read back from their JSON form are read back from a stream. -/
theorem transmits (α : Type) [Message α] [LawfulMessage α] : Transmits α where
  roundTrip messages fit sink patient := by
    obtain ⟨left, wrote, took⟩ := writeEach_patient fit patient
    refine ⟨left, wrote, took.written, ?_⟩
    intro part front
    obtain ⟨n, tail, ending, le, split, count, starts, ends, finished, failed⟩ :=
      starts_of_prefix fit front
    have between : part = framesOf (messages.take n) ↔ tail = [] := by
      rw [split]
      exact List.append_right_eq_self
    refine ⟨n, le, count, ?_⟩
    intro source delivers
    have run := readAll_eq starts ends delivers
    refine ⟨fun whole => ?_, fun cut => ?_⟩
    · rw [run, finished (between.mp whole)]
    · obtain ⟨context, error, rfl⟩ := failed (between.not.mp cut)
      exact ⟨context, error, run⟩
  accepted message sink left wrote := by
    obtain ⟨sent, written, -, whole⟩ := write_takes message sink
    rw [wrote] at written whole
    obtain ⟨rfl, fits⟩ := whole rfl
    refine ⟨ofMessage message, written, ?_⟩
    intro source rest delivers
    exact read_message delivers fits (Message.decode_encode message trivial)

/-- **Requests and responses survive a stream**, however it is cut and wherever it breaks off. -/
theorem transmits_requests_responses : Transmits Request ∧ Transmits Response :=
  ⟨transmits Request, transmits Response⟩

end RemoteSigner.Wire.Frame
