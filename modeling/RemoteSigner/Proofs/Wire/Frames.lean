import RemoteSigner.Proofs.Octets.Faithful
import RemoteSigner.Proofs.Wire.Streams
import RemoteSigner.Wire.Frame

/-!
# What is in a stream of frames

Any octets begin with some frames that hold messages, and end somehow behind the last of these:
right behind it, within a frame, or with a frame that is refused.  `Starts` and `Ends` say so
without reading, and there is one way only to take octets apart like this (`exists_frames`,
`Starts.unique`).  Reading a steady source comes to the same.

## Main definitions

* `ofMessage`, `Fits`: the frame of a message, and the messages that may have one
* `Starts`, `Ends`: the messages at the start of a stream, and what stands behind them

## Main results

* `read_message`, `read_ends`: what reading a steady source gives
* `read_takes`: reading any source takes one frame at most
* `write_takes`, `write_patient`: what writing to any sink and to a patient one does
-/

namespace RemoteSigner.Wire.Frame

/-! ## The form of a frame -/

@[simp] theorem length_encode (body : Bytes) :
    (encode body).length = headerLength + body.length := by
  simp [encode]

theorem toNatural_header {body : Bytes} (fits : body.length ≤ maxLength) :
    (Bytes.ofNatural headerLength body.length).toNatural = body.length :=
  Bytes.toNatural_ofNatural (Nat.lt_of_le_of_lt fits (by decide))

/-- Octets with their length in front are a frame. -/
theorem eq_encode {header body : Bytes} (len : header.length = headerLength)
    (announced : body.length = header.toNatural) : header ++ body = encode body := by
  rw [encode, announced, Bytes.ofNatural_toNatural len]

/-- A frame at the start of some octets is the first one in them. -/
theorem first_encode {body : Bytes} (fits : body.length ≤ maxLength) (rest : Bytes) :
    first (encode body ++ rest) = encode body := by
  have header : (encode body ++ rest).take headerLength =
      Bytes.ofNatural headerLength body.length := by
    rw [encode, List.append_assoc, List.take_left' (by simp)]
  rw [first, header, toNatural_header fits]
  exact List.take_left' (by simp)

theorem encode_append_inj {body body' rest rest' : Bytes} (fits : body.length ≤ maxLength)
    (fits' : body'.length ≤ maxLength) (same : encode body ++ rest = encode body' ++ rest') :
    body = body' ∧ rest = rest' := by
  have frames : encode body = encode body' := by
    rw [← first_encode fits rest, same, first_encode fits']
  rw [frames] at same
  exact ⟨(List.append_inj frames (by simp)).2, List.append_cancel_left same⟩

variable {α : Type} [Message α]

/-- The frame of a message. -/
def ofMessage (message : α) : Bytes := encode (Message.encode message)

/-- A message that may be sent. -/
def Fits (message : α) : Prop := (Message.encode message).length ≤ maxLength

instance (message : α) : Decidable (Fits message) := Nat.decLe ..

/-! ## Reading a steady source -/

variable {source : Source} {octets header body rest : Bytes}

theorem read_finished (delivers : source.Delivers []) :
    ∃ left : Source, left.Delivers [] ∧ read α source = (.ok none, left) := by
  obtain ⟨left, filled, delivers⟩ := delivers.fill_short (n := headerLength) (by decide)
  exact ⟨left, delivers, by simp only [read, filled]⟩

theorem read_shortHeader (delivers : source.Delivers octets) (start : octets ≠ [])
    (short : octets.length < headerLength) :
    ∃ left, read α source = (.error (.io "reading a frame header" endInHeader), left) := by
  obtain ⟨left, filled, -⟩ := delivers.fill_short short
  obtain ⟨b, octets, rfl⟩ := List.exists_cons_of_ne_nil start
  exact ⟨left, by simp only [read, filled]⟩

theorem read_header (delivers : source.Delivers (header ++ rest))
    (len : header.length = headerLength) :
    ∃ between : Source, between.Delivers rest ∧ read α source =
      if maxLength < header.toNatural then
        (.error (.frameTooLarge header.toNatural maxLength), between)
      else ((readBody α header.toNatural between).1.map some,
        (readBody α header.toNatural between).2) := by
  obtain ⟨between, filled, delivers⟩ := delivers.fill_full
  rw [len] at filled
  exact ⟨between, delivers, by simp only [read, filled]⟩

theorem read_tooLarge (delivers : source.Delivers (header ++ rest))
    (len : header.length = headerLength) (large : maxLength < header.toNatural) :
    ∃ left, read α source = (.error (.frameTooLarge header.toNatural maxLength), left) := by
  obtain ⟨between, -, run⟩ := read_header (α := α) delivers len
  rw [if_pos large] at run
  exact ⟨between, run⟩

theorem read_shortBody (delivers : source.Delivers (header ++ body))
    (len : header.length = headerLength) (fits : header.toNatural ≤ maxLength)
    (short : body.length < header.toNatural) :
    ∃ left, read α source = (.error (.io "reading a frame body" endInBody), left) := by
  obtain ⟨between, delivers, run⟩ := read_header (α := α) delivers len
  rw [if_neg (Nat.not_lt.mpr fits)] at run
  obtain ⟨left, filled, -⟩ := delivers.fill_short short
  refine ⟨left, run.trans ?_⟩
  simp only [readBody, filled]
  rfl

/-- A complete frame is read as what its body decodes to. -/
theorem read_frame (delivers : source.Delivers (encode body ++ rest))
    (fits : body.length ≤ maxLength) :
    ∃ left : Source, left.Delivers rest ∧ read α source =
      (((Message.decode α .memory body).mapError Error.serialization).map some, left) := by
  rw [encode, List.append_assoc] at delivers
  obtain ⟨between, delivers, run⟩ := read_header (α := α) delivers (Bytes.length_ofNatural _ _)
  rw [toNatural_header fits, if_neg (Nat.not_lt.mpr fits)] at run
  obtain ⟨left, filled, delivers⟩ := delivers.fill_full
  refine ⟨left, delivers, run.trans ?_⟩
  simp only [readBody, filled]
  cases Message.decode α .memory body <;> rfl

/-! ## Taking octets apart -/

/-- Octets that do not begin with the frame of a message, and what a reader is told of them. -/
inductive Ends (α : Type) [Message α] : Bytes → Except Error Unit → Prop where
  | finished : Ends α [] (.ok ())
  | shortHeader {octets : Bytes} (start : octets ≠ []) (short : octets.length < headerLength) :
      Ends α octets (.error (.io "reading a frame header" endInHeader))
  | tooLarge {header rest : Bytes} (len : header.length = headerLength)
      (large : maxLength < header.toNatural) :
      Ends α (header ++ rest) (.error (.frameTooLarge header.toNatural maxLength))
  | shortBody {header body : Bytes} (len : header.length = headerLength)
      (fits : header.toNatural ≤ maxLength) (short : body.length < header.toNatural) :
      Ends α (header ++ body) (.error (.io "reading a frame body" endInBody))
  | garbage {body rest : Bytes} {error : Json.Error} (fits : body.length ≤ maxLength)
      (undecodable : Message.decode α .memory body = .error error) :
      Ends α (encode body ++ rest) (.error (.serialization error))

/-- Octets begin with the frames of these messages; the rest follows. -/
inductive Starts (α : Type) [Message α] : Bytes → List α → Bytes → Prop where
  | nil (rest : Bytes) : Starts α rest [] rest
  | cons {body octets rest : Bytes} {message : α} {messages : List α}
      (fits : body.length ≤ maxLength) (decodes : Message.decode α .memory body = .ok message)
      (more : Starts α octets messages rest) :
      Starts α (encode body ++ octets) (message :: messages) rest

/-- The end of a steady source is read as it is. -/
theorem read_ends {ending : Except Error Unit} (ends : Ends α octets ending)
    (delivers : source.Delivers octets) :
    ∃ left, read α source = (ending.map fun _ => none, left) := by
  cases ends with
  | finished =>
    obtain ⟨left, -, run⟩ := read_finished (α := α) delivers
    exact ⟨left, run⟩
  | shortHeader start short => exact read_shortHeader delivers start short
  | tooLarge len large => exact read_tooLarge delivers len large
  | shortBody len fits short => exact read_shortBody delivers len fits short
  | garbage fits undecodable =>
    obtain ⟨left, -, run⟩ := read_frame (α := α) delivers fits
    rw [undecodable] at run
    exact ⟨left, run⟩

/-- The first message of a steady source is read as it was meant. -/
theorem read_message {message : α} (delivers : source.Delivers (encode body ++ rest))
    (fits : body.length ≤ maxLength) (decodes : Message.decode α .memory body = .ok message) :
    ∃ left : Source, left.Delivers rest ∧ read α source = (.ok (some message), left) := by
  obtain ⟨left, delivers, run⟩ := read_frame (α := α) delivers fits
  rw [decodes] at run
  exact ⟨left, delivers, run⟩

/-- Octets end at once, or begin with the frame of a message.  The cases are those of the reader:
the end, a header that is cut short, a length that is too large, a body that is cut short, and a
whole frame. -/
theorem ends_or_starts (α : Type) [Message α] (octets : Bytes) :
    (∃ ending, Ends α octets ending) ∨ ∃ body rest, ∃ message : α, octets = encode body ++ rest ∧
      body.length ≤ maxLength ∧ Message.decode α .memory body = .ok message := by
  by_cases start : octets = []
  · subst start
    exact .inl ⟨_, .finished⟩
  by_cases short : octets.length < headerLength
  · exact .inl ⟨_, .shortHeader start short⟩
  obtain ⟨header, tail, rfl, len⟩ : ∃ header tail, octets = header ++ tail ∧
      header.length = headerLength :=
    ⟨_, _, (List.take_append_drop headerLength octets).symm,
      List.length_take_of_le (Nat.not_lt.mp short)⟩
  by_cases large : maxLength < header.toNatural
  · exact .inl ⟨_, .tooLarge len large⟩
  by_cases cut : tail.length < header.toNatural
  · exact .inl ⟨_, .shortBody len (Nat.not_lt.mp large) cut⟩
  obtain ⟨body, rest, rfl, announced⟩ : ∃ body rest, tail = body ++ rest ∧
      body.length = header.toNatural :=
    ⟨_, _, (List.take_append_drop header.toNatural tail).symm,
      List.length_take_of_le (Nat.not_lt.mp cut)⟩
  have fits : body.length ≤ maxLength := announced ▸ Nat.not_lt.mp large
  rw [← List.append_assoc, eq_encode len announced]
  cases decoded : Message.decode α .memory body with
  | error error => exact .inl ⟨_, .garbage fits decoded⟩
  | ok message => exact .inr ⟨body, rest, message, rfl, fits, decoded⟩

/-- All octets begin with some frames of messages and end somehow behind them.  What follows a frame
is shorter by the header at least. -/
theorem exists_frames (α : Type) [Message α] (octets : Bytes) :
    ∃ messages rest ending, Starts α octets messages rest ∧ Ends α rest ending := by
  induction len : octets.length using Nat.strongRecOn generalizing octets with
  | _ n ih =>
    rcases ends_or_starts α octets with ⟨ending, ends⟩ | ⟨body, rest, message, rfl, fits, decodes⟩
    · exact ⟨[], octets, ending, .nil octets, ends⟩
    · have shorter : rest.length < n := by
        rw [← len, List.length_append, length_encode, headerLength]
        omega
      obtain ⟨messages, last, ending, starts, ends⟩ := ih _ shorter rest rfl
      exact ⟨message :: messages, last, ending, .cons fits decodes starts, ends⟩

/-- Octets of a source that hands them over in one piece. -/
theorem exists_delivers (octets : Bytes) : ∃ source : Source, source.Delivers octets := by
  cases octets with
  | nil => exact ⟨⟨[], none, false⟩, nofun, rfl⟩
  | cons b octets =>
    refine ⟨⟨[.octets (b :: octets)], none, false⟩, ?_, List.append_nil _⟩
    intro chunk mem
    rw [List.mem_singleton.mp mem]
    exact List.cons_ne_nil _ _

theorem Ends.unique {ending ending' : Except Error Unit} (ends : Ends α octets ending)
    (ends' : Ends α octets ending') : ending = ending' := by
  obtain ⟨source, delivers⟩ := exists_delivers octets
  obtain ⟨_, run⟩ := read_ends ends delivers
  obtain ⟨_, run'⟩ := read_ends ends' delivers
  have same := congrArg Prod.fst (run.symm.trans run')
  cases ending <;> cases ending' <;> cases same <;> rfl

/-- A reader is told that all is in order only at the end of the octets. -/
theorem Ends.ok_iff {ending : Except Error Unit} (ends : Ends α octets ending) :
    ending = .ok () ↔ octets = [] := by
  have frame {header : Bytes} (len : header.length = headerLength) (rest : Bytes) :
      header ++ rest ≠ [] := by
    intro none
    rw [(List.append_eq_nil_iff.mp none).1] at len
    cases len
  cases ends with
  | finished => exact iff_of_true rfl rfl
  | shortHeader start short => exact iff_of_false nofun start
  | tooLarge len large => exact iff_of_false nofun (frame len _)
  | shortBody len fits short => exact iff_of_false nofun (frame len _)
  | garbage fits undecodable =>
    rw [encode, List.append_assoc]
    exact iff_of_false nofun (frame (Bytes.length_ofNatural _ _) _)

/-- Octets that end at once do not begin with the frame of a message. -/
theorem Ends.not_message {ending : Except Error Unit} {message : α}
    (ends : Ends α (encode body ++ rest) ending) (fits : body.length ≤ maxLength)
    (decodes : Message.decode α .memory body = .ok message) : False := by
  obtain ⟨source, delivers⟩ := exists_delivers (encode body ++ rest)
  obtain ⟨_, run⟩ := read_ends ends delivers
  obtain ⟨_, -, run'⟩ := read_message delivers fits decodes
  have same := congrArg Prod.fst (run.symm.trans run')
  cases ending <;> cases same

/-- There is one way only to take octets apart.  Two ways begin alike, because the first frame in
some octets is one of a message, or is not. -/
theorem Starts.unique {messages messages' : List α} {rest' : Bytes}
    {ending ending' : Except Error Unit} (starts : Starts α octets messages rest)
    (ends : Ends α rest ending) (starts' : Starts α octets messages' rest')
    (ends' : Ends α rest' ending') :
    messages = messages' ∧ rest = rest' ∧ ending = ending' := by
  induction starts generalizing messages' with
  | nil rest =>
    cases starts' with
    | nil => exact ⟨rfl, rfl, ends.unique ends'⟩
    | cons fits decodes more => exact (ends.not_message fits decodes).elim
  | @cons body octets rest message messages fits decodes more ih =>
    generalize whole : encode body ++ octets = all at starts'
    cases starts' with
    | nil =>
      subst whole
      exact (ends'.not_message fits decodes).elim
    | cons fits' decodes' more' =>
      obtain ⟨rfl, rfl⟩ := encode_append_inj fits fits' whole
      obtain rfl := Except.ok.inj (decodes.symm.trans decodes')
      obtain ⟨rfl, rfl, rfl⟩ := ih ends more'
      exact ⟨rfl, rfl, rfl⟩

/-- Behind the frame of the first message stand those of the others. -/
theorem starts_cons_iff {message : α} {messages : List α} :
    Starts α octets (message :: messages) rest ↔
      ∃ between, Starts α octets [message] between ∧ Starts α between messages rest := by
  constructor
  · intro starts
    cases starts with
    | cons fits decodes more => exact ⟨_, .cons fits decodes (.nil _), more⟩
  · rintro ⟨between, first, more⟩
    cases first with
    | cons fits decodes none =>
      cases none with
      | nil => exact .cons fits decodes more

/-- There are no messages in no octets. -/
theorem Starts.eq_nil {messages : List α} (starts : Starts α [] messages rest) : messages = [] := by
  generalize none : ([] : Bytes) = octets at starts
  cases starts with
  | nil => rfl
  | @cons body more =>
    have length := congrArg List.length none
    rw [encode, List.length_append, List.length_append, Bytes.length_ofNatural,
      headerLength] at length
    simp only [List.length_nil] at length
    omega

/-! ## Reading any source -/

theorem prefix_first {octets got rest : Bytes} (split : octets = got ++ rest)
    (short : got.length ≤ headerLength + Bytes.toNatural (octets.take headerLength)) :
    got <+: first octets :=
  List.prefix_take_iff.mpr ⟨⟨rest, split.symm⟩, short⟩

theorem readBody_takes (α : Type) [Message α] (length : Nat) (source : Source) :
    ∃ got, source.unread = got ++ (readBody α length source).2.unread ∧ got.length ≤ length ∧
      ∀ message, (readBody α length source).1 = .ok message →
        got.length = length ∧ Message.decode α .memory got = .ok message := by
  obtain ⟨got, split, short, full⟩ := source.fill_takes length
  refine ⟨got, ?_⟩
  rw [readBody]
  split
  · next error left run =>
    rw [run] at split
    exact ⟨split, short, nofun⟩
  · next bytes left run =>
    rw [run] at split
    exact ⟨split, short, nofun⟩
  · next body left run =>
    rw [run] at split full
    obtain ⟨rfl, whole⟩ := full body rfl
    cases decoded : Message.decode α .memory body with
    | error error => exact ⟨split, short, nofun⟩
    | ok message => exact ⟨split, short, fun _ same => ⟨whole, congrArg _ (Except.ok.inj same)⟩⟩

/-- Reading takes octets off the front of those that are still to come: at most the first frame, and
exactly the frame of a message if it gives one. -/
theorem read_takes (α : Type) [Message α] (source : Source) :
    ∃ got, source.unread = got ++ (read α source).2.unread ∧ got <+: first source.unread ∧
      ∀ message, (read α source).1 = .ok (some message) → ∃ body, got = encode body ∧
        body.length ≤ maxLength ∧ Message.decode α .memory body = .ok message := by
  obtain ⟨head, split, short, full⟩ := source.fill_takes headerLength
  have front : head <+: first source.unread := prefix_first split (Nat.le_add_right_of_le short)
  rw [read]
  split
  · next error left run =>
    rw [run] at split
    exact ⟨head, split, front, nofun⟩
  · next left run =>
    rw [run] at split
    exact ⟨head, split, front, nofun⟩
  · next bytes left _ run =>
    rw [run] at split
    exact ⟨head, split, front, nofun⟩
  · next header between run =>
    rw [run] at split full
    obtain ⟨rfl, len⟩ := full header rfl
    dsimp only
    split
    · exact ⟨header, split, front, nofun⟩
    · next fits =>
      obtain ⟨got, splitBody, shortBody, whole⟩ := readBody_takes α header.toNatural between
      have all : source.unread =
          header ++ got ++ (readBody α header.toNatural between).2.unread := by
        rw [split, splitBody, List.append_assoc]
      have announced : source.unread.take headerLength = header := by
        rw [split]
        exact List.take_left' len
      refine ⟨header ++ got, all, prefix_first all ?_, ?_⟩
      · rw [announced, List.length_append, len]
        exact Nat.add_le_add_left shortBody _
      · intro message ok
        obtain ⟨full, decodes⟩ := whole message (by
          cases result : (readBody α header.toNatural between).1 <;> simp_all [Except.map])
        exact ⟨got, eq_encode len full, by omega, decodes⟩

/-! ## Writing -/

theorem write_tooLarge {message : α} (large : ¬ Fits message) (sink : Sink) :
    write message sink =
      (.error (.frameTooLarge (Message.encode message).length maxLength), sink) :=
  if_pos (Nat.not_le.mp large)

/-- Writing a message sends a part of its frame, and the whole frame if it succeeds.  Flushing does
not write, even if it fails. -/
theorem write_takes (message : α) (sink : Sink) :
    ∃ sent, (write message sink).2.written = sink.written ++ sent ∧ sent <+: ofMessage message ∧
      ((write message sink).1 = .ok () → sent = ofMessage message ∧ Fits message) := by
  by_cases fits : Fits message
  · obtain ⟨sent, written, front, whole⟩ := sink.writeAll_takes (ofMessage message)
    refine ⟨sent, ?_⟩
    rw [write, if_neg (Nat.not_lt.mpr fits)]
    split
    · next error left run =>
      rw [ofMessage, run] at written
      exact ⟨written, front, fun wrote => by cases wrote⟩
    · next left run =>
      rw [ofMessage, run] at written whole
      have kept : left.flush.2.written = left.written := by
        rw [Sink.flush]
        split <;> rfl
      split
      · next flushed =>
        rw [flushed] at kept
        exact ⟨kept.trans written, front, fun wrote => by cases wrote⟩
      · next flushed =>
        rw [flushed] at kept
        exact ⟨kept.trans written, front, fun _ => ⟨whole rfl, fits⟩⟩
  · rw [write_tooLarge fits]
    exact ⟨[], (List.append_nil _).symm, List.nil_prefix, fun wrote => by cases wrote⟩

/-- A patient sink takes the whole frame and is flushed once. -/
theorem write_patient {message : α} (fits : Fits message) {sink : Sink} (patient : sink.Patient) :
    ∃ left, write message sink = (.ok (), left) ∧ sink.Took (ofMessage message) 1 left := by
  obtain ⟨between, wrote, took⟩ := patient.writeAll (ofMessage message)
  obtain ⟨left, flushed, tookNone⟩ := took.patient.flush
  refine ⟨left, ?_, ?_⟩
  · rw [ofMessage] at wrote
    simp only [write, if_neg (Nat.not_lt.mpr fits), wrote, flushed]
  · have both := took.trans tookNone
    rwa [List.append_nil, Nat.zero_add] at both

end RemoteSigner.Wire.Frame
