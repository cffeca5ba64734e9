import RemoteSigner.Proofs.Wire.Frames

/-!
# Reading any octets

What comes of reading a frame, and what is left to be read, is decided by the octets that are still
to come.  How they are cut into pieces and how often a read is interrupted makes no difference, and
neither does anything that a stream does behind the first frame: no read asks for more than is
missing of that frame.  So a failure of the stream is heard exactly if an octet of the first frame
is still missing where it stands.

## Main definitions

* `Source.Offers`: a source that hands over some octets before it does anything else
* `Frame.readOctets`: what reading comes to, said without a stream
* `Frame.times`: several reads, one after the other

## Main results

* `Source.Offers.fill_full`, `Source.Offers.fill_of_few`: filling a buffer
* `Frame.read_decided_by_octets`: what one read comes to, and what it leaves
* `Frame.times_read`: the same of any number of reads, failed ones included
-/

namespace RemoteSigner.Wire

/-! ## Octets that are handed over first -/

theorem Fill.after_after (first second : Bytes) (fill : Fill) :
    (fill.after second).after first = fill.after (first ++ second) := by
  cases fill <;> simp [Fill.after]

namespace Source

/-- A source that hands over these octets in pieces of any size, with interruptions, and then does
what is in `tail`. -/
def Offers (source : Source) (octets : Bytes) (tail : List Chunk) : Prop :=
  ∃ pieces, source.chunks = pieces ++ tail ∧ (∀ chunk ∈ pieces, chunk.Steady) ∧
    contents pieces = octets

theorem offers_nil_iff {source : Source} {octets : Bytes} :
    source.Offers octets [] ↔ source.Delivers octets := by
  constructor
  · rintro ⟨pieces, all, steady, rfl⟩
    rw [List.append_nil] at all
    exact ⟨all ▸ steady, congrArg contents all⟩
  · rintro ⟨steady, all⟩
    exact ⟨source.chunks, (List.append_nil _).symm, steady, all⟩

variable {pieces : List Chunk} {n : Nat}

/-- A buffer that the pieces can fill takes nothing of what is behind them.  Each of them is
interrupted, is used up, or fills the buffer. -/
theorem fillFrom_append (steady : ∀ chunk ∈ pieces, chunk.Steady) (tail : List Chunk)
    (enough : n ≤ (contents pieces).length) :
    ∃ left, fillFrom n (pieces ++ tail) = (.full ((contents pieces).take n), left ++ tail) ∧
      (∀ chunk ∈ left, chunk.Steady) ∧ contents left = (contents pieces).drop n := by
  induction pieces generalizing n with
  | nil =>
    obtain rfl : n = 0 := Nat.le_zero.mp enough
    exact ⟨[], by simp [fillFrom], nofun, rfl⟩
  | cons piece pieces ih =>
    obtain ⟨steadyPiece, steadyRest⟩ := List.forall_mem_cons.mp steady
    cases n with
    | zero => exact ⟨piece :: pieces, by simp [fillFrom], steady, rfl⟩
    | succ n =>
      cases piece with
      | failure error =>
        have interrupted : error.kind = .interrupted := steadyPiece
        rw [List.cons_append, fillFrom, if_pos interrupted]
        exact ih steadyRest enough
      | octets bytes =>
        have filled : ¬ bytes.isEmpty = true := mt List.isEmpty_iff.mp steadyPiece
        rw [contents, List.length_append] at enough
        rw [List.cons_append, fillFrom, if_neg filled, contents]
        by_cases all : bytes.length ≤ n + 1
        · have used : (bytes.drop (n + 1)).isEmpty = true :=
            List.isEmpty_iff.mpr (List.drop_of_length_le all)
          obtain ⟨left, run, steadyLeft, behind⟩ :=
            ih (n := n + 1 - bytes.length) steadyRest (by omega)
          refine ⟨left, ?_, steadyLeft, ?_⟩
          · rw [if_pos used, run, List.take_append, List.take_of_length_le all]
            rfl
          · rw [behind, List.drop_append, List.drop_of_length_le all, List.nil_append]
        · have more : ¬ (bytes.drop (n + 1)).isEmpty = true := by
            rw [List.isEmpty_iff, List.drop_eq_nil_iff]
            exact all
          have long : n + 1 ≤ bytes.length := by omega
          refine ⟨.octets (bytes.drop (n + 1)) :: pieces, ?_, ?_, ?_⟩
          · rw [if_neg more, List.take_append_of_le_length long]
            rfl
          · exact List.forall_mem_cons.mpr ⟨mt List.isEmpty_iff.mpr more, steadyRest⟩
          · rw [contents, List.drop_append_of_le_length long]

/-- A buffer that the pieces can not fill is filled on with what is behind them.  No piece is cut:
each of them is used up. -/
theorem fillFrom_append_of_few (steady : ∀ chunk ∈ pieces, chunk.Steady) (tail : List Chunk)
    (few : (contents pieces).length < n) :
    fillFrom n (pieces ++ tail) =
      ((fillFrom (n - (contents pieces).length) tail).1.after (contents pieces),
        (fillFrom (n - (contents pieces).length) tail).2) := by
  induction pieces generalizing n with
  | nil =>
    have nothing (fill : Fill) : fill.after [] = fill := by cases fill <;> rfl
    simp [contents, nothing]
  | cons piece pieces ih =>
    obtain ⟨steadyPiece, steadyRest⟩ := List.forall_mem_cons.mp steady
    obtain ⟨m, rfl⟩ : ∃ m, n = m + 1 := Nat.exists_eq_add_one.mpr (Nat.zero_lt_of_lt few)
    cases piece with
    | failure error =>
      have interrupted : error.kind = .interrupted := steadyPiece
      rw [List.cons_append, fillFrom, if_pos interrupted]
      exact ih steadyRest few
    | octets bytes =>
      have filled : ¬ bytes.isEmpty = true := mt List.isEmpty_iff.mp steadyPiece
      rw [contents, List.length_append] at few
      have used : (bytes.drop (m + 1)).isEmpty = true :=
        List.isEmpty_iff.mpr (List.drop_of_length_le (by omega))
      rw [List.cons_append, fillFrom, if_neg filled, if_pos used, ih steadyRest (by omega), contents,
        ← Fill.after_after, List.length_append, ← Nat.sub_sub]

namespace Offers

variable {source : Source} {octets : Bytes} {tail : List Chunk}

theorem fill_full (offers : source.Offers octets tail) (enough : n ≤ octets.length) :
    ∃ left : Source, source.fill n = (.full (octets.take n), left) ∧
      left.Offers (octets.drop n) tail := by
  obtain ⟨pieces, all, steady, rfl⟩ := offers
  obtain ⟨left, run, steadyLeft, behind⟩ := fillFrom_append steady tail enough
  exact ⟨{ source with chunks := left ++ tail }, by rw [fill, all, run], left, rfl, steadyLeft,
    behind⟩

theorem fill_of_few (offers : source.Offers octets tail) (few : octets.length < n) :
    source.fill n = ((fillFrom (n - octets.length) tail).1.after octets,
      { source with chunks := (fillFrom (n - octets.length) tail).2 }) := by
  obtain ⟨pieces, all, steady, rfl⟩ := offers
  rw [fill, all, fillFrom_append_of_few steady tail few]

/-- Where the octets end too early, all of them are taken. -/
theorem fill_short (offers : source.Offers octets []) (few : octets.length < n) :
    ∃ left : Source, left.chunks = [] ∧ source.fill n = (.short octets, left) := by
  obtain ⟨m, same⟩ : ∃ m, n - octets.length = m + 1 :=
    Nat.exists_eq_add_one.mpr (Nat.sub_pos_of_lt few)
  rw [offers.fill_of_few few, same, fillFrom, Fill.after, List.append_nil]
  exact ⟨_, rfl, rfl⟩

/-- A failure is heard where octets are missing; those in front of it are taken all the same. -/
theorem fill_failed {error : IoError} (offers : source.Offers octets (.failure error :: tail))
    (heard : error.kind ≠ .interrupted) (few : octets.length < n) :
    ∃ left : Source, left.chunks = tail ∧ source.fill n = (.failed error, left) := by
  obtain ⟨m, same⟩ : ∃ m, n - octets.length = m + 1 :=
    Nat.exists_eq_add_one.mpr (Nat.sub_pos_of_lt few)
  rw [offers.fill_of_few few, same, fillFrom, if_neg heard]
  exact ⟨_, rfl, rfl⟩

end Offers

end Source

/-! ## Reading a frame -/

namespace Frame

variable {α : Type} [Message α]

/-- The length that the header at the start of some octets announces. -/
def announced (octets : Bytes) : Nat := Bytes.toNatural (octets.take headerLength)

/-- What reading some octets comes to if nothing follows them, and the octets that are left. -/
def readOctets (α : Type) [Message α] (octets : Bytes) : Except Error (Option α) × Bytes :=
  if octets = [] then (.ok none, [])
  else if octets.length < headerLength then
    (.error (.io "reading a frame header" endInHeader), [])
  else if maxLength < announced octets then
    (.error (.frameTooLarge (announced octets) maxLength), octets.drop headerLength)
  else if octets.length < headerLength + announced octets then
    (.error (.io "reading a frame body" endInBody), [])
  else
    let body := (octets.drop headerLength).take (announced octets)
    (((Message.decode α .memory body).mapError Error.serialization).map some,
      octets.drop (headerLength + announced octets))

/-- Octets of a frame are missing exactly within a header, or within a body that is not too large.
-/
theorem missing_pos_iff {octets : Bytes} : 0 < missing octets ↔ octets.length < headerLength ∨
    headerLength ≤ octets.length ∧ announced octets ≤ maxLength ∧
      octets.length < headerLength + announced octets := by
  change 0 < (if octets.length < headerLength then headerLength - octets.length
    else if maxLength < announced octets then 0
    else headerLength + announced octets - octets.length) ↔ _
  split_ifs with short large <;> omega

variable {source : Source} {octets : Bytes} {tail : List Chunk}

/-- Behind a whole header, what is read depends on the length that it announces. -/
theorem read_of_header (α : Type) [Message α] (offers : source.Offers octets tail)
    (long : headerLength ≤ octets.length) :
    ∃ between : Source, between.Offers (octets.drop headerLength) tail ∧ read α source =
      if maxLength < announced octets then
        (.error (.frameTooLarge (announced octets) maxLength), between)
      else ((readBody α (announced octets) between).1.map some,
        (readBody α (announced octets) between).2) := by
  obtain ⟨between, header, offersBody⟩ := offers.fill_full long
  refine ⟨between, offersBody, ?_⟩
  simp only [read, header]
  rfl

/-- What is read of a whole frame, or of a header that announces too much, leaves all that is behind
as it is. -/
theorem read_of_whole (α : Type) [Message α] (offers : source.Offers octets tail)
    (whole : ¬ 0 < missing octets) :
    ∃ left : Source, left.Offers (readOctets α octets).2 tail ∧
      read α source = ((readOctets α octets).1, left) := by
  rw [missing_pos_iff] at whole
  have long : headerLength ≤ octets.length := by omega
  have start : octets ≠ [] := by
    rintro rfl
    exact absurd long (by decide)
  obtain ⟨between, offersBody, run⟩ := read_of_header α offers long
  rw [readOctets, if_neg start, if_neg (Nat.not_lt.mpr long)]
  by_cases large : maxLength < announced octets
  · rw [if_pos large] at run ⊢
    exact ⟨between, offersBody, run⟩
  · obtain ⟨left, body, offersRest⟩ := offersBody.fill_full (n := announced octets)
      (by rw [List.length_drop]; omega)
    rw [List.drop_drop] at offersRest
    rw [if_neg large] at run ⊢
    rw [if_neg (by omega)]
    refine ⟨left, offersRest, run.trans ?_⟩
    simp only [readBody, body]
    cases Message.decode α .memory ((octets.drop headerLength).take (announced octets)) <;> rfl

/-- A stream that ends within a frame, in its header or in its body, is read to its end. -/
theorem read_of_cut (α : Type) [Message α] (offers : source.Offers octets [])
    (cut : 0 < missing octets) :
    (readOctets α octets).2 = [] ∧
      ∃ left : Source, left.chunks = [] ∧ read α source = ((readOctets α octets).1, left) := by
  rw [readOctets]
  rcases missing_pos_iff.mp cut with short | ⟨long, fits, short⟩
  · obtain ⟨left, none, header⟩ := offers.fill_short short
    rcases octets with _ | ⟨b, octets⟩
    · rw [if_pos rfl]
      exact ⟨rfl, left, none, by simp only [read, header]⟩
    · rw [if_neg (List.cons_ne_nil _ _), if_pos short]
      exact ⟨rfl, left, none, by simp only [read, header]⟩
  · have start : octets ≠ [] := by
      rintro rfl
      exact absurd long (by decide)
    obtain ⟨between, offersBody, run⟩ := read_of_header α offers long
    obtain ⟨left, none, body⟩ := offersBody.fill_short (n := announced octets)
      (by rw [List.length_drop]; omega)
    rw [if_neg (Nat.not_lt.mpr fits)] at run
    rw [if_neg start, if_neg (Nat.not_lt.mpr long), if_neg (Nat.not_lt.mpr fits), if_pos short]
    refine ⟨rfl, left, none, run.trans ?_⟩
    simp only [readBody, body]
    rfl

/-- Where a failure is heard: in front of an octet of the header or in front of one of the body. -/
def contextBehind (octets : Bytes) : String :=
  if octets.length < headerLength then "reading a frame header" else "reading a frame body"

/-- A failure within a frame is passed on, with nothing taken of what is behind it. -/
theorem read_of_failed (α : Type) [Message α] {error : IoError}
    (offers : source.Offers octets (.failure error :: tail)) (heard : error.kind ≠ .interrupted)
    (cut : 0 < missing octets) :
    ∃ left : Source, left.chunks = tail ∧
      read α source = (.error (.io (contextBehind octets) error), left) := by
  rw [contextBehind]
  rcases missing_pos_iff.mp cut with short | ⟨long, fits, short⟩
  · obtain ⟨left, behind, header⟩ := offers.fill_failed heard short
    rw [if_pos short]
    exact ⟨left, behind, by simp only [read, header]⟩
  · obtain ⟨between, offersBody, run⟩ := read_of_header α offers long
    obtain ⟨left, behind, body⟩ := offersBody.fill_failed (n := announced octets) heard
      (by rw [List.length_drop]; omega)
    rw [if_neg (Nat.not_lt.mpr fits)] at run
    rw [if_neg (Nat.not_lt.mpr long)]
    refine ⟨left, behind, run.trans ?_⟩
    simp only [readBody, body]
    rfl

/-- A whole frame is read as what its body decodes to, and what stands behind it is left. -/
theorem readOctets_encode (α : Type) [Message α] {body : Bytes} (fits : body.length ≤ maxLength)
    (rest : Bytes) : readOctets α (encode body ++ rest) =
      (((Message.decode α .memory body).mapError Error.serialization).map some, rest) := by
  have length : (encode body ++ rest).length = headerLength + body.length + rest.length := by
    rw [List.length_append, length_encode]
  have header : announced (encode body ++ rest) = body.length := by
    rw [announced, encode, List.append_assoc, List.take_left' (Bytes.length_ofNatural _ _),
      toNatural_header fits]
  have start : encode body ++ rest ≠ [] := by
    intro none
    rw [none, headerLength, List.length_nil] at length
    omega
  have behind : ((encode body ++ rest).drop headerLength).take body.length = body := by
    rw [encode, List.append_assoc, List.drop_left' (Bytes.length_ofNatural _ _), List.take_left]
  have after : (encode body ++ rest).drop (headerLength + body.length) = rest :=
    List.drop_left' (length_encode body)
  rw [readOctets, if_neg start, header, length, if_neg (by omega), if_neg (Nat.not_lt.mpr fits),
    if_neg (by omega), behind, after]

/-- A stream that ends behind some octets is read as these octets, and leaves what they leave. -/
theorem read_of_delivers (α : Type) [Message α] (delivers : source.Delivers octets) :
    ∃ left : Source, left.Delivers (readOctets α octets).2 ∧
      read α source = ((readOctets α octets).1, left) := by
  have offers := Source.offers_nil_iff.mpr delivers
  by_cases cut : 0 < missing octets
  · obtain ⟨nothing, left, none, run⟩ := read_of_cut α offers cut
    refine ⟨left, ?_, run⟩
    rw [nothing]
    exact Source.offers_nil_iff.mp ⟨[], none, nofun, rfl⟩
  · obtain ⟨left, offersRest, run⟩ := read_of_whole α offers cut
    exact ⟨left, Source.offers_nil_iff.mp offersRest, run⟩

/-- **What a read comes to is decided by the octets that are still to come**, and so is what it
leaves, in whatever pieces they are delivered.  If the stream fails behind some octets, that is
heard exactly if an octet of the first frame is missing there, and nothing that follows is taken.
Behind a whole frame the next read finds what stands there, even if the frame could not be decoded.
-/
theorem read_decided_by_octets (α : Type) [Message α] (octets : Bytes) :
    (∀ source : Source, source.Delivers octets → ∃ left : Source,
      left.Delivers (readOctets α octets).2 ∧ read α source = ((readOctets α octets).1, left)) ∧
    (∀ (source : Source) (error : IoError) (tail : List Chunk), error.kind ≠ .interrupted →
      source.Offers octets (.failure error :: tail) →
        if 0 < missing octets then ∃ left : Source, left.chunks = tail ∧
          read α source = (.error (.io (contextBehind octets) error), left)
        else ∃ left : Source, left.Offers (readOctets α octets).2 (.failure error :: tail) ∧
          read α source = ((readOctets α octets).1, left)) ∧
    ∀ body rest : Bytes, body.length ≤ maxLength → octets = encode body ++ rest →
      readOctets α octets =
        (((Message.decode α .memory body).mapError Error.serialization).map some, rest) := by
  refine ⟨fun _ delivers => read_of_delivers α delivers, ?_, ?_⟩
  · intro source error tail heard offers
    split_ifs with cut
    · exact read_of_failed α offers heard cut
    · exact read_of_whole α offers cut
  · rintro body rest fits rfl
    exact readOctets_encode α fits rest

/-- A frame that is no request, cut within its header and with an interruption, in front of two
octets of another one; and a stream that fails within a header. -/
theorem read_decided_by_octets_garbage :
    let interruption : Chunk := .failure ⟨.interrupted, ""⟩
    let source : Source :=
      { chunks := [.octets [0, 0], interruption, .octets [0, 3, 0x7B], .octets [0x5D, 0x7D, 0, 0]] }
    let failure : IoError := ⟨.brokenPipe, "broken pipe"⟩
    let failing : Source := { chunks := [.octets [0], .octets [0, 0], .failure failure] }
    (∃ left : Source, left.Delivers [0, 0] ∧ read Request source =
      (.error (.serialization (.malformed .keyNotText ⟨1, 2⟩)), left)) ∧
    ∃ left : Source, left.chunks = [] ∧
      read Request failing = (.error (.io "reading a frame header" failure), left) := by
  intro interruption source failure failing
  let octets : Bytes := [0, 0, 0, 3, 0x7B, 0x5D, 0x7D, 0, 0]
  have delivers : source.Delivers octets := by
    refine ⟨?_, by decide⟩
    simp [source, interruption, Chunk.Steady]
  have comesTo : readOctets Request octets =
      (.error (.serialization (.malformed .keyNotText ⟨1, 2⟩)), [0, 0]) := by decide +kernel
  obtain ⟨steady, -, -⟩ := read_decided_by_octets Request octets
  obtain ⟨-, fails, -⟩ := read_decided_by_octets Request [0, 0, 0]
  have failed := fails failing failure [] (by decide)
    ⟨[.octets [0], .octets [0, 0]], rfl, by simp [Chunk.Steady], by decide⟩
  have found := steady source delivers
  rw [comesTo] at found
  rw [if_pos (by decide)] at failed
  exact ⟨found, failed⟩

/-! ## Several reads -/

/-- So many steps, one after the other, and what each of them gives. -/
def times {σ β : Type} (step : σ → β × σ) : Nat → σ → List β × σ
  | 0, state => ([], state)
  | n + 1, state =>
    let (first, state) := step state
    let (others, state) := times step n state
    (first :: others, state)

/-- Any number of reads give what the octets say, one after the other, whatever the reads before
have come to. -/
theorem times_read (α : Type) [Message α] (n : Nat) (delivers : source.Delivers octets) :
    ∃ left : Source, left.Delivers (times (readOctets α) n octets).2 ∧
      times (read α) n source = ((times (readOctets α) n octets).1, left) := by
  induction n generalizing source octets with
  | zero => exact ⟨source, delivers, rfl⟩
  | succ n ih =>
    obtain ⟨between, delivers', run⟩ := read_of_delivers α delivers
    obtain ⟨left, deliversLast, runs⟩ := ih delivers'
    exact ⟨left, deliversLast, by simp only [times, run, runs]⟩

end Frame

end RemoteSigner.Wire
