import Mathlib.Data.List.Infix
import RemoteSigner.Wire.Stream

/-!
# What streams deliver and take

Whatever a source does, a read takes octets off the front of those that are still to come, and no
more than it asked for.  A source that delivers its octets in pieces of any size, with interruptions
of any number, fills every buffer up to the end of its octets: `Source.Delivers` says of a source
what its octets are, and how they are cut plays no part from there on.

Whatever a sink does, it takes octets off the front of those that are written.  A sink that is
patient takes them all.

## Main definitions

* `Source.unread`: the octets that are still to come
* `Source.Delivers`: a source that hands over these octets and then ends
* `Sink.Patient`: a sink that takes everything, a piece at a time
* `Sink.Took`: what a patient sink has taken

## Main results

* `Source.fill_takes`: a read takes a part of the octets off their front
* `Source.Delivers.fill_full`, `Source.Delivers.fill_short`: a read of a steady source
* `Sink.push_takes`, `Sink.push_patient`: a write, and a write to a patient sink
-/

namespace RemoteSigner.Wire

/-! ## Reading -/

namespace Source

/-- The octets of chunks. -/
def contents : List Chunk → Bytes
  | [] => []
  | .octets bytes :: chunks => bytes ++ contents chunks
  | .failure _ :: chunks => contents chunks

/-- The octets that are still to come. -/
def unread (source : Source) : Bytes := contents source.chunks

/-- A read takes octets off the front of those that are still to come: no more than were asked for,
and exactly those that the buffer is full of.  A chunk that is longer than what is asked for is
still to come with its rest; any other is taken whole, and more from the next ones. -/
theorem fillFrom_takes (n : Nat) (chunks : List Chunk) :
    ∃ got, contents chunks = got ++ contents (fillFrom n chunks).2 ∧ got.length ≤ n ∧
      ∀ bytes, (fillFrom n chunks).1 = .full bytes → bytes = got ∧ got.length = n := by
  fun_induction fillFrom n chunks with
  | case1 chunks => exact ⟨[], by simp⟩
  | case2 n => exact ⟨[], by simp⟩
  | case3 n error rest _ ih => exact ih
  | case4 n error rest _ => exact ⟨[], by simp [contents]⟩
  | case5 n bytes rest empty => exact ⟨[], by simp_all [contents]⟩
  | case6 n bytes rest _ all fill left run ih =>
    rcases ih with ⟨got, split, short, full⟩
    rw [run] at split full
    rw [List.isEmpty_iff, List.drop_eq_nil_iff] at all
    refine ⟨bytes ++ got, ?_, ?_, ?_⟩
    · rw [contents, split, List.append_assoc]
    · rw [List.length_append]
      omega
    · intro whole h
      cases fill with
      | full more =>
        obtain ⟨rfl, len⟩ := full more rfl
        cases h
        exact ⟨rfl, by rw [List.length_append]; omega⟩
      | short more => cases h
      | failed error => cases h
  | case7 n bytes rest _ more =>
    rw [List.isEmpty_iff, List.drop_eq_nil_iff] at more
    refine ⟨bytes.take (n + 1), ?_, ?_, ?_⟩
    · simp only [contents]
      rw [← List.append_assoc, List.take_append_drop]
    · exact List.length_take_le ..
    · intro whole h
      cases h
      exact ⟨rfl, by rw [List.length_take]; omega⟩

theorem fill_takes (n : Nat) (source : Source) :
    ∃ got, source.unread = got ++ (source.fill n).2.unread ∧ got.length ≤ n ∧
      ∀ bytes, (source.fill n).1 = .full bytes → bytes = got ∧ got.length = n :=
  fillFrom_takes n source.chunks

end Source

/-- A chunk that does not end a stream: octets, or an interruption that nobody hears of. -/
def Chunk.Steady : Chunk → Prop
  | octets bytes => bytes ≠ []
  | failure error => error.kind = .interrupted

namespace Source

/-- A source that hands over these octets in pieces of any size, with interruptions, and ends. -/
structure Delivers (source : Source) (octets : Bytes) : Prop where
  steady : ∀ chunk ∈ source.chunks, chunk.Steady
  unread_eq : source.unread = octets

/-- What filling a buffer comes to where nothing but the end of the octets can stop it. -/
def fillOf (n : Nat) (octets : Bytes) : Fill :=
  if n ≤ octets.length then .full (octets.take n) else .short octets

/-- Behind some octets, the rest of a buffer is filled with what follows them. -/
theorem after_fillOf {bytes : Bytes} {n : Nat} (le : bytes.length ≤ n) (octets : Bytes) :
    (fillOf (n - bytes.length) octets).after bytes = fillOf n (bytes ++ octets) := by
  have enough : n - bytes.length ≤ octets.length ↔ n ≤ (bytes ++ octets).length := by
    rw [List.length_append]
    omega
  by_cases h : n - bytes.length ≤ octets.length
  · rw [fillOf, fillOf, if_pos h, if_pos (enough.mp h), List.take_append, List.take_of_length_le le,
      Fill.after]
  · rw [fillOf, fillOf, if_neg h, if_neg (enough.not.mp h), Fill.after]

/-- A read of steady chunks takes the octets that were asked for, or all if there are too few.  A
steady chunk does not fail and is not empty: it fills the buffer alone, or it is taken whole and the
others fill what is left of the buffer. -/
theorem fillFrom_steady (n : Nat) {chunks : List Chunk} (steady : ∀ chunk ∈ chunks, chunk.Steady) :
    (fillFrom n chunks).1 = fillOf n (contents chunks) ∧
      (∀ chunk ∈ (fillFrom n chunks).2, chunk.Steady) ∧
      contents (fillFrom n chunks).2 = (contents chunks).drop n := by
  fun_induction fillFrom n chunks with
  | case1 chunks => exact ⟨by simp [fillOf], steady, by simp⟩
  | case2 n => exact ⟨by simp [fillOf, contents], steady, by simp [contents]⟩
  | case3 n error rest _ ih => exact ih fun chunk mem => steady chunk (List.mem_cons_of_mem _ mem)
  | case4 n error rest other => exact absurd (steady _ List.mem_cons_self) other
  | case5 n bytes rest empty =>
    exact absurd (List.isEmpty_iff.mp empty) (steady _ List.mem_cons_self)
  | case6 n bytes rest _ all fill left run ih =>
    obtain ⟨filled, steadyLeft, drop⟩ :=
      ih fun chunk mem => steady chunk (List.mem_cons_of_mem _ mem)
    rw [run] at filled steadyLeft drop
    rw [List.isEmpty_iff, List.drop_eq_nil_iff] at all
    refine ⟨?_, steadyLeft, ?_⟩
    · rw [contents, ← after_fillOf all, ← filled]
    · rw [contents, drop, List.drop_append, List.drop_of_length_le all, List.nil_append]
  | case7 n bytes rest _ more =>
    have long : n + 1 < bytes.length := by
      rw [List.isEmpty_iff, List.drop_eq_nil_iff] at more
      omega
    refine ⟨?_, ?_, ?_⟩
    · rw [contents, fillOf, if_pos (by rw [List.length_append]; omega),
        List.take_append_of_le_length (Nat.le_of_lt long)]
    · intro chunk mem
      rcases List.mem_cons.mp mem with rfl | mem
      · simpa [Chunk.Steady] using long
      · exact steady chunk (List.mem_cons_of_mem _ mem)
    · rw [contents, contents, List.drop_append_of_le_length (Nat.le_of_lt long)]

namespace Delivers

variable {source : Source}

/-- A buffer is filled with the first octets of a steady source. -/
theorem fill_full {bytes rest : Bytes} (h : source.Delivers (bytes ++ rest)) :
    ∃ left, source.fill bytes.length = (.full bytes, left) ∧ left.Delivers rest := by
  obtain ⟨filled, steady, drop⟩ := fillFrom_steady bytes.length h.steady
  rw [← unread, h.unread_eq] at filled drop
  rw [fillOf, if_pos (by simp), List.take_left] at filled
  rw [List.drop_left] at drop
  exact ⟨_, Prod.ext filled rfl, steady, drop⟩

/-- A buffer that is too long for a steady source gets all that the source has. -/
theorem fill_short {n : Nat} {octets : Bytes} (h : source.Delivers octets)
    (short : octets.length < n) :
    ∃ left, source.fill n = (.short octets, left) ∧ left.Delivers [] := by
  obtain ⟨filled, steady, drop⟩ := fillFrom_steady n h.steady
  rw [← unread, h.unread_eq] at filled drop
  rw [fillOf, if_neg (Nat.not_le.mpr short)] at filled
  rw [List.drop_of_length_le (Nat.le_of_lt short)] at drop
  exact ⟨_, Prod.ext filled rfl, steady, drop⟩

end Delivers

end Source

/-! ## Writing -/

/-- An acceptance that does not end a write: some octets, or an interruption that nobody hears of.
-/
def Accept.Patient : Accept → Prop
  | upTo n => 0 < n
  | failure error => error.kind = .interrupted

namespace Sink

/-- A sink that takes everything, in pieces of any size and with interruptions, and that can always
be flushed. -/
structure Patient (sink : Sink) : Prop where
  accepts : ∀ accept ∈ sink.script, accept.Patient
  flushes : ∀ failure ∈ sink.flushScript, failure = none

/-- A sink whose scripts are empty is patient. -/
theorem patient_of_nil {sink : Sink} (script : sink.script = []) (flushes : sink.flushScript = []) :
    sink.Patient := by
  refine ⟨?_, ?_⟩
  · rw [script]
    exact nofun
  · rw [flushes]
    exact nofun

/-- A write takes octets off the front of those that are written, and all of them if it succeeds. -/
theorem push_takes (bytes : Bytes) (script : List Accept) :
    (push bytes script).1 <+: bytes ∧
      ((push bytes script).2.1 = .ok () → (push bytes script).1 = bytes) := by
  fun_induction push bytes script with
  | case1 script => exact ⟨List.prefix_rfl, fun _ => rfl⟩
  | case2 bytes _ => exact ⟨List.prefix_rfl, fun _ => rfl⟩
  | case3 bytes error rest _ _ ih => exact ih
  | case4 bytes error rest _ _ => exact ⟨List.nil_prefix, nofun⟩
  | case5 bytes rest _ => exact ⟨List.nil_prefix, nofun⟩
  | case6 bytes n rest _ _ taken result left run ih =>
    rw [run] at ih
    rcases ih with ⟨⟨more, split⟩, whole⟩
    refine ⟨⟨more, ?_⟩, fun ok => ?_⟩
    · rw [List.append_assoc, split, List.take_append_drop]
    · have all : taken = bytes.drop n := whole ok
      change bytes.take n ++ taken = bytes
      rw [all, List.take_append_drop]

/-- A patient sink takes all octets. -/
theorem push_patient (bytes : Bytes) {script : List Accept}
    (patient : ∀ accept ∈ script, accept.Patient) :
    ∃ left, push bytes script = (bytes, .ok (), left) ∧ ∀ accept ∈ left, accept.Patient := by
  fun_induction push bytes script with
  | case1 script => exact ⟨script, rfl, patient⟩
  | case2 bytes _ => exact ⟨[], rfl, nofun⟩
  | case3 bytes error rest _ _ ih => exact ih fun a mem => patient a (List.mem_cons_of_mem _ mem)
  | case4 bytes error rest _ other => exact absurd (patient _ List.mem_cons_self) other
  | case5 bytes rest _ => exact absurd (patient _ List.mem_cons_self) (Nat.lt_irrefl 0)
  | case6 bytes n rest _ _ taken result left run ih =>
    obtain ⟨left', all, patientLeft⟩ := ih fun a mem => patient a (List.mem_cons_of_mem _ mem)
    obtain ⟨rfl, rfl, rfl⟩ : taken = bytes.drop n ∧ result = .ok () ∧ left = left' := by
      simpa using run.symm.trans all
    exact ⟨left, by rw [List.take_append_drop], patientLeft⟩

theorem writeAll_takes (bytes : Bytes) (sink : Sink) :
    ∃ sent, (sink.writeAll bytes).2.written = sink.written ++ sent ∧ sent <+: bytes ∧
      ((sink.writeAll bytes).1 = .ok () → sent = bytes) := by
  obtain ⟨front, whole⟩ := push_takes bytes sink.script
  exact ⟨_, rfl, front, whole⟩

/-- A sink has taken these octets and has been flushed so often, and is patient still. -/
structure Took (octets : Bytes) (flushes : Nat) (before after : Sink) : Prop where
  written : after.written = before.written ++ octets
  flushed : after.flushes = before.flushes + flushes
  patient : after.Patient

theorem Took.refl {sink : Sink} (patient : sink.Patient) : sink.Took [] 0 sink :=
  ⟨(List.append_nil _).symm, rfl, patient⟩

theorem Took.trans {first second : Bytes} {n m : Nat} {before between after : Sink}
    (left : Took first n before between) (right : Took second m between after) :
    Took (first ++ second) (n + m) before after where
  written := by rw [right.written, left.written, List.append_assoc]
  flushed := by rw [right.flushed, left.flushed, Nat.add_assoc]
  patient := right.patient

namespace Patient

variable {sink : Sink}

theorem writeAll (patient : sink.Patient) (bytes : Bytes) :
    ∃ left, sink.writeAll bytes = (.ok (), left) ∧ Took bytes 0 sink left := by
  obtain ⟨script, all, accepts⟩ := push_patient bytes patient.accepts
  refine ⟨{ sink with written := sink.written ++ bytes, script }, ?_, rfl, rfl, accepts,
    patient.flushes⟩
  rw [Sink.writeAll, all]

theorem flush (patient : sink.Patient) :
    ∃ left, sink.flush = (.ok (), left) ∧ Took [] 1 sink left := by
  cases script : sink.flushScript with
  | nil =>
    refine ⟨{ sink with flushes := sink.flushes + 1 }, ?_, ?_⟩
    · simp [Sink.flush, script]
    · exact ⟨(List.append_nil _).symm, rfl, patient.accepts, patient.flushes⟩
  | cons failure rest =>
    have none : failure = none := patient.flushes failure (by simp [script])
    refine ⟨{ sink with flushes := sink.flushes + 1, flushScript := rest }, ?_, ?_⟩
    · simp [Sink.flush, script, none]
    · refine ⟨(List.append_nil _).symm, rfl, patient.accepts, ?_⟩
      intro failure mem
      exact patient.flushes failure (by simp [script, mem])

end Patient

end Sink

end RemoteSigner.Wire
