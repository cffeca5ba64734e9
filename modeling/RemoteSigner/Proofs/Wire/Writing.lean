import RemoteSigner.Proofs.Wire.Frames

/-!
# Writing to any stream

A stream that is written to sees one call after the other: writes that take all of what they offer,
a part of it or nothing, writes that fail, and flushes.  A frame is written out by offering what is
left of it again and again, and flushed once it has been taken as a whole.  Whatever the stream
does, what it has taken in the end is the beginning of the frame, and it has the whole frame exactly
if it has been flushed.

## Main definitions

* `Sink.Event`, `Sink.Sees`: the calls that a sink sees, with its answers
* `Sink.Drains`: the calls by which octets are written out
* `Frame.Sends`: the calls by which a message is written
* `Frame.writeGuarded`: writing with a second look at the length

## Main results

* `Sink.exists_drains`: what a sink sees of octets that are written out
* `Frame.exists_sends`: what a sink sees of a message
* `Frame.write_any_sink`: what a sink has taken, however writing ends
-/

namespace RemoteSigner.Wire

namespace Sink

/-! ## What a sink sees -/

/-- A call that a sink sees, with its answer. -/
inductive Event where
  /-- These octets are offered; the answer is how many of them are taken. -/
  | write (offered : Bytes) (answer : Except IoError Nat)
  /-- Nothing is to be held back. -/
  | flush (answer : Except IoError Unit)

namespace Event

/-- The octets that are taken. -/
def taken : Event → Bytes
  | write offered (.ok n) => offered.take n
  | write _ (.error _) | flush _ => []

/-- Whether the call is a flush. -/
def isFlush : Event → Bool
  | write .. => false
  | flush _ => true

end Event

/-- The octets that are taken by some calls. -/
def taken (events : List Event) : Bytes := events.flatMap Event.taken

/-- A sink answers these calls, one after the other. -/
inductive Sees : Sink → List Event → Sink → Prop where
  | nil (sink : Sink) : Sees sink [] sink
  | write {sink after : Sink} {events : List Event} (offered : Bytes)
      (more : Sees (sink.write offered).2 events after) :
      Sees sink (.write offered (sink.write offered).1 :: events) after
  | flush {sink after : Sink} {events : List Event} (more : Sees sink.flush.2 events after) :
      Sees sink (.flush sink.flush.1 :: events) after

theorem written_write (offered : Bytes) (sink : Sink) :
    (sink.write offered).2.written =
      sink.written ++ (Event.write offered (sink.write offered).1).taken := by
  rw [write]
  split
  · simp [Event.taken]
  · simp [Event.taken, List.take_eq_take_iff]
  · simp [Event.taken]

theorem written_flush (sink : Sink) : sink.flush.2.written = sink.written := by
  rw [flush]
  split <;> rfl

theorem flushes_write (offered : Bytes) (sink : Sink) :
    (sink.write offered).2.flushes = sink.flushes := by
  rw [write]
  split <;> rfl

theorem flushes_flush (sink : Sink) : sink.flush.2.flushes = sink.flushes + 1 := by
  rw [flush]
  split <;> rfl

/-- No write takes more than it offers, or makes the script longer. -/
theorem le_of_write {offered : Bytes} {sink between : Sink} {n : Nat}
    (wrote : sink.write offered = (.ok n, between)) :
    n ≤ offered.length ∧ between.script.length ≤ sink.script.length := by
  rw [write] at wrote
  split at wrote <;> cases wrote
  · exact ⟨Nat.le_refl _, Nat.le_refl _⟩
  · next script => exact ⟨Nat.min_le_right _ _, by simp [script]⟩

/-- A write fails only where the script says so. -/
theorem lt_of_write {offered : Bytes} {sink between : Sink} {error : IoError}
    (failed : sink.write offered = (.error error, between)) :
    between.script.length < sink.script.length := by
  rw [write] at failed
  split at failed <;> cases failed
  next script => simp [script]

namespace Sees

variable {sink between after : Sink} {events events' : List Event}

theorem of_write {offered : Bytes} {answer : Except IoError Nat}
    (wrote : sink.write offered = (answer, between)) (more : Sees between events after) :
    Sees sink (.write offered answer :: events) after := by
  have sees (more : Sees (sink.write offered).2 events after) := Sees.write offered more
  rw [wrote] at sees
  exact sees more

theorem append (first : Sees sink events between) (second : Sees between events' after) :
    Sees sink (events ++ events') after := by
  induction first with
  | nil => exact second
  | write offered _ ih => exact .write offered (ih second)
  | flush _ ih => exact .flush (ih second)

/-- A sink has what it had, and what the calls have brought. -/
theorem written (sees : Sees sink events after) :
    after.written = sink.written ++ taken events := by
  induction sees with
  | nil sink => exact (List.append_nil _).symm
  | write offered _ ih => rw [ih, written_write, List.append_assoc, taken, taken, List.flatMap_cons]
  | @flush sink _ _ _ ih =>
    rw [ih, written_flush, taken, taken, List.flatMap_cons]
    rfl

theorem flushes (sees : Sees sink events after) :
    after.flushes = sink.flushes + events.countP Event.isFlush := by
  induction sees with
  | nil sink => rfl
  | write offered _ ih =>
    rw [ih, flushes_write, List.countP_cons_of_neg (by simp [Event.isFlush])]
  | flush _ ih =>
    rw [ih, flushes_flush, List.countP_cons_of_pos rfl, Nat.add_assoc, Nat.add_comm 1]

end Sees

/-! ## Writing out octets -/

/-- The calls by which octets are written out, and how that ends: what is left is offered until
nothing is left, or until a write takes nothing or fails for good. -/
inductive Drains : Bytes → List Event → Except IoError Unit → Prop where
  | done : Drains [] [] (.ok ())
  | part {offered : Bytes} {n : Nat} {events : List Event} {result : Except IoError Unit}
      (some : 0 < n) (le : n ≤ offered.length) (more : Drains (offered.drop n) events result) :
      Drains offered (.write offered (.ok n) :: events) result
  | interrupted {offered : Bytes} {error : IoError} {events : List Event}
      {result : Except IoError Unit} (start : offered ≠ []) (unheard : error.kind = .interrupted)
      (more : Drains offered events result) :
      Drains offered (.write offered (.error error) :: events) result
  | stuck {offered : Bytes} (start : offered ≠ []) :
      Drains offered [.write offered (.ok 0)] (.error stuck)
  | failed {offered : Bytes} {error : IoError} (start : offered ≠ [])
      (heard : error.kind ≠ .interrupted) :
      Drains offered [.write offered (.error error)] (.error error)

namespace Drains

variable {octets : Bytes} {events : List Event} {result : Except IoError Unit}

theorem no_flush (drains : Drains octets events result) : events.countP Event.isFlush = 0 := by
  induction drains with
  | done => rfl
  | part _ _ _ ih => exact ih
  | interrupted _ _ _ ih => exact ih
  | stuck => rfl
  | failed => rfl

/-- What is taken is the beginning of the octets, and all of them exactly if nothing went wrong.
What is taken now stands in front of what is taken of the rest. -/
theorem taken_prefix (drains : Drains octets events result) :
    taken events <+: octets ∧ (taken events = octets ↔ result = .ok ()) := by
  induction drains with
  | done => exact ⟨List.prefix_rfl, iff_of_true rfl rfl⟩
  | @part offered n events result some le more ih =>
    obtain ⟨front, whole⟩ := ih
    have split : taken (.write offered (.ok n) :: events) = offered.take n ++ taken events := rfl
    have same : offered.take n ++ offered.drop n = offered := List.take_append_drop n offered
    rw [split]
    constructor
    · conv_rhs => rw [← same]
      exact (List.prefix_append_right_inj _).mpr front
    · rw [← whole]
      constructor
      · intro all
        exact List.append_cancel_left (all.trans same.symm)
      · intro rest
        rw [rest, same]
  | interrupted _ _ _ ih => exact ih
  | stuck start => exact ⟨List.nil_prefix, iff_of_false start.symm nofun⟩
  | failed start => exact ⟨List.nil_prefix, iff_of_false start.symm nofun⟩

/-- With a flush behind the calls that have brought all octets, nothing is taken beyond them. -/
theorem flushed {writes : List Event} (drains : Drains octets writes (.ok ()))
    (answer : Except IoError Unit) :
    taken (writes ++ [Event.flush answer]) = octets ∧
      (writes ++ [Event.flush answer]).countP Event.isFlush = 1 := by
  have all : taken writes = octets := drains.taken_prefix.2.mpr rfl
  rw [List.countP_append, drains.no_flush, taken, List.flatMap_append, ← taken, all]
  exact ⟨List.append_nil _, rfl⟩

end Drains

theorem writeAll_nil (sink : Sink) : sink.writeAll [] = (.ok (), sink) := by
  simp [writeAll, push]

/-- Writing out is a loop over single writes: an interrupted one is made again, and one that takes
nothing is the last. -/
theorem writeAll_eq {octets : Bytes} (start : octets ≠ []) (sink : Sink) :
    sink.writeAll octets = match sink.write octets with
      | (.error error, between) =>
        if error.kind = .interrupted then between.writeAll octets else (.error error, between)
      | (.ok n, between) =>
        if n = 0 then (.error stuck, between) else between.writeAll (octets.drop n) := by
  have length : octets.length ≠ 0 := mt List.length_eq_zero_iff.mp start
  cases script : sink.script with
  | nil =>
    simp [write, script, writeAll, push, start]
  | cons step rest =>
    cases step with
    | failure error =>
      by_cases unheard : error.kind = .interrupted
      · simp [write, script, writeAll, push, unheard]
      · simp [write, script, writeAll, push, unheard]
    | upTo n =>
      by_cases none : n = 0
      · simp [write, script, writeAll, push, none]
      · have some : min n octets.length ≠ 0 := by omega
        have rest : octets.drop (min n octets.length) = octets.drop n := by
          rw [List.drop_eq_drop_iff]
          omega
        simp [write, script, writeAll, push, start, none, rest]

/-- Octets are written out by offering what is left of them.  A write that fails uses up a step of
the script, and every other one that is not the last takes an octet. -/
theorem exists_drains (octets : Bytes) (sink : Sink) :
    ∃ events, sink.Sees events (sink.writeAll octets).2 ∧
      Drains octets events (sink.writeAll octets).1 := by
  induction size : sink.script.length + octets.length using Nat.strongRecOn
    generalizing octets sink with
  | _ size ih =>
    by_cases start : octets = []
    · rw [start, writeAll_nil]
      exact ⟨[], .nil sink, .done⟩
    rw [writeAll_eq start]
    rcases wrote : sink.write octets with ⟨error | n, between⟩
    · by_cases unheard : error.kind = .interrupted
      · have shorter := lt_of_write wrote
        obtain ⟨events, sees, drains⟩ := ih _ (by omega) octets between rfl
        simp only [if_pos unheard]
        exact ⟨_, .of_write wrote sees, .interrupted start unheard drains⟩
      · simp only [if_neg unheard]
        exact ⟨_, .of_write wrote (.nil between), .failed start unheard⟩
    · obtain ⟨le, notLonger⟩ := le_of_write wrote
      rcases n with _ | n
      · exact ⟨_, .of_write wrote (.nil between), .stuck start⟩
      · obtain ⟨events, sees, drains⟩ :=
          ih _ (by rw [List.length_drop]; omega) (octets.drop (n + 1)) between rfl
        exact ⟨_, .of_write wrote sees, .part (Nat.succ_pos n) le drains⟩

end Sink

/-! ## Writing a message -/

namespace Frame

open Sink

variable {α : Type} [Message α]

/-- The calls by which a message is written, and how that ends. -/
inductive Sends (message : α) : List Event → Except Error Unit → Prop where
  /-- The message is too long for a frame, and the sink does not hear of it. -/
  | refused (large : ¬ Fits message) :
      Sends message [] (.error (.frameTooLarge (Message.encode message).length maxLength))
  /-- A write fails, and there is no flush. -/
  | unwritten {writes : List Event} {error : IoError} (fits : Fits message)
      (stops : Drains (ofMessage message) writes (.error error)) :
      Sends message writes (.error (.io "writing a frame" error))
  /-- The frame has been taken, and the flush fails. -/
  | unflushed {writes : List Event} {error : IoError} (fits : Fits message)
      (whole : Drains (ofMessage message) writes (.ok ())) :
      Sends message (writes ++ [.flush (.error error)]) (.error (.io "flushing a frame" error))
  /-- The frame has been taken and flushed. -/
  | sent {writes : List Event} (fits : Fits message)
      (whole : Drains (ofMessage message) writes (.ok ())) :
      Sends message (writes ++ [.flush (.ok ())]) (.ok ())

theorem exists_sends (message : α) (sink : Sink) :
    ∃ events, sink.Sees events (write message sink).2 ∧
      Sends message events (write message sink).1 := by
  by_cases fits : Fits message
  · obtain ⟨writes, sees, drains⟩ := exists_drains (ofMessage message) sink
    rw [write, if_neg (Nat.not_lt.mpr fits), ← ofMessage]
    rcases wrote : sink.writeAll (ofMessage message) with ⟨error | _, between⟩ <;>
      rw [wrote] at sees drains
    · exact ⟨writes, sees, .unwritten fits drains⟩
    · have flushes := Sees.flush (Sees.nil between.flush.2)
      rcases flushed : between.flush with ⟨error | _, after⟩ <;> rw [flushed] at flushes <;>
        simp only [flushed]
      · exact ⟨_, sees.append flushes, .unflushed fits drains⟩
      · exact ⟨_, sees.append flushes, .sent fits drains⟩
  · rw [write_tooLarge fits]
    exact ⟨[], .nil sink, .refused fits⟩

namespace Sends

variable {message : α} {events : List Event}

theorem of_ok (sends : Sends message events (.ok ())) :
    taken events = ofMessage message ∧ events.countP Event.isFlush = 1 := by
  cases sends with
  | sent _ whole => exact whole.flushed _

theorem of_io {context : String} {error : IoError}
    (sends : Sends message events (.error (.io context error))) :
    taken events <+: ofMessage message ∧
      (taken events = ofMessage message ↔ context = "flushing a frame") ∧
      events.countP Event.isFlush = if context = "flushing a frame" then 1 else 0 := by
  cases sends with
  | unwritten _ stops =>
    obtain ⟨front, whole⟩ := stops.taken_prefix
    exact ⟨front, iff_of_false (fun all => nomatch whole.mp all) (by decide), stops.no_flush⟩
  | unflushed _ whole =>
    obtain ⟨all, once⟩ := whole.flushed (.error error)
    exact ⟨all ▸ List.prefix_rfl, iff_of_true all rfl, once⟩

end Sends

/-- The length of a message as it stands in front of it, if it fits there. -/
def header? (length : Nat) : Option Bytes :=
  if length < 256 ^ headerLength then some (Bytes.ofNatural headerLength length) else none

/-- Writes a message as one frame, with a second look at the length; `overflow` is what happens
where it does not fit in front of the message. -/
def writeGuarded (overflow : Except Error Unit × Sink) (message : α) (sink : Sink) :
    Except Error Unit × Sink :=
  let body := Message.encode message
  if maxLength < body.length then (.error (.frameTooLarge body.length maxLength), sink)
  else match header? body.length with
    | none => overflow
    | some header => match sink.writeAll (header ++ body) with
      | (.error error, sink) => (.error (.io "writing a frame" error), sink)
      | (.ok (), sink) => match sink.flush with
        | (.error error, sink) => (.error (.io "flushing a frame" error), sink)
        | (.ok (), sink) => (.ok (), sink)

/-- A message that may be sent is never too long for the width of the header. -/
theorem writeGuarded_eq (overflow : Except Error Unit × Sink) (message : α) (sink : Sink) :
    writeGuarded overflow message sink = write message sink := by
  rw [writeGuarded, write]
  split_ifs with large
  · rfl
  · have narrow : (Message.encode message).length < 256 ^ headerLength :=
      Nat.lt_of_le_of_lt (Nat.not_lt.mp large) (by decide)
    rw [header?, if_pos narrow]
    rfl

/-- **What a sink has taken of a message, however writing ends.**  The calls that a sink sees are
those of one way of sending the message.  A message that is too long leaves the sink as it was.
Behind a success the sink has the frame, and has been flushed once, in the last of all calls.
Behind a failure of the sink it has the beginning of the frame; that is the whole of it exactly if
the flush has failed, and without a failed flush there was none.  A second look at the length would
never find anything. -/
theorem write_any_sink (message : α) (sink : Sink) :
    (∃ events, sink.Sees events (write message sink).2 ∧
      Sends message events (write message sink).1) ∧
    (¬ Fits message → write message sink =
      (.error (.frameTooLarge (Message.encode message).length maxLength), sink)) ∧
    ((write message sink).1 = .ok () →
      (write message sink).2.written = sink.written ++ ofMessage message ∧
        (write message sink).2.flushes = sink.flushes + 1) ∧
    (∀ context error, (write message sink).1 = .error (.io context error) →
      ∃ sent, (write message sink).2.written = sink.written ++ sent ∧
        sent <+: ofMessage message ∧
        (sent = ofMessage message ↔ context = "flushing a frame") ∧
        (write message sink).2.flushes =
          sink.flushes + if context = "flushing a frame" then 1 else 0) ∧
    ∀ overflow, writeGuarded overflow message sink = write message sink := by
  obtain ⟨events, sees, sends⟩ := exists_sends message sink
  refine ⟨⟨events, sees, sends⟩, fun large => write_tooLarge large sink, ?_, ?_,
    fun overflow => writeGuarded_eq overflow message sink⟩
  · intro succeeds
    rw [succeeds] at sends
    obtain ⟨all, once⟩ := sends.of_ok
    rw [sees.written, sees.flushes, all, once]
    exact ⟨rfl, rfl⟩
  · intro context error fails
    rw [fails] at sends
    obtain ⟨front, whole, flushes⟩ := sends.of_io
    exact ⟨taken events, sees.written, front, whole, by rw [sees.flushes, flushes]⟩

/-- A sink that takes three octets, does not hear the next write and takes nothing of the one behind
it has the beginning of a frame, and is not flushed. -/
theorem write_any_sink_stuck :
    let message := Request.current 0 .publicKey
    let sink : Sink :=
      { script := [.upTo 3, .failure ⟨.interrupted, "interrupted"⟩, .upTo 0] }
    (write message sink).1 = .error (.io "writing a frame" Sink.stuck) ∧
      (write message sink).2.written = [0, 0, 0] ∧ (write message sink).2.flushes = 0 ∧
      ∃ sent, (write message sink).2.written = sink.written ++ sent ∧
        sent <+: ofMessage message ∧ sent ≠ ofMessage message := by
  intro message sink
  have fails : (write message sink).1 = .error (.io "writing a frame" Sink.stuck) := by
    decide +kernel
  obtain ⟨sent, written, front, whole, flushes⟩ :=
    (write_any_sink message sink).2.2.2.1 _ _ fails
  exact ⟨fails, by decide +kernel, flushes, sent, written, front,
    fun all => absurd (whole.mp all) (by decide)⟩

end Frame

end RemoteSigner.Wire
