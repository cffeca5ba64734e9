import RemoteSigner.Proofs.Json.Reordering

/-!
# What is refused

A reader that makes nothing of a value stops somewhere within it.  A record stops at the first
member whose value is refused, and a choice stops at a tag that has no name; which members come
before that makes no difference, as long as they are read themselves.

## Main definitions

* `Decoder.Stops`: a decoder fails on a document
* `Refuses`, `RefusesReordered`: a reader makes nothing of a value

## Main results

* `Record.refusesReordered`: records with a member that is refused
* `Tagged.refusesReordered`: choices with a tag that has no name
-/

namespace RemoteSigner.Json

open Decoder

variable {α β σ τ : Type}

/-! ## Failures -/

namespace Decoder

variable {origin : Origin} {text rest : Bytes}

/-- The decoder fails on the document. -/
def Stops (d : Decoder α) (origin : Origin) (text : Bytes) : Prop :=
  ∃ fault left, d.run origin text = .failed fault left

theorem Stops.bind {d : Decoder α} (stops : d.Stops origin text) (next : α → Decoder β) :
    (d >>= next).Stops origin text := by
  obtain ⟨fault, left, run⟩ := stops
  exact ⟨fault, left, by rw [run_bind, run]⟩

theorem Stops.of_bind {d : Decoder α} {a : α} (run : d.run origin text = .done a rest)
    {next : α → Decoder β} (stops : (next a).Stops origin rest) :
    (d >>= next).Stops origin text := by
  obtain ⟨fault, left, run'⟩ := stops
  refine ⟨fault, left, ?_⟩
  rw [run_bind, run]
  exact run'

theorem Stops.placed {d : Decoder α} (stops : d.Stops origin text) :
    d.placed.Stops origin text := by
  obtain ⟨fault, left, run⟩ := stops
  exact ⟨_, left, congrArg Outcome.placed run⟩

theorem Stops.enclosed {d : Decoder α} (stops : d.Stops origin text) (closing : Decoder Unit) :
    (d.enclosed closing).Stops origin text := by
  obtain ⟨fault, left, run⟩ := stops
  exact ⟨fault, (closing.run origin left).rest, by simp only [Decoder.enclosed, run]⟩

/-- A document that can not be read to its end is not decoded. -/
theorem Stops.decode {d : Decoder α} (stops : d.document.Stops origin text) :
    ∃ error, d.decode origin text = .error error := by
  obtain ⟨fault, left, run⟩ := stops
  exact ⟨.ofFault text fault, by simp only [Decoder.decode, run]⟩

theorem stops_unfit (message : String) (origin : Origin) (text : Bytes) :
    (unfit message : Decoder α).Stops origin text :=
  ⟨_, text, rfl⟩

/-- What one round of a loop over members may fail at behind the key. -/
def StopsAtMember (origin : Origin) (step : σ → String → Decoder σ) (state : σ) (name : String)
    (value : Value) : Prop :=
  ∀ ⦃colon space text rest : Bytes⦄, Gap colon → Gap space → Spells value text → Closes rest →
    (step state name).Stops origin (colon ++ 0x3A :: (space ++ (text ++ rest)))

theorem loopMembers_of_stop {step : σ → String → Decoder σ} {first : Bool} {state : σ}
    {name : String} {middle : Bytes}
    (more : (moreMembers first).run origin text = .done true (quoted name ++ middle))
    (stops : (step state name).Stops origin middle) :
    ∃ fault left, loopMembers step origin first state text = .failed fault left := by
  rw [loopMembers_of_round more]
  exact Stops.bind (Stops.of_bind (run_key origin name middle) stops) _

/-- A loop over members stops at the first round that fails.  Each member before the failure is one
round of the loop. -/
theorem loopMembers_stops {step : σ → String → Decoder σ} {state between : σ}
    {front back : List (String × Value)} {name : String} {v : Value}
    (walks : Walks (TakesMember origin step) state front between)
    (stop : StopsAtMember origin step between name v) {first : Bool} {body : Bytes}
    (spelled : SpellsMembers first (front ++ (name, v) :: back) body) (rest : Bytes) :
    ∃ fault left, loopMembers step origin first state (body ++ 0x7D :: rest) =
      .failed fault left := by
  induction walks generalizing first body with
  | nil =>
    cases spelled with
    | first blank blankColon blankSpace head more =>
      have stops := stop blankColon blankSpace head (closes_of_spellsMembers more rest)
      simp only [List.append_assoc, List.cons_append] at stops ⊢
      exact loopMembers_of_stop (run_moreMembers_first blank _ _) stops
    | next blankBefore blankAfter blankColon blankSpace head more =>
      have stops := stop blankColon blankSpace head (closes_of_spellsMembers more rest)
      simp only [List.append_assoc, List.cons_append] at stops ⊢
      exact loopMembers_of_stop (run_moreMembers_next blankBefore blankAfter _ _) stops
  | cons round walks ih =>
    cases spelled with
    | first blank blankColon blankSpace head more =>
      have read := round blankColon blankSpace head (closes_of_spellsMembers more rest)
      simp only [List.append_assoc, List.cons_append] at read ⊢
      rw [loopMembers_of_member (run_moreMembers_first blank _ _) read]
      exact ih stop more
    | next blankBefore blankAfter blankColon blankSpace head more =>
      have read := round blankColon blankSpace head (closes_of_spellsMembers more rest)
      simp only [List.append_assoc, List.cons_append] at read ⊢
      rw [loopMembers_of_member (run_moreMembers_next blankBefore blankAfter _ _) read]
      exact ih stop more

end Decoder

/-! ## Readers -/

/-- A reader makes nothing of the value `v`, be it kept or written. -/
structure Refuses (read : Item → Decoder α) (v : Value) : Prop where
  held : ∀ origin text, (read (.held v)).Stops origin text
  next : ∀ {origin : Origin} {levels : Nat}, origin.Whole → v.depth ≤ levels →
    ∀ ⦃gap text rest : Bytes⦄, Gap gap → Spells v text → Closes rest →
      (read (.next levels)).Stops origin (gap ++ (text ++ rest))

/-- A reader makes nothing of the value `v`, in whatever order its members come. -/
def RefusesReordered (read : Item → Decoder α) (v : Value) : Prop :=
  ∀ ⦃w : Value⦄, Reordered v w → Refuses read w

namespace Refuses

theorem andThen {read : Item → Decoder α} {v : Value} (refuses : Refuses read v)
    (f : α → Decoder β) : Refuses (fun item => read item >>= f) v where
  held origin text := (refuses.held origin text).bind f
  next whole enough _ _ _ blank spelled closes :=
    (refuses.next whole enough blank spelled closes).bind f

theorem scalar {v : Value} (parts : v.Scalar) {read : Head → Except String α} {message : String}
    (h : read v.head = .error message) : Refuses (Item.scalar read) v where
  held origin text := by
    rw [Item.scalar, h]
    exact stops_unfit message origin text
  next whole _ _ _ rest blank spelled closes := by
    apply Stops.placed
    apply Stops.of_bind (run_head whole spelled parts blank closes)
    rw [h]
    exact stops_unfit message _ rest

theorem choice {names : List (String × α)} {name : String} (unknown : names.lookup name = none) :
    Refuses (Item.choice names) (.text name) := by
  have none : Item.lookup names (Value.text name).head =
      .error (unknownName name (names.map (·.1))) := by
    simp only [Value.head, Item.lookup, unknown]
  have refuses : Refuses (Item.scalar (Item.lookup names)) (.text name) :=
    scalar (v := .text name) trivial none
  constructor
  · intro origin text
    rw [Item.choice.eq_def]
    exact refuses.held origin text
  · intro origin levels whole enough gap text rest blank spelled closes
    have stops := refuses.next whole enough Gap.nil spelled closes
    rcases spelled with _ | _ | _ | s
    rw [quoted, List.cons_append] at stops ⊢
    rw [Item.choice.eq_def]
    exact Stops.of_bind (run_token_cons blank rfl _) stops

/-- A document is not decoded if its value is refused. -/
theorem decode {read : Item → Decoder α} {v : Value} (refuses : Refuses read v)
    (shallow : v.depth ≤ maxLevels) {before text after : Bytes} (blankBefore : Gap before)
    (spelled : Spells v text) (blankAfter : Gap after) {origin : Origin} (whole : origin.Whole) :
    ∃ error, Json.decode read origin (before ++ (text ++ after)) = .error error := by
  have stops : (read (.next maxLevels)).Stops origin (before ++ (text ++ after)) :=
    refuses.next whole shallow blankBefore spelled (.of_gap blankAfter)
  exact (stops.bind _).decode

end Refuses

/-! ## Members -/

namespace Item

variable {step : Step σ} {state between : σ} {front back : List (String × Value)} {name : String}
  {v : Value}

/-- One step of a walk over members that comes to nothing. -/
def Step.Stop (step : Step σ) (state : σ) (key : String) (v : Value) : Prop :=
  ∃ read, step state key = .ok read ∧ Refuses read v

theorem heldMembers_stops (walk : step.Walk state front between) (stop : step.Stop between name v)
    (origin : Origin) (text : Bytes) :
    (heldMembers step state (front ++ (name, v) :: back)).Stops origin text := by
  induction walk with
  | nil state =>
    obtain ⟨read, allowed, refuses⟩ := stop
    rw [List.nil_append, heldMembers, allowed]
    apply Stops.of_bind (run_ofExcept_ok read origin text)
    exact (refuses.held origin text).bind _
  | cons round _ ih =>
    obtain ⟨read, allowed, reads⟩ := round
    rw [List.cons_append, heldMembers, allowed]
    apply Stops.of_bind (run_ofExcept_ok read origin text)
    exact Stops.of_bind (reads.held origin text) (ih stop)

theorem readMembers_stops (walk : step.Walk state front between) (stop : step.Stop between name v)
    {origin : Origin} (whole : origin.Whole) {levels : Nat}
    (enough : Value.depthMembers (front ++ (name, v) :: back) ≤ levels) {body : Bytes}
    (spelled : SpellsMembers true (front ++ (name, v) :: back) body) (rest : Bytes) :
    (readMembers step state levels).Stops origin (body ++ 0x7D :: rest) := by
  have fits {key : String} {w : Value} (member : (key, w) ∈ front ++ (name, v) :: back) :
      w.depth ≤ levels :=
    Nat.le_trans (depth_le_of_mem_members member) enough
  refine loopMembers_stops (walk.mono ?_) ?_ spelled rest
  · rintro state key w state' member ⟨read, allowed, reads⟩
    intro colon space text rest blankColon blankSpace written closes
    have takes := reads.next whole (fits (List.mem_append_left _ member))
    simp [allowed, run_colon blankColon, takes blankSpace written closes]
  · intro colon space text rest blankColon blankSpace written closes
    obtain ⟨read, allowed, refuses⟩ := stop
    have member : (name, v) ∈ front ++ (name, v) :: back :=
      List.mem_append_right _ List.mem_cons_self
    simp only [allowed]
    apply Stops.of_bind (run_ofExcept_ok read origin _)
    apply Stops.of_bind (run_colon blankColon _)
    exact refuses.next whole (fits member) blankSpace written closes

/-- An object stops at the first member that comes to nothing. -/
theorem object_stops (walk : step.Walk state front between) (stop : step.Stop between name v)
    (finish : σ → Decoder α) {origin : Origin} (whole : origin.Whole) {levels : Nat}
    (enough : (Value.object (front ++ (name, v) :: back)).depth ≤ levels) {body : Bytes}
    (spelled : SpellsMembers true (front ++ (name, v) :: back) body) (rest : Bytes) :
    (inside levels endObject fun levels => readMembers step state levels >>= finish).Stops origin
      (0x7B :: (body ++ 0x7D :: rest)) := by
  rw [Value.depth] at enough
  rcases levels with _ | levels
  · exact absurd enough (Nat.not_succ_le_zero _)
  have stops := readMembers_stops walk stop whole (Nat.le_of_succ_le_succ enough) spelled rest
  exact Stops.of_bind (run_advance origin _) ((stops.bind finish).enclosed endObject)

end Item

/-! ## Records and choices -/

/-- An object is refused if one of its members is, and the members before it are read. -/
theorem ByMembers.refuses {read : Item → Decoder α} {step : Item.Step σ} {start between : σ}
    {finish : σ → Except String α} (byMembers : ByMembers read step start finish)
    {front back : List (String × Value)} {name : String} {v : Value}
    (walk : step.Walk start front between) (stop : step.Stop between name v) :
    Refuses read (.object (front ++ (name, v) :: back)) where
  held origin text := by
    rw [byMembers.held]
    exact (Item.heldMembers_stops walk stop origin text).bind _
  next whole enough _ _ rest blank spelled _ := by
    rcases spelled with _ | _ | _ | _ | _ | inner
    simp only [List.cons_append, List.append_assoc, List.nil_append, Stops,
      byMembers.next _ _ _ blank]
    exact (Item.object_stops walk stop _ whole enough inner rest).placed

/-- A record is refused if one of its members is, whatever the order of the members: `entries` are
the other ones. -/
theorem Record.refusesReordered {r : Record σ α} {entries : List (Entry r.step)}
    (apart : entries.Pairwise Entry.Apart) (unset : ∀ e ∈ entries, e.isSet r.empty = false)
    {name : String} {get : σ → Option β} {set : σ → β → σ} {read : Item → Decoder β} {v : Value}
    (known : r.fields.find? (·.name == name) = some (Field.of name get set read))
    (free : get r.empty = none) (others : ∀ e ∈ entries, ∀ draft, get (e.update draft) = get draft)
    (refuses : RefusesReordered read v) :
    RefusesReordered r.read (.object ((name, v) :: entries.map Entry.member)) := by
  intro w other
  obtain ⟨front, back, v', rfl, head, around⟩ := other.exists_member
  obtain ⟨first, inside, walk⟩ := Entry.walk_front apart unset around
  have notYet : get (Entry.after first r.empty) = none := by
    rw [Entry.after_untouched (fun e mem => others e (inside mem)), free]
  have allowed : r.step (Entry.after first r.empty) name =
      .ok fun item => return set (Entry.after first r.empty) (← read item) := by
    simp [Record.step, known, Field.of, notYet]
  exact r.byMembers.refuses walk ⟨_, allowed, (refuses head).andThen _⟩

/-- A choice is refused if its tag has no name, whether the content is there or not, and whichever
comes first. -/
theorem Tagged.refusesReordered (t : Tagged τ α) {name : String}
    (unknown : t.names.lookup name = none) (distinct : t.content ≠ t.tag)
    (content : Option Value) :
    RefusesReordered t.readItem
      (.object ((t.tag, .text name) :: (content.map fun v => (t.content, v)).toList)) := by
  have kept (v : Value) : t.step.Stop (.kept v) t.tag (.text name) :=
    ⟨_, if_pos rfl, (Refuses.choice unknown).andThen _⟩
  have atOnce : t.step.Stop .empty t.tag (.text name) :=
    ⟨_, if_pos rfl, (Refuses.choice unknown).andThen _⟩
  intro w other
  obtain ⟨front, back, v', rfl, head, around⟩ := other.exists_member
  rw [head.eq_text]
  rcases front with _ | ⟨first, front⟩
  · exact t.byMembers.refuses (.nil _) atOnce
  · cases content with
    | none => exact nomatch around.nil
    | some v =>
      obtain ⟨v', alone⟩ := around.singleton
      obtain ⟨rfl, none⟩ := List.cons_eq_cons.mp alone
      obtain ⟨rfl, rfl⟩ := List.append_eq_nil_iff.mp none
      exact t.byMembers.refuses (.cons (round_keep t distinct v') (.nil _)) (kept v')

end RemoteSigner.Json
