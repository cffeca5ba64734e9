import RemoteSigner.Json.Tagged
import RemoteSigner.Proofs.Json.Loops

/-!
# Readers and the values they read

`Reads read v a` says that a reader makes `a` of the value `v` wherever it meets it: kept from
before, or in a document, in any of its written forms and behind any gap.  Every reader for a kind
of value has one lemma here that says what it reads.

The members of an object are read by a walk over them (`Walks`), one reader for each.  The walk is
the same for kept members and for written ones, so what is shown of a walk holds of both.

## Main definitions

* `Reads`: what a reader makes of a value
* `Item.Step.Walk`: a walk over members, each of which is read by a step
* `ByMembers`: readers that take an object by such a walk

## Main results

* `Reads.scalar`, `Reads.option`, `Reads.list`, `Reads.keep`: what the readers for values read
* `ByMembers.reads`, `Inline.reads`: records and choices from a walk over their members
-/

namespace RemoteSigner.Json

open Decoder

variable {α β σ τ : Type}

namespace Decoder

theorem ext {d e : Decoder α} (h : ∀ origin text, d.run origin text = e.run origin text) :
    d = e := by
  cases d
  cases e
  congr
  funext origin text
  exact h origin text

instance : LawfulMonad Decoder :=
  .mk' Decoder
    (fun d => ext fun origin text => by
      change (d >>= pure ∘ id).run origin text = _
      rw [run_bind]
      cases d.run origin text <;> rfl)
    (fun _ _ => rfl)
    (fun d e f => ext fun origin text => by
      simp only [run_bind]
      cases d.run origin text <;> rfl)

@[simp] theorem run_map (f : α → β) (d : Decoder α) (origin : Origin) (text : Bytes) :
    (f <$> d).run origin text = (d.run origin text).map f := by
  rw [← bind_pure_comp, run_bind]
  cases d.run origin text <;> rfl

@[simp] theorem run_ofExcept_ok (a : α) (origin : Origin) (text : Bytes) :
    (ofExcept (.ok a)).run origin text = .done a text := rfl

end Decoder

/-- A reader makes `a` of the value `v`, be it kept or written. -/
structure Reads (read : Item → Decoder α) (v : Value) (a : α) : Prop where
  held : ∀ origin text, (read (.held v)).run origin text = .done a text
  next : ∀ {origin : Origin} {levels : Nat}, origin.Whole → v.depth ≤ levels →
    Takes origin (read (.next levels)) v a

namespace Reads

/-- What is read may be changed afterwards, if that succeeds. -/
theorem andThen {read : Item → Decoder α} {v : Value} {a : α} {b : β} (h : Reads read v a)
    {f : α → Decoder β} (succeeds : ∀ origin text, (f a).run origin text = .done b text) :
    Reads (fun item => read item >>= f) v b where
  held origin text := by rw [run_bind, h.held]; exact succeeds origin text
  next whole enough _ _ rest blank spelled closes := by
    rw [run_bind, h.next whole enough blank spelled closes]
    exact succeeds _ rest

theorem map {read : Item → Decoder α} {v : Value} {a : α} (h : Reads read v a) (f : α → β) :
    Reads (fun item => return f (← read item)) v (f a) :=
  h.andThen fun _ _ => rfl

/-! ## Values without parts -/

theorem scalar {v : Value} {a : α} (parts : v.Scalar) {read : Head → Except String α}
    (h : read v.head = .ok a) : Reads (Item.scalar read) v a where
  held origin text := by simp [Item.scalar, h]
  next whole _ _ _ rest blank spelled closes := by
    apply run_placed
    rw [run_bind, run_head whole spelled parts blank closes]
    simp [h]

theorem natural {limit n : Nat} (expected : String) (small : n < limit) :
    Reads (Item.natural limit expected) (.natural n) n := by
  have inRange : (0 : Int) ≤ n ∧ (n : Int) < limit := by
    constructor
    · exact Int.natCast_nonneg n
    · exact_mod_cast small
  exact scalar (v := .natural n) trivial (by simp [Value.natural, Value.head, inRange.2])

theorem text (expected : String) (s : String) : Reads (Item.text expected) (.text s) s :=
  scalar (v := .text s) trivial rfl

theorem lookup {names : List (String × α)} {name : String} {a : α}
    (known : names.lookup name = some a) : Reads (Item.scalar (Item.lookup names)) (.text name) a :=
  scalar (v := .text name) trivial (by simp [Item.lookup, Value.head, known])

theorem choice {names : List (String × α)} {name : String} {a : α}
    (known : names.lookup name = some a) : Reads (Item.choice names) (.text name) a where
  held origin text := by simp [Item.choice, Item.lookup, known]
  next whole enough _ _ rest blank spelled closes := by
    have read := (lookup known).next whole enough Gap.nil spelled closes
    rcases spelled with _ | _ | _ | s
    rw [quoted, List.cons_append] at read ⊢
    rw [Item.choice.eq_def]
    rw [run_bind, run_token_cons blank rfl]
    exact read

theorem nameOrIndex {names : List (String × α)} {name : String} {a : α}
    (known : names.lookup name = some a) : Reads (Item.nameOrIndex names) (.text name) a where
  held origin text := (lookup known).held origin text
  next whole enough := (lookup known).next whole enough

/-! ## Values with parts -/

theorem option {read : Item → Decoder α} {v : Value} {a : α} (h : Reads read v a)
    (notNull : v ≠ .null) : Reads (Item.option read) v (some a) where
  held origin text := by
    cases v with
    | null => exact absurd rfl notNull
    | _ => simp [Item.option, h.held, Outcome.map]
  next {origin levels} whole enough _ text rest blank spelled closes := by
    have read := h.next whole enough Gap.nil spelled closes
    obtain ⟨b, tail, rfl, solid, -, null⟩ := exists_cons_of_spells spelled
    have other : ¬ some b = some 0x6E := fun h => notNull (null (Option.some.inj h))
    rw [List.cons_append] at read ⊢
    rw [Item.option, run_bind, run_token_cons blank solid]
    simp only [if_neg other, run_bind]
    rw [← List.nil_append (b :: _), read]
    rfl

/-- Where there may be nothing, `null` stands for it. -/
theorem option_null (read : Item → Decoder α) : Reads (Item.option read) .null none where
  held _ _ := rfl
  next _ _ _ _ rest blank spelled _ := by
    cases spelled
    have written : Bytes.ofText "null" = 0x6E :: [0x75, 0x6C, 0x6C] := by decide
    rw [written, List.cons_append, Item.option, run_bind, run_token_cons blank rfl]
    simp only [if_true, run_bind, run_advance, List.tail_cons, run_word, run_pure]

theorem takes_items {read : Item → Decoder α} {items : List Value} {results : List α}
    (h : List.Forall₂ (Reads read) items results) {origin : Origin} (whole : origin.Whole)
    {levels : Nat} (enough : Value.depthItems items ≤ levels) :
    List.Forall₂ (Takes origin (read (.next levels))) items results := by
  induction h with
  | nil => exact .nil
  | cons head _ ih =>
    rw [Value.depthItems, Nat.max_le] at enough
    exact .cons (head.next whole enough.1) (ih enough.2)

/-- A list is read if every item of it is.  A list needs one level itself. -/
theorem list {read : Item → Decoder α} {items : List Value} {results : List α}
    (h : List.Forall₂ (Reads read) items results) :
    Reads (Item.list read) (.list items) results where
  held origin text := by
    rw [Item.list]
    induction h with
    | nil => rfl
    | cons head _ ih => simp [List.mapM_cons, head.held, ih, Outcome.map]
  next {origin levels} whole enough _ _ rest blank spelled closes := by
    rcases spelled with _ | _ | _ | _ | inner | _
    rcases levels with _ | levels
    · exact absurd enough (by simp [Value.depth])
    rw [Value.depth, Nat.add_le_add_iff_right] at enough
    apply run_placed
    simp only [List.cons_append, List.append_assoc, run_bind, run_head_list blank]
    simp [run_items (takes_items h whole enough) inner rest]

theorem nothing (expected : String) : Reads (Item.nothing expected) .null () where
  held _ _ := rfl
  next whole _ _ _ rest blank spelled closes := by
    apply run_placed
    rw [run_bind, run_head whole spelled (v := .null) trivial blank closes]
    rfl

theorem keep {v : Value} : Reads Item.keep v v where
  held _ _ := rfl
  next whole enough := takes_value whole enough

end Reads

/-! ## Members -/

namespace Item

/-- One step of a walk over members: the member may be there, and its value is read. -/
def Step.Round (step : Step σ) (state : σ) (key : String) (v : Value) (state' : σ) : Prop :=
  ∃ read, step state key = .ok read ∧ Reads read v state'

/-- A walk over members, each of which is read by a step. -/
abbrev Step.Walk (step : Step σ) : σ → List (String × Value) → σ → Prop := Walks step.Round

variable {step : Step σ} {state final : σ} {members : List (String × Value)}

theorem run_heldMembers (walk : step.Walk state members final) (origin : Origin) (text : Bytes) :
    (heldMembers step state members).run origin text = .done final text := by
  induction walk with
  | nil => rfl
  | cons round _ ih =>
    rcases round with ⟨read, allowed, reads⟩
    simp [heldMembers, allowed, reads.held, ih]

/-- Members are read as the walk says: each of its steps is a round of the loop, with a key, a colon
and a value. -/
theorem run_readMembers (walk : step.Walk state members final) {origin : Origin}
    (whole : origin.Whole) {levels : Nat} (enough : Value.depthMembers members ≤ levels)
    {body : Bytes} (spelled : SpellsMembers true members body) (rest : Bytes) :
    (readMembers step state levels).run origin (body ++ 0x7D :: rest) =
      .done final (0x7D :: rest) := by
  refine run_loopMembers (walk.mono ?_) spelled rest
  rintro state key v state' member ⟨read, allowed, reads⟩
  intro colon space text rest blankColon blankSpace written closes
  have takes := reads.next whole (Nat.le_trans (depth_le_of_mem_members member) enough)
  simp [allowed, run_colon blankColon, takes blankSpace written closes]

/-- An object is read by a walk over its members that can be completed. -/
theorem run_object (walk : step.Walk state members final) {finish : σ → Except String α} {a : α}
    (complete : finish final = .ok a) {origin : Origin} (whole : origin.Whole) {levels : Nat}
    (enough : (Value.object members).depth ≤ levels) {body : Bytes}
    (spelled : SpellsMembers true members body) (rest : Bytes) :
    (inside levels endObject fun levels => do
      ofExcept (finish (← readMembers step state levels))).run origin
        (0x7B :: (body ++ 0x7D :: rest)) = .done a rest := by
  rw [Value.depth] at enough
  rcases levels with _ | levels
  · exact absurd enough (Nat.not_succ_le_zero _)
  have read := run_readMembers walk whole (Nat.le_of_succ_le_succ enough) spelled rest
  have inner : (do ofExcept (finish (← readMembers step state levels)) : Decoder α).run origin
      (body ++ 0x7D :: rest) = .done a (0x7D :: rest) := by
    rw [run_bind, read]
    simp [complete]
  simp [inside, run_enclosed inner (run_endObject rest)]

end Item

/-! ## Records and choices -/

/-- A reader that takes an object member by member: from `start` on, every member is a step, and
`finish` decides what the last state comes to. -/
structure ByMembers (read : Item → Decoder α) (step : Item.Step σ) (start : σ)
    (finish : σ → Except String α) : Prop where
  held : ∀ members, read (.held (.object members)) = do
    ofExcept (finish (← Item.heldMembers step start members))
  next : ∀ levels origin text ⦃gap : Bytes⦄, Gap gap →
    (read (.next levels)).run origin (gap ++ 0x7B :: text) =
      ((inside levels endObject fun levels => do
        ofExcept (finish (← Item.readMembers step start levels))).run origin (0x7B :: text)).placed

/-- An object is read if a walk over its members gives a complete state. -/
theorem ByMembers.reads {read : Item → Decoder α} {step : Item.Step σ} {start final : σ}
    {finish : σ → Except String α} {a : α} (byMembers : ByMembers read step start finish)
    {members : List (String × Value)} (walk : step.Walk start members final)
    (complete : finish final = .ok a) : Reads read (.object members) a where
  held origin text := by simp [byMembers.held, Item.run_heldMembers walk, complete]
  next whole enough _ _ rest blank spelled _ := by
    rcases spelled with _ | _ | _ | _ | _ | inner
    simp only [List.cons_append, List.append_assoc, List.nil_append, byMembers.next _ _ _ blank,
      Item.run_object walk complete whole enough inner rest]
    rfl

theorem run_placed_object (onHead : Head → Decoder α) (origin : Origin) (text : Bytes) {gap : Bytes}
    (blank : Gap gap) : (placed (head >>= onHead)).run origin (gap ++ 0x7B :: text) =
      ((onHead .object).run origin (0x7B :: text)).placed := by
  show ((head >>= onHead).run origin (gap ++ 0x7B :: text)).placed = _
  rw [run_bind, run_head_object blank]

theorem Record.byMembers (r : Record σ α) : ByMembers r.read r.step r.empty (r.finish missing) where
  held _ := rfl
  next _ origin text _ blank := run_placed_object _ origin text blank

theorem Tagged.byMembers (t : Tagged τ α) : ByMembers t.readItem t.step .empty t.finish where
  held _ := rfl
  next _ origin text _ blank := run_placed_object _ origin text blank

theorem Inline.byMembers (t : Inline τ α) : ByMembers t.split t.step (none, []) t.finish where
  held _ := rfl
  next _ origin text _ blank := run_placed_object _ origin text blank

theorem Tagged.round_tag {t : Tagged τ α} {name : String} {tag : τ}
    (known : t.names.lookup name = some tag) :
    t.step.Round .empty t.tag (.text name) (.tagged tag) :=
  ⟨_, if_pos rfl, (Reads.choice known).map Draft.tagged⟩

theorem Tagged.round_content {t : Tagged τ α} {tag : τ} {v : Value} {a : α}
    (distinct : t.content ≠ t.tag) (content : Reads (t.read tag) v a) :
    t.step.Round (.tagged tag) t.content v (.complete a) :=
  ⟨_, (if_neg distinct).trans (if_pos rfl), content.map Draft.complete⟩

/-- A tag that can stand alone is read where it does. -/
theorem Tagged.reads_alone (t : Tagged τ α) (tag : τ) {name : String} {a : α}
    (known : t.names.lookup name = some tag) (alone : t.alone tag = some a) :
    Reads t.readItem (.object [(t.tag, .text name)]) a := by
  apply t.byMembers.reads (.cons (round_tag known) (.nil _))
  simp [Tagged.finish, alone, required]

/-- A tag is read together with the content behind it. -/
theorem Tagged.reads_content (t : Tagged τ α) (tag : τ) {name : String} {v : Value} {a : α}
    (known : t.names.lookup name = some tag) (distinct : t.content ≠ t.tag)
    (content : Reads (t.read tag) v a) :
    Reads t.readItem (.object [(t.tag, .text name), (t.content, v)]) a :=
  t.byMembers.reads (.cons (round_tag known) (.cons (round_content distinct content) (.nil _))) rfl

/-- A choice is read if its tag is among its members and the other ones are read for that tag. -/
theorem Inline.reads {t : Inline τ α} {members kept : List (String × Value)} {tag : τ} {a : α}
    (walk : t.step.Walk (none, []) members (some tag, kept))
    (content : Reads (t.read tag) (.object kept.reverse) a) :
    Reads t.readItem (.object members) a := by
  have split : Reads t.split (.object members) (tag, .object kept.reverse) :=
    t.byMembers.reads walk rfl
  exact split.andThen content.held

end RemoteSigner.Json
