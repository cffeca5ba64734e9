import Mathlib.Data.List.Forall2
import RemoteSigner.Proofs.Json.Scalars

/-!
# Reading lists and objects

The loops over the items of a list and the members of an object follow the written forms of the
parts.  What a loop does with a part is a parameter of the statements: they ask only that one round
reads one part.

## Main definitions

* `Walks`: members one after the other, each of which changes a state

## Main results

* `run_loopItems`, `run_loopMembers`: a loop reads all parts, if one round reads one part
* `takes_value`: any value is read from any of its written forms
-/

namespace RemoteSigner.Json

namespace Decoder

variable {origin : Origin} {gap rest : Bytes} {b : UInt8} {α σ : Type}

/-! ## Separators and brackets -/

theorem run_moreItems_closed (first : Bool) (blank : Gap gap) (rest : Bytes) :
    (moreItems first).run origin (gap ++ 0x5D :: rest) = .done false (0x5D :: rest) := by
  rw [moreItems, run_bind, run_token_cons blank rfl]
  rfl

theorem run_moreItems_first (blank : Gap gap) (solid : isBlank b = false) (open' : b ≠ 0x5D)
    (rest : Bytes) : (moreItems true).run origin (gap ++ b :: rest) = .done true (b :: rest) := by
  rw [moreItems, run_bind, run_token_cons blank solid]
  simp [open']

theorem run_moreItems_next {before after : Bytes} (blankBefore : Gap before)
    (blankAfter : Gap after) (solid : isBlank b = false) (open' : b ≠ 0x5D) (rest : Bytes) :
    (moreItems false).run origin (before ++ 0x2C :: (after ++ b :: rest)) =
      .done true (b :: rest) := by
  rw [moreItems, run_bind, run_token_cons blankBefore rfl]
  simp +decide only [reduceIte, run_bind, run_advance, List.tail_cons]
  rw [anotherItem, run_bind, run_token_cons blankAfter solid]
  simp [open']

theorem run_moreMembers_closed (first : Bool) (blank : Gap gap) (rest : Bytes) :
    (moreMembers first).run origin (gap ++ 0x7D :: rest) = .done false (0x7D :: rest) := by
  rw [moreMembers, run_bind, run_token_cons blank rfl]
  rfl

theorem run_moreMembers_first (blank : Gap gap) (name : String) (rest : Bytes) :
    (moreMembers true).run origin (gap ++ (quoted name ++ rest)) =
      .done true (quoted name ++ rest) := by
  rw [quoted, List.cons_append, moreMembers, run_bind, run_token_cons blank rfl]
  simp +decide

theorem run_moreMembers_next {before after : Bytes} (blankBefore : Gap before)
    (blankAfter : Gap after) (name : String) (rest : Bytes) :
    (moreMembers false).run origin (before ++ 0x2C :: (after ++ (quoted name ++ rest))) =
      .done true (quoted name ++ rest) := by
  rw [quoted, List.cons_append, moreMembers, run_bind, run_token_cons blankBefore rfl]
  simp +decide only [reduceIte, run_bind, run_advance, List.tail_cons]
  rw [anotherMember, run_bind, run_token_cons blankAfter rfl]
  simp

theorem run_colon (blank : Gap gap) (rest : Bytes) :
    colon.run origin (gap ++ 0x3A :: rest) = .done () rest := by
  rw [colon, run_bind, run_token_cons blank rfl]
  rfl

theorem run_endList (rest : Bytes) : endList.run origin (0x5D :: rest) = .done () rest := by
  rw [endList, run_bind, ← List.nil_append (0x5D :: rest), run_token_cons .nil rfl]
  rfl

theorem run_endObject (rest : Bytes) : endObject.run origin (0x7D :: rest) = .done () rest := by
  rw [endObject, run_bind, ← List.nil_append (0x7D :: rest), run_token_cons .nil rfl]
  rfl

/-- What stands between two brackets is read together with the closing one. -/
theorem run_enclosed {d : Decoder α} {closing : Decoder Unit} {a : α} {text middle : Bytes}
    (inner : d.run origin text = .done a middle)
    (close : closing.run origin middle = .done () rest) :
    (d.enclosed closing).run origin text = .done a rest := by
  simp [enclosed, inner, close]

/-! ## Items -/

theorem closes_of_spellsItems {items : List Value} {body : Bytes}
    (spelled : SpellsItems false items body) (rest : Bytes) : Closes (body ++ 0x5D :: rest) := by
  cases spelled with
  | nil _ blank => exact .gap_append blank (.cons _ rfl)
  | next blankBefore =>
    rw [List.append_assoc, List.cons_append]
    exact .gap_append blankBefore (.cons _ rfl)

theorem loopItems_of_closed {step : σ → Decoder σ} {first : Bool} {state : σ} {text : Bytes}
    (more : (moreItems first).run origin text = .done false rest) :
    loopItems step origin first state text = .done state rest := by
  rw [loopItems]
  split <;> simp_all

theorem loopItems_of_item {step : σ → Decoder σ} {first : Bool} {state state' : σ}
    {text middle : Bytes} (more : (moreItems first).run origin text = .done true middle)
    (round : (step state).run origin middle = .done state' rest) :
    loopItems step origin first state text = loopItems step origin false state' rest := by
  rw [loopItems]
  split
  · simp_all
  · simp_all
  · split <;> simp_all

/-- A reader takes a value off the front of a document, in any of its written forms. -/
def Takes (origin : Origin) (read : Decoder α) (v : Value) (a : α) : Prop :=
  ∀ ⦃gap text rest : Bytes⦄, Gap gap → Spells v text → Closes rest →
    read.run origin (gap ++ (text ++ rest)) = .done a rest

/-- A loop reads all items of a list, if one round reads one item.  The state holds what has been
read, last first.  Every item but the first one has a separator in front of it. -/
theorem run_loopItems {read : Decoder α} {items : List Value} {results : List α}
    (takes : List.Forall₂ (Takes origin read) items results) {first : Bool} {body : Bytes}
    (spelled : SpellsItems first items body) (state : List α) (rest : Bytes) :
    loopItems (fun state => do return (← read) :: state) origin first state (body ++ 0x5D :: rest) =
      .done (results.reverse ++ state) (0x5D :: rest) := by
  induction takes generalizing first body state with
  | nil =>
    cases spelled with
    | nil _ blank => exact loopItems_of_closed (run_moreItems_closed first blank rest)
  | @cons item a items results take takes ih =>
    have round {text more : Bytes} (h : Spells item text) (closes : Closes more) :
        (do return (← read) :: state : Decoder (List α)).run origin (text ++ more) =
          .done (a :: state) more := by
      have := take Gap.nil h closes
      rw [List.nil_append] at this
      simp [this]
    cases spelled with
    | first blank head more =>
      have closes := closes_of_spellsItems more rest
      have read := round head closes
      obtain ⟨b, tail, rfl, solid, notClosing, -⟩ := exists_cons_of_spells head
      simp only [List.append_assoc, List.cons_append] at read ⊢
      rw [loopItems_of_item (run_moreItems_first blank solid notClosing _) read, ih more]
      simp
    | next blankBefore blankAfter head more =>
      have closes := closes_of_spellsItems more rest
      have read := round head closes
      obtain ⟨b, tail, rfl, solid, notClosing, -⟩ := exists_cons_of_spells head
      simp only [List.append_assoc, List.cons_append] at read ⊢
      rw [loopItems_of_item (run_moreItems_next blankBefore blankAfter solid notClosing _) read,
        ih more]
      simp

/-- All items of a list are read, with the brackets around them. -/
theorem run_items {read : Decoder α} {items : List Value} {results : List α}
    (takes : List.Forall₂ (Takes origin read) items results) {body : Bytes}
    (spelled : SpellsItems true items body) (rest : Bytes) :
    (Decoder.items read).run origin (0x5B :: (body ++ 0x5D :: rest)) = .done results rest := by
  have loop : (foldItems true (fun state => do return (← read) :: state) []).run origin
      (body ++ 0x5D :: rest) = .done results.reverse (0x5D :: rest) :=
    (run_loopItems takes spelled [] rest).trans (by rw [List.append_nil])
  simp [Decoder.items, run_enclosed loop (run_endList rest)]

/-! ## Members -/

/-- Members one after the other, each of which changes a state; what is known of the value of a
member is of type `ν`. -/
inductive Walks {ν : Type} (walk : σ → String → ν → σ → Prop) :
    σ → List (String × ν) → σ → Prop where
  | nil (state : σ) : Walks walk state [] state
  | cons {state state' final : σ} {key : String} {value : ν}
      {members : List (String × ν)} (round : walk state key value state')
      (more : Walks walk state' members final) : Walks walk state ((key, value) :: members) final

theorem Walks.mono {ν : Type} {walk walk' : σ → String → ν → σ → Prop} {state final : σ}
    {members : List (String × ν)}
    (weaker : ∀ state key value state', (key, value) ∈ members → walk state key value state' →
      walk' state key value state') (walks : Walks walk state members final) :
    Walks walk' state members final := by
  induction walks with
  | nil => exact .nil _
  | cons round more ih =>
    exact .cons (weaker _ _ _ _ List.mem_cons_self round) <|
      ih fun _ _ _ _ member => weaker _ _ _ _ (List.mem_cons_of_mem _ member)

theorem Walks.append {ν : Type} {walk : σ → String → ν → σ → Prop} {state between final : σ}
    {first second : List (String × ν)} (front : Walks walk state first between)
    (back : Walks walk between second final) : Walks walk state (first ++ second) final := by
  induction front with
  | nil => exact back
  | cons round _ ih => exact .cons round (ih back)

theorem closes_of_spellsMembers {members : List (String × Value)} {body : Bytes}
    (spelled : SpellsMembers false members body) (rest : Bytes) :
    Closes (body ++ 0x7D :: rest) := by
  cases spelled with
  | nil _ blank => exact .gap_append blank (.cons _ rfl)
  | next blankBefore =>
    rw [List.append_assoc, List.cons_append]
    exact .gap_append blankBefore (.cons _ rfl)

theorem loopMembers_of_closed {step : σ → String → Decoder σ} {first : Bool} {state : σ}
    {text : Bytes} (more : (moreMembers first).run origin text = .done false rest) :
    loopMembers step origin first state text = .done state rest := by
  rw [loopMembers]
  split <;> simp_all

/-- Goes on behind a member. -/
def otherMembers (step : σ → String → Decoder σ) (state : σ) : Decoder σ where
  run origin text := loopMembers step origin false state text
  shortens := length_loopMembers_le

/-- One round of a loop over members: the key, and then what `step` does. -/
theorem loopMembers_of_round {step : σ → String → Decoder σ} {first : Bool} {state : σ}
    {text middle : Bytes} (more : (moreMembers first).run origin text = .done true middle) :
    loopMembers step origin first state text =
      ((key >>= step state) >>= otherMembers step).run origin middle := by
  rw [loopMembers, run_bind]
  split
  · simp_all
  · simp_all
  · rename_i h
    obtain rfl : middle = _ := by simpa using more.symm.trans h
    split <;> simp_all [otherMembers]

theorem loopMembers_of_member {step : σ → String → Decoder σ} {first : Bool} {state state' : σ}
    {name : String} {text middle : Bytes}
    (more : (moreMembers first).run origin text = .done true (quoted name ++ middle))
    (round : (step state name).run origin middle = .done state' rest) :
    loopMembers step origin first state text = loopMembers step origin false state' rest := by
  rw [loopMembers_of_round more, run_bind, run_bind, run_key]
  simp only [round]
  rfl

/-- What one round of a loop over members does behind the key. -/
def TakesMember (origin : Origin) (step : σ → String → Decoder σ) (state : σ) (name : String)
    (value : Value) (state' : σ) : Prop :=
  ∀ ⦃colon space text rest : Bytes⦄, Gap colon → Gap space → Spells value text → Closes rest →
    (step state name).run origin (colon ++ 0x3A :: (space ++ (text ++ rest))) = .done state' rest

/-- A loop reads all members of an object, if one round reads one member.  Each step of the walk is
one round of the loop. -/
theorem run_loopMembers {step : σ → String → Decoder σ} {state final : σ}
    {members : List (String × Value)} (walks : Walks (TakesMember origin step) state members final)
    {first : Bool} {body : Bytes} (spelled : SpellsMembers first members body) (rest : Bytes) :
    loopMembers step origin first state (body ++ 0x7D :: rest) = .done final (0x7D :: rest) := by
  induction walks generalizing first body with
  | nil =>
    cases spelled with
    | nil _ blank => exact loopMembers_of_closed (run_moreMembers_closed first blank rest)
  | cons round walks ih =>
    cases spelled with
    | first blank blankColon blankSpace head more =>
      have read := round blankColon blankSpace head (closes_of_spellsMembers more rest)
      simp only [List.append_assoc, List.cons_append] at read ⊢
      rw [loopMembers_of_member (run_moreMembers_first blank _ _) read, ih more]
    | next blankBefore blankAfter blankColon blankSpace head more =>
      have read := round blankColon blankSpace head (closes_of_spellsMembers more rest)
      simp only [List.append_assoc, List.cons_append] at read ⊢
      rw [loopMembers_of_member (run_moreMembers_next blankBefore blankAfter _ _) read, ih more]

/-! ## Whole values -/

theorem depth_le_of_mem_items {items : List Value} {v : Value} (member : v ∈ items) :
    v.depth ≤ Value.depthItems items := by
  induction items with
  | nil => simp at member
  | cons item items ih =>
    rw [Value.depthItems]
    rcases List.mem_cons.mp member with rfl | member
    · exact Nat.le_max_left ..
    · exact Nat.le_trans (ih member) (Nat.le_max_right ..)

theorem depth_le_of_mem_members {members : List (String × Value)} {name : String} {v : Value}
    (member : (name, v) ∈ members) : v.depth ≤ Value.depthMembers members := by
  induction members with
  | nil => simp at member
  | cons head members ih =>
    rcases head with ⟨name', v'⟩
    rw [Value.depthMembers]
    rcases List.mem_cons.mp member with h | member
    · cases h
      exact Nat.le_max_left ..
    · exact Nat.le_trans (ih member) (Nat.le_max_right ..)

/-- Members that are kept one after the other, where a state holds those that have been kept. -/
theorem walks_keep {walk : σ → String → Value → σ → Prop} (holding : List (String × Value) → σ)
    {members : List (String × Value)}
    (keep : ∀ kept name v, (name, v) ∈ members →
      walk (holding kept) name v (holding ((name, v) :: kept)))
    (kept : List (String × Value)) :
    Walks walk (holding kept) members (holding (members.reverse ++ kept)) := by
  induction members generalizing kept with
  | nil => exact .nil _
  | cons head members ih =>
    rcases head with ⟨name, v⟩
    have more := ih (fun kept name v member => keep kept name v (List.mem_cons_of_mem _ member))
      ((name, v) :: kept)
    rw [List.reverse_cons, List.append_assoc, List.singleton_append]
    exact .cons (keep kept name v List.mem_cons_self) more

theorem run_members {read : Decoder Value} {members : List (String × Value)}
    (takes : ∀ name v, (name, v) ∈ members → Takes origin read v v) {body : Bytes}
    (spelled : SpellsMembers true members body) (rest : Bytes) :
    (Decoder.members read).run origin (0x7B :: (body ++ 0x7D :: rest)) = .done members rest := by
  let step (members : List (String × Value)) (name : String) : Decoder (List (String × Value)) := do
    colon
    return (name, ← read) :: members
  have walks : Walks (TakesMember origin step) [] members members.reverse := by
    rw [← List.append_nil members.reverse]
    refine walks_keep id (fun kept name v member => ?_) []
    intro colon space text rest blankColon blankSpace written closes
    simp [step, run_colon blankColon, takes name v member blankSpace written closes]
  have loop : (foldMembers step []).run origin (body ++ 0x7D :: rest) =
      .done members.reverse (0x7D :: rest) := run_loopMembers walks spelled rest
  have inner := run_enclosed loop (run_endObject rest)
  simp only [step] at inner
  simp [Decoder.members, inner]

theorem run_placed {d : Decoder α} {text : Bytes} {a : α}
    (h : d.run origin text = .done a rest) : d.placed.run origin text = .done a rest := by
  simp [placed, h, Outcome.placed]

theorem takes_valueOf_scalar (whole : origin.Whole) {v : Value} (scalar : v.Scalar)
    (list : Decoder (List Value)) (object : Decoder (List (String × Value))) :
    Takes origin (valueOf list object) v v := by
  intro gap text rest blank spelled closes
  apply run_placed
  rw [run_bind, run_head whole spelled scalar blank closes]
  cases v with
  | list items => exact scalar.elim
  | object members => exact scalar.elim
  | _ => rfl

/-- A value is read from any of its written forms, if it is not nested too deeply.  The parts of a
value have one level less, and without a level left there are none. -/
theorem takes_value (whole : origin.Whole) {levels : Nat} {v : Value} (enough : v.depth ≤ levels) :
    Takes origin (value levels) v v := by
  induction levels generalizing v with
  | zero =>
    have scalar : v.Scalar := by
      cases v <;> trivial
    exact takes_valueOf_scalar whole scalar _ _
  | succ levels ih =>
    cases v with
    | list items =>
      intro gap text rest blank spelled closes
      rcases spelled with _ | _ | _ | _ | inner | _
      rw [Value.depth, Nat.add_le_add_iff_right] at enough
      have takes : List.Forall₂ (Takes origin (value levels)) items items := by
        apply List.forall₂_same.mpr
        intro v member
        exact ih (Nat.le_trans (depth_le_of_mem_items member) enough)
      apply run_placed
      simp only [List.cons_append, List.append_assoc, run_bind, run_head_list blank]
      simp [run_items takes inner rest]
    | object members =>
      intro gap text rest blank spelled closes
      rcases spelled with _ | _ | _ | _ | _ | inner
      rw [Value.depth, Nat.add_le_add_iff_right] at enough
      have takes : ∀ name v, (name, v) ∈ members → Takes origin (value levels) v v := by
        intro name v member
        exact ih (Nat.le_trans (depth_le_of_mem_members member) enough)
      apply run_placed
      simp only [List.cons_append, List.append_assoc, run_bind, run_head_object blank]
      simp [run_members takes inner rest]
    | null => exact takes_valueOf_scalar (v := .null) whole trivial _ _
    | bool b => exact takes_valueOf_scalar (v := .bool b) whole trivial _ _
    | number n => exact takes_valueOf_scalar (v := .number n) whole trivial _ _
    | text s => exact takes_valueOf_scalar (v := .text s) whole trivial _ _

end Decoder

end RemoteSigner.Json
