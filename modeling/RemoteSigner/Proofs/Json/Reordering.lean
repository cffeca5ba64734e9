import Mathlib.Data.List.Pairwise
import Mathlib.Data.List.Permutation
import RemoteSigner.Proofs.Json.Readers

/-!
# Members in any order

Somebody else may write the members of an object in another order, in the objects within it too.  A
reader of records does not mind, because every member is put into a place of its own in the draft
(`Entry.Apart`); a reader of choices does not mind either, but takes another way where the content
comes before its tag: the content is kept, and read from there.

## Main definitions

* `Reordered`: a value with the members of its objects in another order
* `ReadsReordered`: what a reader makes of a value in any order
* `Entry`: a member with what reading it does to a draft

## Main results

* `Record.readsReordered`: records whose members are apart
* `Tagged.readsReordered_content`, `Inline.readsReordered`: choices, wherever their tag stands
-/

namespace RemoteSigner.Json

open Decoder

variable {α β σ τ : Type}

/-! ## Other orders -/

mutual

/-- A value is another one with the members of its objects in some order, at every level. -/
inductive Reordered : Value → Value → Prop where
  | scalar {v : Value} (scalar : v.Scalar) : Reordered v v
  | list {items items' : List Value} (inner : ReorderedItems items items') :
      Reordered (.list items) (.list items')
  | object {members arranged members' : List (String × Value)} (order : members.Perm arranged)
      (inner : ReorderedMembers arranged members') : Reordered (.object members) (.object members')

/-- Items stay in their order, but what is in them may not. -/
inductive ReorderedItems : List Value → List Value → Prop where
  | nil : ReorderedItems [] []
  | cons {item item' : Value} {items items' : List Value} (head : Reordered item item')
      (tail : ReorderedItems items items') : ReorderedItems (item :: items) (item' :: items')

/-- Members with the same keys in the same order, but what is in their values may not be in its
order. -/
inductive ReorderedMembers : List (String × Value) → List (String × Value) → Prop where
  | nil : ReorderedMembers [] []
  | cons {name : String} {v v' : Value} {members members' : List (String × Value)}
      (head : Reordered v v') (tail : ReorderedMembers members members') :
      ReorderedMembers ((name, v) :: members) ((name, v') :: members')

end

mutual

theorem Reordered.refl : ∀ v : Value, Reordered v v
  | .list items => .list (ReorderedItems.refl items)
  | .object members => .object (.refl members) (ReorderedMembers.refl members)
  | .null => .scalar trivial
  | .bool _ => .scalar trivial
  | .number _ => .scalar trivial
  | .text _ => .scalar trivial

theorem ReorderedItems.refl : ∀ items : List Value, ReorderedItems items items
  | [] => .nil
  | item :: items => .cons (.refl item) (ReorderedItems.refl items)

theorem ReorderedMembers.refl : ∀ members : List (String × Value), ReorderedMembers members members
  | [] => .nil
  | (_, v) :: members => .cons (.refl v) (ReorderedMembers.refl members)

end

/-- The first member of an object may come last. -/
theorem Reordered.rotate {first : String × Value} {rest members : List (String × Value)}
    (inner : ReorderedMembers (rest ++ [first]) members) :
    Reordered (.object (first :: rest)) (.object members) :=
  .object (List.perm_append_singleton first rest).symm inner

theorem Reordered.eq_of_scalar {v w : Value} (scalar : v.Scalar) (h : Reordered v w) : w = v := by
  cases h with
  | scalar => rfl
  | list => exact scalar.elim
  | object => exact scalar.elim

theorem Reordered.eq_text {s : String} {w : Value} (h : Reordered (.text s) w) : w = .text s :=
  h.eq_of_scalar (v := .text s) trivial

theorem Reordered.ne_null {v w : Value} (h : Reordered v w) (notNull : v ≠ .null) : w ≠ .null := by
  cases h with
  | scalar => exact notNull
  | list => exact nofun
  | object => exact nofun

theorem ReorderedMembers.fst_eq {members members' : List (String × Value)}
    (h : ReorderedMembers members members') : members'.map Prod.fst = members.map Prod.fst := by
  cases h with
  | nil => rfl
  | cons head tail => rw [List.map_cons, List.map_cons, tail.fst_eq]

theorem ReorderedMembers.append {front back front' back' : List (String × Value)}
    (first : ReorderedMembers front front') (second : ReorderedMembers back back') :
    ReorderedMembers (front ++ back) (front' ++ back') := by
  cases first with
  | nil => exact second
  | cons head tail => exact .cons head (tail.append second)

theorem ReorderedMembers.of_append {front back members : List (String × Value)}
    (h : ReorderedMembers (front ++ back) members) :
    ∃ front' back', members = front' ++ back' ∧ ReorderedMembers front front' ∧
      ReorderedMembers back back' := by
  induction front generalizing members with
  | nil => exact ⟨[], members, rfl, .nil, h⟩
  | cons member front ih =>
    cases h with
    | cons head tail =>
      obtain ⟨front', back', rfl, first, second⟩ := ih tail
      exact ⟨_, back', rfl, .cons head first, second⟩

theorem ReorderedMembers.of_append_right {front back members : List (String × Value)}
    (h : ReorderedMembers members (front ++ back)) :
    ∃ front' back', members = front' ++ back' ∧ ReorderedMembers front' front ∧
      ReorderedMembers back' back := by
  induction front generalizing members with
  | nil => exact ⟨[], members, rfl, .nil, h⟩
  | cons member front ih =>
    cases h with
    | cons head tail =>
      obtain ⟨front', back', rfl, first, second⟩ := ih tail
      exact ⟨_, back', rfl, .cons head first, second⟩

/-- A member of an object stands somewhere in any order, and the other ones around it. -/
theorem Reordered.exists_member {name : String} {v w : Value} {others : List (String × Value)}
    (h : Reordered (.object ((name, v) :: others)) w) :
    ∃ front back v', w = .object (front ++ (name, v') :: back) ∧ Reordered v v' ∧
      Reordered (.object others) (.object (front ++ back)) := by
  cases h with
  | scalar scalar => exact scalar.elim
  | object order inner =>
    obtain ⟨front, back, rfl⟩ := List.append_of_mem (order.mem_iff.mp List.mem_cons_self)
    have around : others.Perm (front ++ back) := (order.trans List.perm_middle).cons_inv
    obtain ⟨front', back', rfl, first, second⟩ := inner.of_append
    cases second with
    | cons head tail => exact ⟨front', _, _, rfl, head, .object around (first.append tail)⟩

/-- Where there is one member only, there is nothing to arrange. -/
theorem Reordered.singleton {name : String} {v : Value} {members : List (String × Value)}
    (h : Reordered (.object [(name, v)]) (.object members)) : ∃ v', members = [(name, v')] := by
  cases h with
  | scalar scalar => exact scalar.elim
  | object order inner =>
    obtain rfl := List.singleton_perm.mp order
    rcases inner with _ | ⟨head, ⟨⟩⟩
    exact ⟨_, rfl⟩

theorem Reordered.nil {members : List (String × Value)}
    (h : Reordered (.object []) (.object members)) : members = [] := by
  cases h with
  | scalar scalar => exact scalar.elim
  | object order inner =>
    obtain rfl := List.nil_perm.mp order
    cases inner
    rfl

theorem Reordered.keys_perm {members members' : List (String × Value)}
    (h : Reordered (.object members) (.object members')) :
    (members'.map Prod.fst).Perm (members.map Prod.fst) := by
  cases h with
  | scalar scalar => exact scalar.elim
  | object order inner =>
    rw [inner.fst_eq]
    exact (order.map Prod.fst).symm

/-! ## The order does not change the depth -/

theorem depthMembers_perm {members members' : List (String × Value)}
    (order : members.Perm members') : Value.depthMembers members' = Value.depthMembers members := by
  induction order with
  | nil => rfl
  | cons member _ ih =>
    rcases member with ⟨name, v⟩
    rw [Value.depthMembers, Value.depthMembers, ih]
  | swap first second members =>
    rcases first with ⟨name, v⟩
    rcases second with ⟨name', v'⟩
    simp only [Value.depthMembers]
    exact Nat.max_left_comm ..
  | trans _ _ ih ih' => exact ih'.trans ih

mutual

theorem Reordered.depth_eq {v w : Value} (h : Reordered v w) : w.depth = v.depth := by
  cases h with
  | scalar => rfl
  | list inner => rw [Value.depth, Value.depth, inner.depth_eq]
  | object order inner => rw [Value.depth, Value.depth, inner.depth_eq, depthMembers_perm order]

theorem ReorderedItems.depth_eq {items items' : List Value} (h : ReorderedItems items items') :
    Value.depthItems items' = Value.depthItems items := by
  cases h with
  | nil => rfl
  | cons head tail => rw [Value.depthItems, Value.depthItems, head.depth_eq, tail.depth_eq]

theorem ReorderedMembers.depth_eq {members members' : List (String × Value)}
    (h : ReorderedMembers members members') :
    Value.depthMembers members' = Value.depthMembers members := by
  cases h with
  | nil => rfl
  | cons head tail => rw [Value.depthMembers, Value.depthMembers, head.depth_eq, tail.depth_eq]

end

/-! ## Reading in any order -/

/-- A reader makes `a` of the value `v`, in whatever order its members come. -/
def ReadsReordered (read : Item → Decoder α) (v : Value) (a : α) : Prop :=
  ∀ ⦃w : Value⦄, Reordered v w → Reads read w a

namespace ReadsReordered

variable {read : Item → Decoder α} {v : Value} {a : α}

theorem of_scalar (scalar : v.Scalar) (h : Reads read v a) : ReadsReordered read v a := by
  intro w other
  rw [other.eq_of_scalar scalar]
  exact h

theorem andThen {b : β} (h : ReadsReordered read v a) {f : α → Decoder β}
    (succeeds : ∀ origin text, (f a).run origin text = .done b text) :
    ReadsReordered (fun item => read item >>= f) v b :=
  fun _ other => (h other).andThen succeeds

theorem map (h : ReadsReordered read v a) (f : α → β) :
    ReadsReordered (fun item => return f (← read item)) v (f a) :=
  fun _ other => (h other).map f

theorem option (h : ReadsReordered read v a) (notNull : v ≠ .null) :
    ReadsReordered (Item.option read) v (some a) :=
  fun _ other => (h other).option (other.ne_null notNull)

theorem list {items : List Value} {results : List α}
    (h : List.Forall₂ (ReadsReordered read) items results) :
    ReadsReordered (Item.list read) (.list items) results := by
  intro w other
  cases other with
  | scalar scalar => exact scalar.elim
  | @list _ items' inner =>
    apply Reads.list
    induction h generalizing items' with
    | nil => cases inner; exact .nil
    | cons head _ ih =>
      cases inner with
      | cons first rest => exact .cons (head first) (ih rest)

end ReadsReordered

/-! ## Entries -/

/-- A member, with what reading it does to the state of a step. -/
structure Entry (step : Item.Step σ) where
  /-- The key of the member. -/
  name : String
  /-- The value of the member. -/
  value : Value
  /-- Whether a state has the member already. -/
  isSet : σ → Bool
  /-- What reading the member does to a state. -/
  update : σ → σ
  /-- The member is read where it is not there yet. -/
  round : ∀ {state w}, isSet state = false → Reordered value w →
    step.Round state name w (update state)

namespace Entry

variable {step : Item.Step σ}

/-- The member itself. -/
def member (e : Entry step) : String × Value := (e.name, e.value)

/-- Two members neither get into each other's way nor mind which of them comes first. -/
structure Apart (e e' : Entry step) : Prop where
  left : ∀ state, e.isSet (e'.update state) = e.isSet state
  right : ∀ state, e'.isSet (e.update state) = e'.isSet state
  comm : ∀ state, e.update (e'.update state) = e'.update (e.update state)

theorem Apart.symm {e e' : Entry step} (h : Apart e e') : Apart e' e :=
  ⟨h.right, h.left, fun state => (h.comm state).symm⟩

theorem pairwise_triple {first second third : Entry step} (apart : Apart first second)
    (apart' : Apart first third) (apart'' : Apart second third) :
    [first, second, third].Pairwise Apart := by
  simp [apart, apart', apart'']

/-- The state after some members. -/
def after (entries : List (Entry step)) (state : σ) : σ :=
  entries.foldl (fun state e => e.update state) state

/-- Members that are apart can be read one after the other.  Reading the first one leaves the others
unset. -/
theorem walk {entries : List (Entry step)} (apart : entries.Pairwise Apart) {state : σ}
    (unset : ∀ e ∈ entries, e.isSet state = false) {members : List (String × Value)}
    (other : ReorderedMembers (entries.map member) members) :
    step.Walk state members (after entries state) := by
  induction entries generalizing state members with
  | nil => cases other; exact .nil state
  | cons e entries ih =>
    rw [List.pairwise_cons] at apart
    rw [List.forall_mem_cons] at unset
    cases other with
    | cons head tail =>
      refine .cons (e.round unset.1 head) (ih apart.2 ?_ tail)
      intro e' mem
      rw [(apart.1 e' mem).right]
      exact unset.2 e' mem

/-- Members that are apart leave the same state in any order. -/
theorem after_perm {entries entries' : List (Entry step)} (apart : entries.Pairwise Apart)
    (order : entries.Perm entries') (state : σ) : after entries' state = after entries state := by
  have comm : ∀ e ∈ entries, ∀ e' ∈ entries, ∀ state,
      e'.update (e.update state) = e.update (e'.update state) := by
    apply List.Pairwise.forall_of_forall_of_flip
    · exact fun _ _ _ => rfl
    · exact apart.imp fun h state => (h.comm state).symm
    · exact apart.imp fun h => h.comm
  exact (order.foldl_eq' comm state).symm

/-- Members in another order are those of the entries in another order. -/
theorem exists_arranged {entries : List (Entry step)} {members : List (String × Value)}
    (other : Reordered (.object (entries.map member)) (.object members)) :
    ∃ entries' : List (Entry step), entries'.Perm entries ∧
      ReorderedMembers (entries'.map member) members := by
  cases other with
  | scalar scalar => exact scalar.elim
  | @object _ arranged _ order inner =>
    have same := congrFun (congrFun (List.eq_map_comp_perm (f := member)) arranged) entries
    obtain ⟨entries', rfl, arranged⟩ := same.mpr order.symm
    exact ⟨entries', arranged, inner⟩

theorem unset_of_subset {entries entries' : List (Entry step)} {state : σ}
    (unset : ∀ e ∈ entries, e.isSet state = false) (inside : entries' ⊆ entries) :
    ∀ e ∈ entries', e.isSet state = false :=
  fun e mem => unset e (inside mem)

/-- Members that are apart are read in any order, into the same state. -/
theorem walk_reordered {entries : List (Entry step)} (apart : entries.Pairwise Apart) {state : σ}
    (unset : ∀ e ∈ entries, e.isSet state = false) {members : List (String × Value)}
    (other : Reordered (.object (entries.map member)) (.object members)) :
    step.Walk state members (after entries state) := by
  obtain ⟨entries', arranged, inner⟩ := exists_arranged other
  rw [← after_perm apart arranged.symm]
  exact walk ((arranged.pairwise_iff Apart.symm).mpr apart)
    (unset_of_subset unset arranged.subset) inner

/-- In any order, some of the members come first. -/
theorem walk_front {entries : List (Entry step)} (apart : entries.Pairwise Apart) {state : σ}
    (unset : ∀ e ∈ entries, e.isSet state = false) {front back : List (String × Value)}
    (other : Reordered (.object (entries.map member)) (.object (front ++ back))) :
    ∃ first, first ⊆ entries ∧ step.Walk state front (after first state) := by
  obtain ⟨entries', arranged, inner⟩ := exists_arranged other
  obtain ⟨firstMembers, lastMembers, split, inner, -⟩ := inner.of_append_right
  obtain ⟨first, last, rfl, rfl, -⟩ := List.map_eq_append_iff.mp split
  have apart' := (arranged.pairwise_iff Apart.symm).mpr apart
  have inside : first ⊆ entries :=
    List.Subset.trans (List.subset_append_left first last) arranged.subset
  have free := unset_of_subset unset inside
  exact ⟨first, inside, walk (List.pairwise_append.mp apart').1 free inner⟩

/-- What no member touches is as it was. -/
theorem after_untouched {entries : List (Entry step)} {f : σ → β}
    (untouched : ∀ e ∈ entries, ∀ state, f (e.update state) = f state) (state : σ) :
    f (after entries state) = f state := by
  induction entries generalizing state with
  | nil => rfl
  | cons e entries ih =>
    rw [List.forall_mem_cons] at untouched
    exact (ih untouched.2 (e.update state)).trans (untouched.1 state)

end Entry

/-! ## Records -/

/-- A member of a record that is collected in its draft. -/
def Entry.of {r : Record σ α} (name : String) {get : σ → Option β} {set : σ → β → σ}
    {read : Item → Decoder β}
    (known : r.fields.find? (·.name == name) = some (Field.of name get set read))
    {v : Value} {b : β} (reads : ReadsReordered read v b) : Entry r.step where
  name := name
  value := v
  isSet draft := (get draft).isSome
  update draft := set draft b
  round {draft w} unset other := by
    refine ⟨fun item => return set draft (← read item), ?_, (reads other).map (set draft)⟩
    simp [Record.step, known, Field.of, unset]

/-- A record is read if its members are apart and give a complete draft. -/
theorem Record.readsReordered {r : Record σ α} {entries : List (Entry r.step)} {a : α}
    (apart : entries.Pairwise Entry.Apart) (unset : ∀ e ∈ entries, e.isSet r.empty = false)
    (complete : r.finish missing (Entry.after entries r.empty) = .ok a) :
    ReadsReordered r.read (.object (entries.map Entry.member)) a := by
  intro w other
  cases other with
  | scalar scalar => exact scalar.elim
  | object order inner =>
    exact r.byMembers.reads (Entry.walk_reordered apart unset (.object order inner)) complete

/-! ## Choices -/

theorem Tagged.round_keep (t : Tagged τ α) (distinct : t.content ≠ t.tag) (v : Value) :
    t.step.Round .empty t.content v (.kept v) :=
  ⟨_, (if_neg distinct).trans (if_pos rfl), Reads.keep.map Draft.kept⟩

theorem Tagged.round_tag_kept {t : Tagged τ α} {name : String} {tag : τ} {v : Value} {a : α}
    (known : t.names.lookup name = some tag) (content : Reads (t.read tag) v a) :
    t.step.Round (.kept v) t.tag (.text name) (.complete a) := by
  refine ⟨_, if_pos rfl, ?_⟩
  apply (Reads.choice known).andThen
  intro origin text
  rw [run_bind, content.held]
  rfl

/-- A tag that can stand alone is read where it does. -/
theorem Tagged.readsReordered_alone (t : Tagged τ α) (tag : τ) {name : String} {a : α}
    (known : t.names.lookup name = some tag) (alone : t.alone tag = some a) :
    ReadsReordered t.readItem (.object [(t.tag, .text name)]) a := by
  intro w other
  cases other with
  | scalar scalar => exact scalar.elim
  | object order inner =>
    obtain rfl := List.singleton_perm.mp order
    cases inner with
    | cons head tail =>
      cases tail
      rw [head.eq_text]
      exact Tagged.reads_alone t tag known alone

/-- A tag and its content are read, whichever comes first.  Content that comes first is kept until
the tag is known. -/
theorem Tagged.readsReordered_content (t : Tagged τ α) (tag : τ) {name : String} {v : Value} {a : α}
    (known : t.names.lookup name = some tag) (distinct : t.content ≠ t.tag)
    (content : ReadsReordered (t.read tag) v a) :
    ReadsReordered t.readItem (.object [(t.tag, .text name), (t.content, v)]) a := by
  intro w other
  cases other with
  | scalar scalar => exact scalar.elim
  | object order inner =>
    rcases List.pair_perm.mp order with rfl | rfl
    · rcases inner with _ | ⟨head, _ | ⟨second, ⟨⟩⟩⟩
      rw [head.eq_text]
      exact Tagged.reads_content t tag known distinct (content second)
    · rcases inner with _ | ⟨head, _ | ⟨second, ⟨⟩⟩⟩
      rw [second.eq_text]
      have walk : t.step.Walk .empty [(t.content, _), (t.tag, .text name)] (.complete a) :=
        .cons (round_keep t distinct _) (.cons (round_tag_kept known (content head)) (.nil _))
      exact t.byMembers.reads walk rfl

/-- A tag among the other members is read together with them, wherever it stands. -/
theorem Inline.reads_among (t : Inline τ α) (tag : τ) {name : String}
    {front back : List (String × Value)} {a : α} (known : t.names.lookup name = some tag)
    (others : t.tag ∉ (front ++ back).map Prod.fst)
    (content : Reads (t.read tag) (.object (front ++ back)) a) :
    Reads t.readItem (.object (front ++ (t.tag, .text name) :: back)) a := by
  rw [List.map_append, List.mem_append, not_or] at others
  have keep (state : Option τ) (members kept : List (String × Value))
      (other : t.tag ∉ members.map Prod.fst) :
      t.step.Walk (state, kept) members (state, members.reverse ++ kept) := by
    refine walks_keep (fun kept => (state, kept)) (fun kept key v member => ?_) kept
    have different : key ≠ t.tag := fun same => other (same ▸ List.mem_map_of_mem member)
    exact ⟨_, if_neg different, Reads.keep.map fun v => (state, (key, v) :: kept)⟩
  have between : t.step.Round (none, front.reverse) t.tag (.text name) (some tag, front.reverse) :=
    ⟨_, if_pos rfl, (Reads.nameOrIndex known).map fun tag => (some tag, front.reverse)⟩
  have first := keep none front [] others.1
  rw [List.append_nil] at first
  apply Inline.reads (first.append (.cons between (keep (some tag) back front.reverse others.2)))
  rw [← List.reverse_append, List.reverse_reverse]
  exact content

/-- A tag among the other members is read together with them, in any order. -/
theorem Inline.readsReordered (t : Inline τ α) (tag : τ) {name : String}
    {members : List (String × Value)} {a : α} (known : t.names.lookup name = some tag)
    (others : t.tag ∉ members.map Prod.fst)
    (content : ReadsReordered (t.read tag) (.object members) a) :
    ReadsReordered t.readItem (.object ((t.tag, .text name) :: members)) a := by
  intro w other
  obtain ⟨front, back, v, rfl, head, around⟩ := other.exists_member
  rw [head.eq_text]
  refine Inline.reads_among t tag known ?_ (content around)
  rwa [around.keys_perm.mem_iff]

end RemoteSigner.Json
