import RemoteSigner.Proofs.Json.Grammar
import RemoteSigner.Proofs.Json.Refusals

/-!
# Objects that somebody else has written

A record is read from many texts: its members come in any order, some of them may be left out, and
others that the record does not know stand between them.  `ObjectForm` says which texts these are,
given the texts that may stand for each member; nothing is asked of an unknown member but that it is
well formed.

Texts may be written with any escapes, the keys too.

## Main definitions

* `Literal`: the ways to write a text between quotes
* `WritesMembers`: members that are written one after the other
* `Place`, `ObjectForm`: what may stand in an object, and the texts of such an object
* `Collects`: a record that collects the members of an object in a draft

## Main results

* `Collects.readsForms`: a record is read from any of its forms
* `Collects.stops`: a record stops at a member that it knows and can not read
* `Decoder.decode_broken`: a document that breaks off is not decoded
-/

namespace RemoteSigner.Json

open Decoder

variable {α β σ : Type}

/-! ## Texts -/

/-- What stands between two quotes, and the octets of what it stands for. -/
inductive Denotes : Bytes → Bytes → Prop where
  | nil : Denotes [] []
  | plain {b : UInt8} {inner octets : Bytes} (notQuote : b ≠ 0x22) (notBackslash : b ≠ 0x5C)
      (printable : ¬ b < 0x20) (more : Denotes inner octets) : Denotes (b :: inner) (b :: octets)
  | short {letter b : UInt8} {inner octets : Bytes} (known : (letter, b) ∈ shortEscapes)
      (more : Denotes inner octets) : Denotes (0x5C :: letter :: inner) (b :: octets)
  | numbered {digits inner octets : Bytes} {n : Nat} (four : FourDigits digits n)
      (noHalf : n < 0xD800 ∨ 0xDFFF < n) (more : Denotes inner octets) :
      Denotes (0x5C :: 0x75 :: (digits ++ inner))
        (Bytes.ofText (Char.ofNat n).toString ++ octets)
  | pair {digits digits' inner octets : Bytes} {high low : Nat} (four : FourDigits digits high)
      (four' : FourDigits digits' low) (first : 0xD800 ≤ high ∧ high ≤ 0xDBFF)
      (second : 0xDC00 ≤ low ∧ low ≤ 0xDFFF) (more : Denotes inner octets) :
      Denotes (0x5C :: 0x75 :: (digits ++ 0x5C :: 0x75 :: (digits' ++ inner)))
        (Bytes.ofText
          (Char.ofNat (0x10000 + (high - 0xD800) * 0x400 + (low - 0xDC00))).toString ++ octets)

/-- A text as somebody may write it. -/
def Literal (s : String) (text : Bytes) : Prop :=
  ∃ inner, text = 0x22 :: (inner ++ [0x22]) ∧ Denotes inner (Bytes.ofText s)

theorem ofText_singleton_ofNat {b : UInt8} (ascii : b < 0x80) :
    Bytes.ofText (Char.ofNat b.toNat).toString = [b] := by
  have char := Bytes.ofText_ofList (show ∀ c ∈ [b], c < 0x80 by simpa using ascii)
  rwa [List.map_singleton, ← String.singleton_eq_ofList] at char

theorem denotes_escaped (b : UInt8) {inner octets : Bytes} (more : Denotes inner octets) :
    Denotes (escaped b ++ inner) (b :: octets) := by
  unfold escaped
  split_ifs with special h8 h9 hA hC hD control
  · rcases special with rfl | rfl <;> exact .short (by simp [shortEscapes]) more
  · exact h8 ▸ .short (by simp [shortEscapes]) more
  · exact h9 ▸ .short (by simp [shortEscapes]) more
  · exact hA ▸ .short (by simp [shortEscapes]) more
  · exact hC ▸ .short (by simp [shortEscapes]) more
  · exact hD ▸ .short (by simp [shortEscapes]) more
  · have small : b.toNat < 0x20 := UInt8.lt_iff_toNat_lt.mp control
    have four : FourDigits [0x30, 0x30, hexDigit (b.toNat / 16), hexDigit (b.toNat % 16)]
        b.toNat := by
      refine ⟨_, _, _, _, 0, 0, b.toNat / 16, b.toNat % 16, rfl, by decide, by decide,
        hexValue?_hexDigit (by omega), hexValue?_hexDigit (by omega), by omega⟩
    have written := Denotes.numbered four (.inl (by omega)) more
    rwa [ofText_singleton_ofNat (UInt8.lt_trans control (by decide))] at written
  · exact .plain (fun h => special (.inl h)) (fun h => special (.inr h)) control more

/-- The form in which a text is written here is one of those that somebody may choose. -/
theorem literal_quoted (s : String) : Literal s (quoted s) := by
  refine ⟨(Bytes.ofText s).flatMap escaped, rfl, ?_⟩
  induction Bytes.ofText s with
  | nil => exact .nil
  | cons b octets ih => exact denotes_escaped b ih

namespace Decoder

variable {origin : Origin} {gap rest : Bytes}

theorem unescape_denotes {inner octets : Bytes} (denotes : Denotes inner octets)
    (done rest : Bytes) :
    unescape origin done (inner ++ 0x22 :: rest) = .done (done.reverse ++ octets) rest := by
  induction denotes generalizing done with
  | nil => rw [List.nil_append, unescape_quote, List.append_nil]
  | plain notQuote notBackslash printable _ ih =>
    rw [List.cons_append, unescape, if_neg notQuote, if_neg notBackslash, if_neg printable, ih]
    simp
  | @short letter b inner octets known _ ih =>
    have run : escape.run origin (letter :: (inner ++ 0x22 :: rest)) =
        .done [b] (inner ++ 0x22 :: rest) := by
      simp only [shortEscapes, List.mem_cons, Prod.mk.injEq, List.not_mem_nil, or_false] at known
      rcases known with ⟨rfl, rfl⟩ | ⟨rfl, rfl⟩ | ⟨rfl, rfl⟩ | ⟨rfl, rfl⟩ | ⟨rfl, rfl⟩ |
        ⟨rfl, rfl⟩ | ⟨rfl, rfl⟩ | ⟨rfl, rfl⟩ <;> simp [escape]
    rw [List.cons_append, List.cons_append, unescape_of_escape run, ih]
    simp
  | @numbered digits inner octets n four noHalf _ ih =>
    have second : ¬ (0xDC00 ≤ n ∧ n ≤ 0xDFFF) := by omega
    have first : n < 0xD800 ∨ 0xDBFF < n := by omega
    have run : escape.run origin (0x75 :: (digits ++ (inner ++ 0x22 :: rest))) =
        .done (Bytes.ofText (Char.ofNat n).toString) (inner ++ 0x22 :: rest) := by
      simp [escape, numbered, run_fourDigits_of four, second, first]
    rw [List.cons_append, List.cons_append, List.append_assoc, unescape_of_escape run, ih]
    simp [List.append_assoc]
  | @pair digits digits' inner octets high low four four' first second _ ih =>
    have noSecond : ¬ (0xDC00 ≤ high ∧ high ≤ 0xDFFF) := by omega
    have isFirst : ¬ (high < 0xD800 ∨ 0xDBFF < high) := by omega
    have isSecond : ¬ (low < 0xDC00 ∨ 0xDFFF < low) := by omega
    have run : escape.run origin
        (0x75 :: (digits ++ 0x5C :: 0x75 :: (digits' ++ (inner ++ 0x22 :: rest)))) =
        .done (Bytes.ofText
          (Char.ofNat (0x10000 + (high - 0xD800) * 0x400 + (low - 0xDC00))).toString)
            (inner ++ 0x22 :: rest) := by
      simp [escape, numbered, secondHalf, run_fourDigits_of four, run_fourDigits_of four',
        noSecond, isFirst, isSecond]
    simp only [List.cons_append, List.append_assoc]
    rw [unescape_of_escape run, ih]
    simp [List.append_assoc]

/-- A text is read from any of the forms in which it may be written. -/
theorem run_key_literal (origin : Origin) {s : String} {text : Bytes} (literal : Literal s text)
    (rest : Bytes) : key.run origin (text ++ rest) = .done s rest := by
  obtain ⟨inner, rfl, denotes⟩ := literal
  simp [key, Decoder.text, unescape_denotes denotes, Bytes.toText?_ofText]

end Decoder

/-! ## Members -/

/-- A text is a written form of members up to the bracket that closes their object; `first` says
that no member comes before them.  A member is its name and the text of its value. -/
inductive WritesMembers : Bool → List (String × Bytes) → Bytes → Prop where
  | nil (first : Bool) {gap : Bytes} (blank : Gap gap) : WritesMembers first [] gap
  | first {name : String} {key value : Bytes} {members : List (String × Bytes)}
      {gap colon space body : Bytes} (blank : Gap gap) (literal : Literal name key)
      (blankColon : Gap colon) (blankSpace : Gap space) (more : WritesMembers false members body) :
      WritesMembers true ((name, value) :: members)
        (gap ++ (key ++ (colon ++ 0x3A :: (space ++ (value ++ body)))))
  | next {name : String} {key value : Bytes} {members : List (String × Bytes)}
      {before after colon space body : Bytes} (blankBefore : Gap before) (blankAfter : Gap after)
      (literal : Literal name key) (blankColon : Gap colon) (blankSpace : Gap space)
      (more : WritesMembers false members body) :
      WritesMembers false ((name, value) :: members)
        (before ++ 0x2C :: (after ++ (key ++ (colon ++ 0x3A :: (space ++ (value ++ body))))))

namespace Decoder

variable {origin : Origin} {gap rest : Bytes}

theorem closes_of_writesMembers {members : List (String × Bytes)} {body : Bytes}
    (written : WritesMembers false members body) (rest : Bytes) : Closes (body ++ 0x7D :: rest) := by
  cases written with
  | nil _ blank => exact .gap_append blank (.cons _ rfl)
  | next blankBefore =>
    rw [List.append_assoc, List.cons_append]
    exact .gap_append blankBefore (.cons _ rfl)

theorem run_moreMembers_literal {name : String} {key : Bytes} (literal : Literal name key)
    (blank : Gap gap) (rest : Bytes) :
    (moreMembers true).run origin (gap ++ (key ++ rest)) = .done true (key ++ rest) := by
  obtain ⟨inner, rfl, -⟩ := literal
  rw [List.cons_append, moreMembers, run_bind, run_token_cons blank rfl]
  simp +decide

theorem run_moreMembers_next_literal {name : String} {before after key : Bytes}
    (literal : Literal name key) (blankBefore : Gap before) (blankAfter : Gap after)
    (rest : Bytes) :
    (moreMembers false).run origin (before ++ 0x2C :: (after ++ (key ++ rest))) =
      .done true (key ++ rest) := by
  obtain ⟨inner, rfl, -⟩ := literal
  rw [List.cons_append, moreMembers, run_bind, run_token_cons blankBefore rfl]
  simp +decide only [reduceIte, run_bind, run_advance, List.tail_cons]
  rw [anotherMember, run_bind, run_token_cons blankAfter rfl]
  simp

/-- What one round of a loop over members does with a member behind its key. -/
def PassesMember (origin : Origin) (step : σ → String → Decoder σ) (state : σ) (name : String)
    (value : Bytes) (state' : σ) : Prop :=
  ∀ ⦃colon space rest : Bytes⦄, Gap colon → Gap space → Closes rest →
    (step state name).run origin (colon ++ 0x3A :: (space ++ (value ++ rest))) = .done state' rest

/-- The first member of an object, and what a loop does with it. -/
theorem exists_round (origin : Origin) (step : σ → String → Decoder σ) {first : Bool}
    {name : String} {value : Bytes} {members : List (String × Bytes)} {body : Bytes}
    (written : WritesMembers first ((name, value) :: members) body) (state : σ) (rest : Bytes) :
    ∃ colon space body', Gap colon ∧ Gap space ∧ WritesMembers false members body' ∧
      loopMembers step origin first state (body ++ 0x7D :: rest) =
        (step state name >>= otherMembers step).run origin
          (colon ++ 0x3A :: (space ++ (value ++ (body' ++ 0x7D :: rest)))) := by
  cases written with
  | first blank literal blankColon blankSpace more =>
    refine ⟨_, _, _, blankColon, blankSpace, more, ?_⟩
    simp only [List.append_assoc, List.cons_append]
    rw [loopMembers_of_round (run_moreMembers_literal literal blank _), run_bind, run_bind,
      run_key_literal origin literal, run_bind]
  | next blankBefore blankAfter literal blankColon blankSpace more =>
    refine ⟨_, _, _, blankColon, blankSpace, more, ?_⟩
    simp only [List.append_assoc, List.cons_append]
    rw [loopMembers_of_round (run_moreMembers_next_literal literal blankBefore blankAfter _),
      run_bind, run_bind, run_key_literal origin literal, run_bind]

/-- A loop goes over the members in front and then over the others.  Each member in front is one
round of the loop. -/
theorem loopMembers_front {step : σ → String → Decoder σ} {state between : σ}
    {front back : List (String × Bytes)} (walks : Walks (PassesMember origin step) state front between)
    {first : Bool} {body : Bytes} (written : WritesMembers first (front ++ back) body)
    (rest : Bytes) :
    ∃ body', WritesMembers (first && front.isEmpty) back body' ∧
      loopMembers step origin first state (body ++ 0x7D :: rest) =
        loopMembers step origin (first && front.isEmpty) between (body' ++ 0x7D :: rest) := by
  induction walks generalizing first body with
  | nil => exact ⟨body, by simpa using written, by simp⟩
  | cons round walks ih =>
    obtain ⟨colon, space, body', blankColon, blankSpace, more, loop⟩ :=
      exists_round origin step written _ rest
    obtain ⟨last, written', loop'⟩ := ih more
    refine ⟨last, by simpa using written', ?_⟩
    rw [loop, run_bind, round blankColon blankSpace (closes_of_writesMembers more rest)]
    simpa [otherMembers] using loop'

/-- A loop reads all members of an object, if one round reads one member. -/
theorem run_loopMembers_written {step : σ → String → Decoder σ} {state final : σ}
    {members : List (String × Bytes)}
    (walks : Walks (PassesMember origin step) state members final) {body : Bytes}
    (written : WritesMembers true members body) (rest : Bytes) :
    loopMembers step origin true state (body ++ 0x7D :: rest) = .done final (0x7D :: rest) := by
  rw [← List.append_nil members] at written
  obtain ⟨gap, nothing, loop⟩ := loopMembers_front walks written rest
  rw [loop]
  generalize (true && members.isEmpty) = first at nothing
  cases nothing with
  | nil _ blank => exact loopMembers_of_closed (run_moreMembers_closed _ blank rest)

/-- A loop stops at the first member whose round fails. -/
theorem loopMembers_stops_written {step : σ → String → Decoder σ} {state between : σ}
    {front back : List (String × Bytes)} {name : String} {value : Bytes}
    (walks : Walks (PassesMember origin step) state front between)
    (stops : ∀ ⦃colon space rest : Bytes⦄, Gap colon → Gap space →
      (step between name).Stops origin (colon ++ 0x3A :: (space ++ (value ++ rest))))
    {body : Bytes} (written : WritesMembers true (front ++ (name, value) :: back) body)
    (rest : Bytes) :
    ∃ fault left, loopMembers step origin true state (body ++ 0x7D :: rest) =
      .failed fault left := by
  obtain ⟨body', written', loop⟩ := loopMembers_front walks written rest
  obtain ⟨colon, space, body'', blankColon, blankSpace, -, loop'⟩ :=
    exists_round origin step written' between rest
  rw [loop, loop']
  exact Stops.bind (stops blankColon blankSpace) _

end Decoder

/-! ## Readers -/

/-- A reader makes `a` of a text, whatever is around it, if values may be nested so deep. -/
def ReadsText (read : Item → Decoder α) (depth : Nat) (text : Bytes) (a : α) : Prop :=
  ∀ ⦃origin : Origin⦄, origin.Whole → ∀ ⦃levels : Nat⦄, depth ≤ levels →
    ∀ ⦃gap rest : Bytes⦄, Gap gap → Closes rest →
      (read (.next levels)).run origin (gap ++ (text ++ rest)) = .done a rest

/-- A reader makes `a` of all texts of one kind. -/
def ReadsForms (read : Item → Decoder α) (depth : Nat) (forms : Bytes → Prop) (a : α) : Prop :=
  ∀ ⦃text : Bytes⦄, forms text → ReadsText read depth text a

/-- The texts of what may be there or not: `null` stands for nothing. -/
def OptionForm (forms : α → Bytes → Prop) : Option α → Bytes → Prop
  | none, text => text = Bytes.ofText "null"
  | some a, text => forms a text

theorem ReadsForms.mono {read : Item → Decoder α} {depth depth' : Nat} {forms : Bytes → Prop}
    {a : α} (h : ReadsForms read depth forms a) (deeper : depth ≤ depth') :
    ReadsForms read depth' forms a :=
  fun _ form _ whole _ enough => h form whole (Nat.le_trans deeper enough)

theorem ReadsForms.map {read : Item → Decoder α} {depth : Nat} {forms : Bytes → Prop} {a : α}
    (h : ReadsForms read depth forms a) (f : α → β) :
    ReadsForms (fun item => return f (← read item)) depth forms (f a) := by
  intro text form origin whole levels enough gap rest blank closes
  simp only [run_bind, h form whole enough blank closes, run_pure]

theorem readsForms_text (expected s : String) :
    ReadsForms (Item.text expected) 0 (Literal s) s := by
  intro text literal origin _ levels _ gap rest blank _
  obtain ⟨inner, rfl, denotes⟩ := literal
  have read : head.run origin (gap ++ 0x22 :: (inner ++ 0x22 :: rest)) =
      .done (.text s) rest := by
    have text := run_key_literal origin ⟨inner, rfl, denotes⟩ rest
    rw [head, run_bind, run_token_cons blank rfl]
    simp +decide only [reduceIte]
    simp only [List.cons_append, List.append_assoc, List.nil_append, Decoder.key, run_bind,
      run_advance, List.tail_cons] at text ⊢
    rw [text]
    rfl
  apply run_placed
  simp only [List.cons_append, List.append_assoc, List.nil_append, run_bind, read]
  rfl

/-- A value of any kind that is no text. -/
def NoText (value : Bytes) : Prop := WellFormed value ∧ value.head? ≠ some 0x22

/-- The first look at a value that does not begin with a quote does not find a text. -/
theorem Decoder.ne_text_of_head {origin : Origin} {gap : Bytes} {b : UInt8} (blank : Gap gap)
    (solid : isBlank b = false) (noQuote : b ≠ 0x22) {tail rest : Bytes} {found : Head}
    (run : head.run origin (gap ++ b :: tail) = .done found rest) (s : String) :
    found ≠ .text s := by
  rintro rfl
  rw [head, run_bind, run_token_cons blank solid] at run
  simp only [if_neg noQuote] at run
  split_ifs at run with hn ht hf minus digit list object
  all_goals try cases run
  · simp only [run_bind, run_advance] at run
    split at run <;> cases run
  · simp only [run_bind, run_advance] at run
    split at run <;> cases run
  · simp only [run_bind, run_advance] at run
    split at run <;> cases run
  · simp only [run_bind, run_advance] at run
    split at run <;> cases run
  · simp only [run_bind] at run
    split at run <;> cases run

/-- The reader for texts stops at a value of another kind. -/
theorem stops_text {value : Bytes} (noText : NoText value) (expected : String) {origin : Origin}
    (levels : Nat) {gap : Bytes} (blank : Gap gap) (rest : Bytes) :
    (Item.text expected (.next levels)).Stops origin (gap ++ (value ++ rest)) := by
  obtain ⟨b, tail, rfl, solid, -⟩ := exists_cons_of_wellFormed noText.1
  have noQuote : b ≠ 0x22 := fun same => noText.2 (congrArg some same)
  apply Stops.placed
  rw [List.cons_append]
  cases run : head.run origin (gap ++ b :: (tail ++ rest)) with
  | failed fault left => exact Stops.bind ⟨fault, left, run⟩ _
  | done found left =>
    apply Stops.of_bind run
    have other := ne_text_of_head blank solid noQuote run
    cases found with
    | text s => exact absurd rfl (other s)
    | _ => exact stops_unfit _ origin left

/-- A document whose delivery fails is no value, however far it has come. -/
theorem Decoder.decode_broken (d : Decoder α) (message : String) (text : Bytes) :
    ∃ error, d.decode (.broken message) text = .error error := by
  have fails : d.document.Stops (.broken message) text := by
    cases run : d.run (.broken message) text with
    | failed fault left => exact Stops.bind ⟨fault, left, run⟩ _
    | done a rest =>
      apply Stops.of_bind run
      cases ending : rest.dropWhile isBlank with
      | nil =>
        refine Stops.bind ⟨.unreadable message, [], ?_⟩ _
        rw [run_token, ending]
        rfl
      | cons b tail =>
        have found : token.run (.broken message) rest = .done (some b) (b :: tail) := by
          rw [run_token, ending]
          rfl
        exact Stops.of_bind found ⟨_, _, rfl⟩
  exact fails.decode

/-- A text may be there or not, if it does not begin as `null` does. -/
theorem ReadsForms.option {read : Item → Decoder α} {depth : Nat} {forms : α → Bytes → Prop}
    (h : ∀ a, ReadsForms read depth (forms a) a)
    (begins : ∀ a text, forms a text → ∃ b tail, text = b :: tail ∧ isBlank b = false ∧ b ≠ 0x6E)
    (a : Option α) : ReadsForms (Item.option read) depth (OptionForm forms a) a := by
  intro text form origin whole levels enough gap rest blank closes
  cases a with
  | none =>
    have written : text = 0x6E :: [0x75, 0x6C, 0x6C] := form.trans (by decide)
    rw [written, List.cons_append, Item.option, run_bind, run_token_cons blank rfl]
    simp only [if_true, run_bind, run_advance, List.tail_cons, run_word, run_pure]
  | some a =>
    have read := h a form whole enough .nil closes
    obtain ⟨b, tail, rfl, solid, notNull⟩ := begins a text form
    rw [List.cons_append] at read ⊢
    rw [Item.option, run_bind, run_token_cons blank solid]
    simp only [Option.some.injEq, if_neg notNull, run_bind]
    rw [← List.nil_append (b :: _), read]
    rfl

/-- A document is decoded from any of its forms, with gaps at both ends. -/
theorem ReadsForms.decode {read : Item → Decoder α} {depth : Nat} {forms : Bytes → Prop} {a : α}
    (h : ReadsForms read depth forms a) (shallow : depth ≤ maxLevels) {text : Bytes}
    (form : forms text) {before after : Bytes} (blankBefore : Gap before) (blankAfter : Gap after)
    {origin : Origin} (whole : origin.Whole) :
    Json.decode read origin (before ++ (text ++ after)) = .ok a := by
  have read := h form whole shallow blankBefore (.of_gap blankAfter)
  simp [Json.decode, Decoder.decode, document, read, run_token_nil whole blankAfter]

/-! ## Objects -/

/-- A place for a member of an object. -/
structure Place where
  /-- The key of the member. -/
  name : String
  /-- The texts that may stand for its value. -/
  forms : Bytes → Prop
  /-- Whether the member may be left out. -/
  mayLack : Prop

/-- A member may stand in an object: it has a place there and one of the forms for it, or its name
is unknown and its value is of any kind. -/
def Admits (places : List Place) (member : String × Bytes) : Prop :=
  (∃ place ∈ places, place.name = member.1 ∧ place.forms member.2) ∨
    (∀ place ∈ places, place.name ≠ member.1) ∧ WellFormed member.2

/-- The text is an object with a member for every place, in any order: a member may be missing where
its place allows it, none is there twice, and unknown ones may stand anywhere. -/
def ObjectForm (places : List Place) (text : Bytes) : Prop :=
  ∃ members body, text = 0x7B :: (body ++ [0x7D]) ∧ WritesMembers true members body ∧
    (∀ member ∈ members, Admits places member) ∧
    (∀ place ∈ places, (members.map Prod.fst).count place.name ≤ 1) ∧
    ∀ place ∈ places, place.name ∈ members.map Prod.fst ∨ place.mayLack

/-- The text is an object with a member of the given name and value, and what comes before that
member may stand there. -/
def ObjectWith (places : List Place) (name : String) (value text : Bytes) : Prop :=
  ∃ front back body, text = 0x7B :: (body ++ [0x7D]) ∧
    WritesMembers true (front ++ (name, value) :: back) body ∧
    (∀ member ∈ front, Admits places member) ∧
    (∀ place ∈ places, (front.map Prod.fst).count place.name ≤ 1) ∧ name ∉ front.map Prod.fst

theorem ObjectForm.begins {places : List Place} {text : Bytes} (form : ObjectForm places text) :
    ∃ b tail, text = b :: tail ∧ isBlank b = false ∧ b ≠ 0x6E := by
  obtain ⟨members, body, rfl, -⟩ := form
  exact ⟨_, _, rfl, rfl, by decide⟩

theorem Literal.begins {s : String} {text : Bytes} (literal : Literal s text) :
    ∃ b tail, text = b :: tail ∧ isBlank b = false ∧ b ≠ 0x6E := by
  obtain ⟨inner, rfl, -⟩ := literal
  exact ⟨_, _, rfl, rfl, by decide⟩

/-! ## Objects that are written here -/

/-- The members that are written for some places; where there is no value, nothing is written. -/
def Place.members (entries : List (Place × Option Value)) : List (String × Value) :=
  entries.filterMap fun entry => entry.2.map fun v => (entry.1.name, v)

/-- What is written for a place, `depth` brackets deep, has one of its forms, and nothing is written
only where the member may be left out. -/
def Place.Suits (depth : Nat) : Place × Option Value → Prop
  | (place, some v) => place.forms (v.prettyAt depth)
  | (place, none) => place.mayLack

theorem Place.names_sublist (entries : List (Place × Option Value)) :
    ((members entries).map Prod.fst).Sublist (entries.map fun entry => entry.1.name) := by
  induction entries with
  | nil => exact .slnil
  | cons entry entries ih =>
    obtain ⟨place, _ | v⟩ := entry
    · exact ih.cons _
    · exact ih.cons_cons _

theorem gap_newLine (depth : Nat) : Gap (Value.newLine depth) := by
  intro b member
  rcases List.mem_cons.mp member with rfl | member
  · rfl
  · rw [List.eq_of_mem_replicate member]
    rfl

theorem writesMembers_pretty (depth : Nat) {gap : Bytes} (blank : Gap gap) (first : Bool)
    (members : List (String × Value)) :
    WritesMembers first (members.map fun member => (member.1, member.2.prettyAt depth))
      (Value.prettyMembers depth first members ++ gap) := by
  have space : Gap [0x20] := by
    intro b member
    rw [List.mem_singleton.mp member]
    rfl
  induction members generalizing first with
  | nil =>
    rw [Value.prettyMembers]
    exact .nil first blank
  | cons member members ih =>
    obtain ⟨name, v⟩ := member
    rw [Value.prettyMembers]
    cases first with
    | true =>
      have written : WritesMembers true ((name, v.prettyAt depth) :: _) _ :=
        .first (gap_newLine depth) (literal_quoted name) .nil space (ih false)
      simpa using written
    | false =>
      have written : WritesMembers false ((name, v.prettyAt depth) :: _) _ :=
        .next .nil (gap_newLine depth) (literal_quoted name) .nil space (ih false)
      simpa using written

/-- An object that is written with a line for every member is a form of it, if what is written for
every place suits it. -/
theorem objectForm_pretty (depth : Nat) (entries : List (Place × Option Value))
    (distinct : (entries.map fun entry => entry.1.name).Nodup)
    (suits : ∀ entry ∈ entries, Place.Suits (depth + 1) entry) :
    ObjectForm (entries.map Prod.fst) ((Value.object (Place.members entries)).prettyAt depth) := by
  have keys : ((Place.members entries).map fun member =>
      (member.1, member.2.prettyAt (depth + 1))).map Prod.fst =
        (Place.members entries).map Prod.fst := by
    rw [List.map_map]
    rfl
  have form {body : Bytes} (written : WritesMembers true ((Place.members entries).map fun member =>
      (member.1, member.2.prettyAt (depth + 1))) body) :
      ObjectForm (entries.map Prod.fst) (0x7B :: (body ++ [0x7D])) := by
    refine ⟨_, body, rfl, written, ?_, ?_, ?_⟩
    · intro member written
      obtain ⟨⟨_, v⟩, inside, rfl⟩ := List.mem_map.mp written
      obtain ⟨⟨place, _ | v⟩, inside', same⟩ := List.mem_filterMap.mp inside
      · exact absurd same (by simp)
      · obtain ⟨rfl, rfl⟩ : place.name = _ ∧ v = _ := by simpa using same
        exact .inl ⟨place, List.mem_map_of_mem inside', rfl, suits _ inside'⟩
    · intro place _
      rw [keys]
      exact List.nodup_iff_count_le_one.mp (distinct.sublist (Place.names_sublist entries)) _
    · intro place inside
      obtain ⟨⟨other, _ | v⟩, inside', rfl⟩ := List.mem_map.mp inside
      · exact .inr (suits _ inside')
      · rw [keys]
        refine .inl (List.mem_map.mpr ⟨(other.name, v), ?_, rfl⟩)
        exact List.mem_filterMap.mpr ⟨_, inside', rfl⟩
  cases written : Place.members entries with
  | nil =>
    have nothing : WritesMembers true ((Place.members entries).map fun member =>
        (member.1, member.2.prettyAt (depth + 1))) [] := by
      rw [written]
      exact .nil true .nil
    rw [Value.prettyAt]
    exact form nothing
  | cons member members =>
    rw [Value.prettyAt, ← List.append_assoc]
    apply form
    rw [written]
    exact writesMembers_pretty (depth + 1) (gap_newLine depth) true _

/-! ## Records -/

/-- A record collects the members of an object: `draft` is what it has behind the members with the
given names, the last one first. -/
structure Collects (r : Record σ α) (depth : Nat) (places : List Place) (draft : List String → σ)
    (a : α) : Prop where
  /-- Nothing is there before the first member. -/
  empty : draft [] = r.empty
  /-- A member that has a place is read from any of its forms. -/
  known : ∀ place ∈ places, ∀ names, place.name ∉ names → ∃ read,
    r.step (draft names) place.name = .ok read ∧
      ReadsForms read depth place.forms (draft (place.name :: names))
  /-- The record knows no other member. -/
  fields : r.fields.map Field.name = places.map Place.name
  /-- Another member changes nothing. -/
  unknown : ∀ name, (∀ place ∈ places, place.name ≠ name) → ∀ names,
    draft (name :: names) = draft names
  /-- What is missing may be missing. -/
  complete : ∀ names, (∀ place ∈ places, place.name ∈ names ∨ place.mayLack) →
    r.finish missing (draft names) = .ok a

/-- What a draft has of a member behind the members with the given names. -/
def seen (name : String) (a : α) (names : List String) : Option α :=
  if name ∈ names then some a else none

theorem seen_eq_none {name : String} {names : List String} (a : α) (unseen : name ∉ names) :
    seen name a names = none := if_neg unseen

@[simp] theorem seen_cons_self (name : String) (a : α) (names : List String) :
    seen name a (name :: names) = some a := if_pos List.mem_cons_self

theorem getD_seen {name : String} {a fallback : α} {names : List String}
    (h : name ∈ names ∨ a = fallback) : (seen name a names).getD fallback = a := by
  unfold seen
  split
  · rfl
  · rcases h with member | rfl
    · contradiction
    · rfl

theorem join_seen {name : String} {a : Option α} {names : List String}
    (h : name ∈ names ∨ a = none) : (seen name a names).join = a := by
  unfold seen
  split
  · rfl
  · rcases h with member | rfl
    · contradiction
    · rfl

theorem required_seen {name : String} {names : List String} (h : name ∈ names) (a : α)
    (complain : String → String) : required complain name (seen name a names) = .ok a := by
  rw [seen, if_pos h]
  rfl

/-- A member of a draft is read where it is not there yet. -/
theorem Record.step_field {r : Record σ α} {name : String} {get : σ → Option β} {set : σ → β → σ}
    {read : Item → Decoder β} {depth : Nat} {forms : Bytes → Prop} {b : β}
    (field : r.fields.find? (·.name == name) = some (.of name get set read))
    (reads : ReadsForms read depth forms b) {draft draft' : σ} (free : get draft = none)
    (next : set draft b = draft') : ∃ read', r.step draft name = .ok read' ∧
      ReadsForms read' depth forms draft' := by
  refine ⟨fun item => return set draft (← read item), ?_, next ▸ reads.map (set draft)⟩
  simp [Record.step, field, Field.of, free]

namespace Collects

variable {r : Record σ α} {depth : Nat} {places : List Place} {draft : List String → σ} {a : α}
  {origin : Origin} {levels : Nat}

/-- What a record does about the next member of a document. -/
abbrev round (r : Record σ α) (levels : Nat) (state : σ) (key : String) : Decoder σ := do
  let read ← ofExcept (r.step state key)
  colon
  read (.next levels)

theorem step_unknown (collects : Collects r depth places draft a) {name : String}
    (unknown : ∀ place ∈ places, place.name ≠ name) (state : σ) :
    r.step state name = .ok (fun item => do item.skip; pure state) := by
  have absent : r.fields.find? (·.name == name) = none := by
    rw [List.find?_eq_none]
    intro field member
    have named : field.name ∈ places.map Place.name :=
      collects.fields ▸ List.mem_map_of_mem member
    obtain ⟨place, inside, same⟩ := List.mem_map.mp named
    simpa [← same] using unknown place inside
  simp only [Record.step, absent]

theorem passes (collects : Collects r depth places draft a) (whole : origin.Whole)
    (enough : depth ≤ levels) {name : String} {value : Bytes} (admitted : Admits places (name, value))
    {names : List String} (new : name ∈ places.map Place.name → name ∉ names) :
    PassesMember origin (round r levels) (draft names) name value (draft (name :: names)) := by
  intro colon space rest blankColon blankSpace closes
  rcases admitted with ⟨place, member, rfl, form⟩ | ⟨unknown, value⟩
  · obtain ⟨read, allowed, reads⟩ :=
      collects.known place member names (new (List.mem_map_of_mem member))
    simp [round, allowed, run_colon blankColon, reads form whole enough blankSpace closes]
  · rw [collects.unknown name unknown]
    simp [round, collects.step_unknown unknown, run_colon blankColon, Item.skip,
      run_skip whole value blankSpace closes, Outcome.map]

/-- A walk over members that may stand there, none of them twice.  Behind the first member its name
is no longer new. -/
theorem walks (collects : Collects r depth places draft a) (whole : origin.Whole)
    (enough : depth ≤ levels) {members : List (String × Bytes)}
    (admitted : ∀ member ∈ members, Admits places member)
    {names : List String}
    (once : ∀ place ∈ places, (members.map Prod.fst).count place.name ≤ 1)
    (new : ∀ place ∈ places, place.name ∈ members.map Prod.fst → place.name ∉ names) :
    Walks (PassesMember origin (round r levels)) (draft names) members
      (draft ((members.map Prod.fst).reverse ++ names)) := by
  induction members generalizing names with
  | nil => exact .nil _
  | cons member members ih =>
    obtain ⟨name, value⟩ := member
    have first : name ∈ places.map Place.name → name ∉ names := by
      intro known
      obtain ⟨place, inside, rfl⟩ := List.mem_map.mp known
      exact new place inside List.mem_cons_self
    have once' : ∀ place ∈ places, (members.map Prod.fst).count place.name ≤ 1 := by
      intro place inside
      exact Nat.le_trans List.count_le_count_cons (once place inside)
    have new' : ∀ place ∈ places, place.name ∈ members.map Prod.fst →
        place.name ∉ name :: names := by
      intro place inside later
      have unseen := new place inside (List.mem_cons_of_mem _ later)
      have other : place.name ≠ name := by
        rintro rfl
        have twice := once place inside
        rw [List.map_cons, List.count_cons_self] at twice
        have := List.count_pos_iff.mpr later
        omega
      simp [unseen, other]
    have tail := ih (fun member inside => admitted member (List.mem_cons_of_mem _ inside)) once' new'
    rw [List.map_cons, List.reverse_cons, List.append_assoc, List.singleton_append]
    exact .cons (collects.passes whole enough (admitted _ List.mem_cons_self) first) tail

theorem walks_all (collects : Collects r depth places draft a) (whole : origin.Whole)
    (enough : depth ≤ levels) {members : List (String × Bytes)}
    (admitted : ∀ member ∈ members, Admits places member)
    (once : ∀ place ∈ places, (members.map Prod.fst).count place.name ≤ 1) :
    Walks (PassesMember origin (round r levels)) r.empty members
      (draft (members.map Prod.fst).reverse) := by
  have walks := collects.walks whole enough admitted once fun _ _ _ => List.not_mem_nil
  rwa [List.append_nil, collects.empty] at walks

/-- A record is read from any of its forms. -/
theorem readsForms (collects : Collects r depth places draft a) :
    ReadsForms r.read (depth + 1) (ObjectForm places) a := by
  rintro _ ⟨members, body, rfl, written, admitted, once, present⟩
  intro origin whole levels enough gap rest blank closes
  obtain ⟨levels, rfl⟩ : ∃ inner, levels = inner + 1 := ⟨levels - 1, by omega⟩
  have walks := collects.walks_all whole (Nat.le_of_succ_le_succ enough) admitted once
  have complete := collects.complete (members.map Prod.fst).reverse <| by
    intro place inside
    rw [List.mem_reverse]
    exact present place inside
  have read : (Item.readMembers r.step r.empty levels).run origin (body ++ 0x7D :: rest) =
      .done (draft (members.map Prod.fst).reverse) (0x7D :: rest) :=
    run_loopMembers_written walks written rest
  have inner : (do ofExcept (r.finish missing (← Item.readMembers r.step r.empty levels)) :
      Decoder α).run origin (body ++ 0x7D :: rest) = .done a (0x7D :: rest) := by
    rw [run_bind, read]
    simp [complete]
  simp only [List.cons_append, List.append_assoc, List.nil_append,
    r.byMembers.next _ _ _ blank]
  simp [inside, run_enclosed inner (run_endObject rest), Outcome.placed]

/-- A record stops at a member that it knows and can not read. -/
theorem stops (collects : Collects r depth places draft a) (whole : origin.Whole) (levels : Nat)
    (enough : depth ≤ levels) {name : String} {value text : Bytes}
    (holds : ObjectWith places name value text) {get : σ → Option β} {set : σ → β → σ}
    {read : Item → Decoder β}
    (field : r.fields.find? (·.name == name) = some (.of name get set read))
    (free : ∀ names, name ∉ names → get (draft names) = none)
    (refused : ∀ ⦃gap rest : Bytes⦄, Gap gap →
      (read (.next levels)).Stops origin (gap ++ (value ++ rest)))
    {gap : Bytes} (blank : Gap gap) (rest : Bytes) :
    (r.read (.next (levels + 1))).Stops origin (gap ++ (text ++ rest)) := by
  obtain ⟨front, back, body, rfl, written, admitted, once, new⟩ := holds
  have walks := collects.walks_all whole enough admitted once
  have unset := free (front.map Prod.fst).reverse (by rwa [List.mem_reverse])
  have stops : (Item.readMembers r.step r.empty levels).Stops origin (body ++ 0x7D :: rest) := by
    refine loopMembers_stops_written walks ?_ written rest
    intro colon space rest blankColon blankSpace
    have known : r.step (draft (front.map Prod.fst).reverse) name = .ok fun item =>
        return set (draft (front.map Prod.fst).reverse) (← read item) := by
      simp [Record.step, field, Field.of, unset]
    simp only [round, known]
    apply Stops.of_bind (run_ofExcept_ok _ origin _)
    apply Stops.of_bind (run_colon blankColon _)
    exact (refused blankSpace).bind _
  simp only [List.cons_append, List.append_assoc, List.nil_append, Stops,
    r.byMembers.next _ _ _ blank]
  exact (Stops.of_bind (run_advance origin _) ((stops.bind _).enclosed endObject)).placed

end Collects

end RemoteSigner.Json
