import RemoteSigner.Proofs.Json.Deliveries

/-!
# Records of documents that break off

A record is read promptly if its members are, and a member that nobody asked for is passed promptly.
So where a record is decoded from a document that breaks off, the failure of the delivery is
reported unless the octets that have come are the beginning of no document with such a record.

## Main definitions

* `PromptReader`, `Field.Prompt`: a reader of the next value that is prompt, and a member with such
  a reader

## Main results

* `Decoder.prompt_foldMembers`: loops over members
* `Decoder.prompt_skip`: values that are passed over
* `Record.promptReader`: records whose members are read promptly
* `Decoder.Prompt.decode`: decoding a document that breaks off
-/

namespace RemoteSigner.Json

variable {α β σ : Type}

namespace Decoder

/-! ## Parts of values -/

theorem prompt_head : head.Prompt := by
  rw [head]
  refine prompt_token fun b rest => ?_
  dsimp only
  split_ifs
  iterate 3 exact prompt_advance ((prompt_word _).bind (fun _ => prompt_pure _) rest)
  · exact prompt_advance ((prompt_number _).bind (fun _ => prompt_pure _) rest)
  · exact (prompt_number _).bind (fun _ => prompt_pure _) _
  · exact prompt_advance (prompt_text.bind (fun _ => prompt_pure _) rest)
  · exact prompt_pure _ _
  · exact prompt_pure _ _
  · exact prompt_ahead _ _

/-- What gives a value behind the blanks has seen an octet there, if it gives none without. -/
theorem of_token_bind {next : Option UInt8 → Decoder α} {origin : Origin} {text rest : Bytes}
    {value : α} (stops : ∀ origin text value rest, (next none).run origin text ≠ .done value rest)
    (run : (token >>= next).run origin text = .done value rest) :
    ∃ b tail, (next (some b)).run origin (b :: tail) = .done value rest := by
  rw [run_bind] at run
  split at run
  · next found middle seen =>
    cases found with
    | none => exact absurd run (stops _ _ _ _)
    | some b =>
      obtain ⟨tail, rfl⟩ := ahead_of_token seen
      exact ⟨b, tail, run⟩
  · cases run

/-- A list or an object stays where it is.  What has no parts is read whole, and of what has parts
the bracket is only looked at. -/
theorem ahead_of_head {origin : Origin} {text rest : Bytes} {value : Head}
    (parts : value = .list ∨ value = .object) (run : head.run origin text = .done value rest) :
    ∃ b tail, rest = b :: tail := by
  have whole {γ : Type} {d : Decoder γ} {f : γ → Head} {octets : Bytes}
      (run : (d >>= fun a => pure (f a)).run origin octets = .done value rest)
      (other : ∀ a, f a ≠ .list ∧ f a ≠ .object) : False := by
    rw [run_bind] at run
    split at run <;> cases run
    exact parts.elim (other _).1 (other _).2
  obtain ⟨b, tail, run⟩ := of_token_bind (by intro _ _ _ _ done; cases done) run
  dsimp only at run
  split_ifs at run
  iterate 3
    · change (word _ >>= _).run origin tail = _ at run
      exact (whole run (by simp)).elim
  · change (number false >>= _).run origin tail = _ at run
    exact (whole run (by simp)).elim
  · exact (whole run (by simp)).elim
  · change (Decoder.text >>= _).run origin tail = _ at run
    exact (whole run (by simp)).elim
  · cases run
    exact ⟨b, tail, rfl⟩
  · cases run
    exact ⟨b, tail, rfl⟩
  · cases run

theorem prompt_colon : colon.Prompt := by
  rw [colon]
  refine prompt_token fun b rest => ?_
  dsimp only
  split
  · exact prompt_advance (prompt_pure () rest)
  · exact prompt_ahead _ _

theorem prompt_endList : endList.Prompt := by
  rw [endList]
  refine prompt_token fun b rest => ?_
  dsimp only
  split_ifs
  · exact prompt_advance (prompt_pure () rest)
  · refine prompt_advance (prompt_token (fun c rest => ?_) rest)
    split <;> exact prompt_ahead _ _
  · exact prompt_ahead _ _

theorem prompt_endObject : endObject.Prompt := by
  rw [endObject]
  refine prompt_token fun b rest => ?_
  dsimp only
  split_ifs
  · exact prompt_advance (prompt_pure () rest)
  · exact prompt_ahead _ _
  · exact prompt_ahead _ _

theorem prompt_moreItems (first : Bool) : (moreItems first).Prompt := by
  rw [moreItems]
  refine prompt_token fun b rest => ?_
  dsimp only
  split_ifs
  · exact prompt_pure _ _
  · exact prompt_pure _ _
  · refine prompt_advance (prompt_token (fun c rest => ?_) rest)
    dsimp only
    split
    · exact prompt_ahead _ _
    · exact prompt_pure _ _
  · exact prompt_ahead _ _

theorem prompt_moreMembers (first : Bool) : (moreMembers first).Prompt := by
  rw [moreMembers]
  refine prompt_token fun b rest => ?_
  dsimp only
  split_ifs
  · exact prompt_pure _ _
  · exact prompt_pure _ _
  · exact prompt_ahead _ _
  · refine prompt_advance (prompt_token (fun c rest => ?_) rest)
    dsimp only
    split_ifs
    · exact prompt_pure _ _
    · exact prompt_ahead _ _
    · exact prompt_ahead _ _
  · exact prompt_ahead _ _

/-! ## Members -/

/-- Where another member comes, the octet with which its key begins is ahead. -/
theorem ahead_of_anotherMember {origin : Origin} {text rest : Bytes}
    (more : anotherMember.run origin text = .done true rest) : ∃ b tail, rest = b :: tail := by
  obtain ⟨b, tail, more⟩ := of_token_bind (by intro _ _ _ _ done; cases done) more
  dsimp only at more
  split_ifs at more <;> cases more
  exact ⟨b, tail, rfl⟩

theorem ahead_of_moreMembers {first : Bool} {origin : Origin} {text rest : Bytes}
    (more : (moreMembers first).run origin text = .done true rest) :
    ∃ b tail, rest = b :: tail := by
  obtain ⟨b, tail, more⟩ := of_token_bind (by intro _ _ _ _ done; cases done) more
  dsimp only at more
  split_ifs at more
  · cases more
  · cases more
    exact ⟨b, tail, rfl⟩
  · cases more
  · exact ahead_of_anotherMember more
  · cases more

/-- A loop over members is one round behind the other. -/
theorem loopMembers_eq (step : σ → String → Decoder σ) (origin : Origin) (first : Bool) (state : σ)
    (text : Bytes) : loopMembers step origin first state text =
      (moreMembers first >>= fun goesOn =>
        if goesOn then (key >>= step state) >>= otherMembers step else pure state).run
          origin text := by
  rw [run_bind]
  rcases more : (moreMembers first).run origin text with ⟨_ | _, rest⟩ | ⟨fault, rest⟩
  · exact loopMembers_of_closed more
  · exact loopMembers_of_round more
  · rw [loopMembers]
    split <;> simp_all

variable {step : σ → String → Decoder σ}

/-- One round of a loop is prompt if the rounds behind it are. -/
theorem promptAt_round (prompt : ∀ state name, (step state name).Prompt) (first : Bool) (state : σ)
    {text : Bytes}
    (others : ∀ message state middle rest,
      (moreMembers first).run (.broken message) text = .done true middle →
        rest.length ≤ middle.length → (otherMembers step state).PromptAt rest) :
    (moreMembers first >>= fun goesOn =>
      if goesOn then (key >>= step state) >>= otherMembers step else pure state).PromptAt text := by
  refine (prompt_moreMembers first text).bind_of_run fun message goesOn middle more => ?_
  cases goesOn with
  | false => exact prompt_pure _ _
  | true =>
    obtain ⟨b, tail, rfl⟩ := ahead_of_moreMembers more
    have reads : (key >>= step state).PromptAt (b :: tail) := by
      rw [key, bind_assoc]
      exact prompt_advance (prompt_text.bind (prompt state) tail)
    exact reads.bind_of_run fun _ state' rest run =>
      others message state' _ rest more ((key >>= step state).shortens run)

/-- Other members are read promptly; each of them leaves fewer octets, as a separator is in front of
it. -/
theorem prompt_otherMembers (prompt : ∀ state name, (step state name).Prompt) (state : σ) :
    (otherMembers step state).Prompt := by
  intro text
  induction size : text.length using Nat.strongRecOn generalizing state text with
  | _ size ih =>
    intro message more
    change (loopMembers _ _ _ _ _).Agrees message more (loopMembers _ _ _ _ _)
    rw [loopMembers_eq, loopMembers_eq]
    refine promptAt_round prompt false state (fun _ _ middle rest goesOn le => ?_) message more
    have shorter : rest.length < text.length :=
      Nat.lt_of_le_of_lt le (length_lt_of_moreMembers goesOn)
    exact ih _ (size ▸ shorter) _ _ rfl

theorem prompt_foldMembers (prompt : ∀ state name, (step state name).Prompt) (state : σ) :
    (foldMembers step state).Prompt := by
  intro text message more
  change (loopMembers _ _ _ _ _).Agrees message more (loopMembers _ _ _ _ _)
  rw [loopMembers_eq, loopMembers_eq]
  exact promptAt_round prompt true state
    (fun _ state _ rest _ _ => prompt_otherMembers prompt state rest) message more

/-! ## Values that nobody asked for -/

theorem prompt_skipEscape : skipEscape.Prompt := by
  rw [skipEscape]
  refine prompt_nextInText.bind fun b => ?_
  split_ifs
  · exact prompt_fourDigits.bind fun _ => prompt_pure _
  · exact prompt_pure _
  · exact prompt_behind _

theorem passText_backslash (origin : Origin) (rest : Bytes) :
    passText origin (0x5C :: rest) = (skipEscape >>= fun _ => skipText).run origin rest := by
  rw [passText, if_neg (by decide), if_pos rfl, run_bind]
  split <;> simp_all [skipText]

theorem prompt_skipText : skipText.Prompt := by
  intro text
  induction size : text.length using Nat.strongRecOn generalizing text with
  | _ size ih =>
    intro message more
    change (passText _ _).Agrees message more (passText _ _)
    cases text with
    | nil =>
      rw [passText]
      exact .cut _ _
    | cons b rest =>
      rw [List.cons_append]
      by_cases backslash : b = 0x5C
      · rw [backslash, passText_backslash, passText_backslash]
        refine (prompt_skipEscape rest).bind_of_run (fun _ _ left run => ?_) message more
        exact ih _ (size ▸ Nat.lt_succ_of_le (skipEscape.shortens run)) _ rfl
      rw [passText, passText, if_neg backslash, if_neg backslash]
      split
      · exact .done _ _
      split
      · exact .failed _ _ _ _
      · exact ih _ (Nat.lt_of_lt_of_eq (Nat.lt_succ_self _) size) _ rfl message more

theorem prompt_skipExponent : skipExponent.Prompt := by
  rw [skipExponent]
  refine prompt_peek fun sign rest => ?_
  extract_lets behindSign
  have prompt : (behindSign ()).Prompt := by
    refine prompt_next fun b => ?_
    split
    · refine (greedy_takeWhile _).bind (fun _ => wants_peek.bind) fun _ => ?_
      exact prompt_peek fun _ rest => prompt_pure _ _
    · exact prompt_behind _
  split
  · exact prompt_advance (prompt rest)
  · exact prompt _

theorem prompt_skipPower : skipPower.Prompt := by
  rw [skipPower]
  refine prompt_peek fun b rest => ?_
  split
  · exact prompt_advance (prompt_skipExponent rest)
  · exact prompt_pure _ _

/-- Passes what may follow the digits before the point. -/
def skipFraction : Decoder Unit := do
  if (← peek) = some 0x2E then
    advance
    let part ← takeWhile isDigit
    let _ ← peek
    if part.isEmpty then ahead .invalidNumber else skipPower
  else skipPower

theorem wants_skipFraction : skipFraction.Wants := wants_peek.bind

theorem prompt_skipFraction : skipFraction.Prompt := by
  refine prompt_peek fun b rest => ?_
  split
  · refine prompt_advance ((greedy_takeWhile _).bind (fun _ => wants_peek.bind) (fun part => ?_) _)
    refine prompt_peek fun _ rest => ?_
    split
    · exact prompt_ahead _ _
    · exact prompt_skipPower _
  · exact prompt_skipPower _

theorem prompt_skipNumber (b : UInt8) : (skipNumber b).Prompt := by
  rw [skipNumber]
  split_ifs
  · refine prompt_peek fun c rest => ?_
    split
    · exact (prompt_ahead _).bind (fun _ => prompt_skipFraction) _
    · exact prompt_skipFraction _
  · exact (greedy_takeWhile _).bind (fun _ => wants_skipFraction) fun _ => prompt_skipFraction
  · exact (prompt_behind _).bind fun _ => prompt_skipFraction

theorem lead_eq (atEnd : SyntaxError) (next : UInt8 → Decoder α) :
    lead atEnd next = token >>= fun
      | none => ahead atEnd
      | some b => advance >>= fun _ => next b := by
  apply ext
  intro origin text
  rw [run_bind, lead]
  dsimp only
  rcases token.run origin text with ⟨_ | b, rest⟩ | ⟨fault, rest⟩ <;> rfl

theorem prompt_lead (atEnd : SyntaxError) {next : UInt8 → Decoder α}
    (prompt : ∀ b, (next b).Prompt) : (lead atEnd next).Prompt := by
  rw [lead_eq]
  exact prompt_token fun b rest => prompt_advance (prompt b rest)

theorem prompt_skipHead : skipHead.Prompt := by
  refine prompt_lead _ fun b => ?_
  split_ifs
  iterate 3 exact (prompt_word _).bind fun _ => prompt_pure _
  · exact prompt_next fun c => (prompt_skipNumber _).bind fun _ => prompt_pure _
  · exact (prompt_skipNumber _).bind fun _ => prompt_pure _
  · exact prompt_skipText.bind fun _ => prompt_pure _
  · exact prompt_pure _
  · exact prompt_pure _
  · exact prompt_behind _

theorem prompt_skipKey (bracket : Bracket) : (skipKey bracket).Prompt := by
  cases bracket with
  | list => exact prompt_pure ()
  | object =>
    rw [skipKey]
    refine prompt_token fun b rest => ?_
    dsimp only
    split
    · exact prompt_advance (prompt_skipText.bind (fun _ => prompt_colon) rest)
    · exact prompt_ahead _ _

theorem prompt_skipSeparator (bracket : Bracket) (after : Bool) :
    (skipSeparator bracket after).Prompt := by
  rw [skipSeparator]
  refine prompt_token fun b rest => ?_
  dsimp only
  split_ifs
  · exact prompt_advance (prompt_pure _ rest)
  · exact (prompt_skipKey _).bind (fun _ => prompt_pure _) _
  · exact prompt_advance ((prompt_skipKey _).bind (fun _ => prompt_pure _) rest)
  · exact prompt_ahead _ _

/-- Passes values and brackets; `after` says whether a value has just been passed. -/
def passing (after : Bool) (brackets : List Bracket) : Decoder Unit :=
  ⟨fun origin text => pass origin after brackets text, length_pass_le⟩

/-- Goes on behind a value or a bracket that has been closed, or with another value inside. -/
def passOn (bracket : Bracket) (outer : List Bracket) : Follow → Decoder Unit
  | .closed => passing true outer
  | .another => passing false (bracket :: outer)

theorem pass_closed (origin : Origin) (bracket : Bracket) (outer : List Bracket) (text : Bytes) :
    pass origin true (bracket :: outer) text =
      (skipSeparator bracket true >>= passOn bracket outer).run origin text := by
  rw [pass, run_bind]
  split <;> simp_all [passOn, passing]

theorem pass_value (origin : Origin) (brackets : List Bracket) (text : Bytes) :
    pass origin false brackets text = (skipHead >>= fun
      | none => passing true brackets
      | some bracket => skipSeparator bracket false >>= passOn bracket brackets).run
        origin text := by
  rw [pass, run_bind]
  split
  · simp_all
  · simp_all [passing]
  · simp_all only [run_bind]
    split <;> simp_all [passOn, passing]

/-- Values are passed over promptly: every value and every bracket takes an octet, and behind a
separator comes a value. -/
theorem prompt_passing (after : Bool) (brackets : List Bracket) :
    (passing after brackets).Prompt := by
  intro text
  induction size : 2 * text.length + after.toNat using Nat.strongRecOn
    generalizing after brackets text with
  | _ size ih =>
    have one : true.toNat = 1 := rfl
    have zero : false.toNat = 0 := rfl
    intro message more
    change (pass _ _ _ _).Agrees message more (pass _ _ _ _)
    match after, brackets with
    | true, [] =>
      rw [pass, pass]
      exact .done _ _
    | true, bracket :: outer =>
      rw [pass_closed, pass_closed]
      refine (prompt_skipSeparator bracket true text).bind_of_run
        (fun _ follow rest run => ?_) message more
      cases follow with
      | closed =>
        have shorter := length_lt_of_closed run
        exact ih _ (by omega) true outer rest rfl
      | another =>
        have shorter := (skipSeparator bracket true).shortens run
        exact ih _ (by omega) false _ rest rfl
    | false, brackets =>
      rw [pass_value, pass_value]
      refine (prompt_skipHead text).bind_of_run (fun _ head rest run => ?_) message more
      have shorter := length_lt_of_lead run
      cases head with
      | none => exact ih _ (by omega) true _ rest rfl
      | some bracket =>
        refine (prompt_skipSeparator bracket false rest).bind_of_run fun _ follow last run' => ?_
        cases follow with
        | closed =>
          have shorter' := length_lt_of_closed run'
          exact ih _ (by omega) true _ last rfl
        | another =>
          have shorter' := (skipSeparator bracket false).shortens run'
          exact ih _ (by omega) false _ last rfl

theorem prompt_skip : skip.Prompt := prompt_passing false []

/-! ## Whole documents -/

theorem Prompt.document {d : Decoder α} (prompt : d.Prompt) : d.document.Prompt :=
  prompt.bind fun _ => prompt_token fun _ _ => prompt_ahead _ _

/-- Of a document that breaks off, the failure of the delivery is reported, unless there is a
problem with every document that begins so. -/
theorem Prompt.decode {d : Decoder α} (prompt : d.Prompt) (message : String) (text : Bytes) :
    ∃ error, d.decode (.broken message) text = .error error ∧
      (error = .unreadable message ∨
        ∀ more, ∃ error', d.decode .stream (text ++ more) = .error error') := by
  obtain ⟨error, broken⟩ := decode_broken d message text
  refine ⟨error, broken, ?_⟩
  rw [Decoder.decode] at broken
  split at broken
  · cases broken
  next fault rest run =>
  obtain rfl := Except.error.inj broken
  by_cases heard : fault = .unreadable message
  · exact .inl (heard ▸ rfl)
  refine .inr fun more => ?_
  have agrees := prompt.document text message more
  rw [run] at agrees
  generalize run' : d.document.run .stream (text ++ more) = outcome at agrees
  cases agrees with
  | cut => exact absurd rfl heard
  | failed fault fault' rest rest' => exact ⟨_, by rw [Decoder.decode, run']⟩

end Decoder

open Decoder

/-! ## Readers -/

/-- A reader of the next value that is prompt. -/
def PromptReader (read : Item → Decoder α) : Prop := ∀ levels, (read (.next levels)).Prompt

theorem promptReader_scalar (read : Head → Except String α) : PromptReader (Item.scalar read) :=
  fun _ text => (prompt_head.bind (fun _ => prompt_ofExcept _) text).placed

theorem promptReader_text (expected : String) : PromptReader (Item.text expected) :=
  promptReader_scalar _

theorem PromptReader.option {read : Item → Decoder α} (prompt : PromptReader read) :
    PromptReader (Item.option read) := by
  intro levels
  rw [Item.option]
  refine prompt_token fun b rest => ?_
  split
  · exact prompt_advance ((prompt_word _).bind (fun _ => prompt_pure _) rest)
  · exact (prompt levels).bind (fun _ => prompt_pure _) _

/-- A member that is read promptly. -/
def Field.Prompt (field : Field σ) : Prop := ∀ draft, PromptReader (field.read draft)

theorem PromptReader.field {read : Item → Decoder β} (prompt : PromptReader read) (name : String)
    (get : σ → Option β) (set : σ → β → σ) : (Field.of name get set read).Prompt :=
  fun _ levels => (prompt levels).bind fun _ => prompt_pure _

/-! ## Records -/

/-- Members are read promptly if each of them is. -/
theorem prompt_readMembers {step : Item.Step σ}
    (prompt : ∀ state name read, step state name = .ok read → PromptReader read) (state : σ)
    (levels : Nat) : (Item.readMembers step state levels).Prompt := by
  refine prompt_foldMembers (fun state name => ?_) state
  rcases known : step state name with complaint | read
  · exact fun text => (prompt_unfit complaint text).bind_of_run fun _ _ _ run => nomatch run
  · exact prompt_colon.bind fun _ => prompt state name read known levels

namespace Record

theorem prompt_readItems (levels : Nat) {fields : List (Field σ)}
    (prompt : ∀ field ∈ fields, field.Prompt) (first : Bool) (draft : σ) :
    (readItems levels first fields draft).Prompt := by
  induction fields generalizing first draft with
  | nil => exact prompt_pure draft
  | cons field fields ih =>
    obtain ⟨reads, others⟩ := List.forall_mem_cons.mp prompt
    rw [readItems]
    refine (prompt_moreItems first).bind fun more => ?_
    split
    · exact (reads draft levels).bind fun draft => ih others false draft
    · exact prompt_pure draft

/-- Records are read promptly if their members are.  What opens a list or an object is decided by an
octet that has come, so only what is inside may want more. -/
theorem promptReader (r : Record σ α) (all : r.fields.Forall Field.Prompt) :
    PromptReader r.read := by
  have prompt := List.forall_iff_forall_mem.mp all
  have known (draft : σ) (name : String) (read : Item → Decoder σ)
      (member : r.step draft name = .ok read) : PromptReader read := by
    rw [step] at member
    split at member
    · next field found =>
      split at member <;> cases member
      exact prompt field (List.mem_of_find?_eq_some found) draft
    · cases member
      exact fun levels => prompt_skip.bind fun _ => prompt_pure draft
  intro levels text
  refine PromptAt.placed ((prompt_head text).bind_of_run fun message head rest run => ?_)
  cases head with
  | list =>
    obtain ⟨b, tail, rfl⟩ := ahead_of_head (.inl rfl) run
    refine prompt_inside prompt_endList (fun levels => ?_) levels b tail
    exact (prompt_readItems levels prompt true r.empty).bind fun _ => prompt_ofExcept _
  | object =>
    obtain ⟨b, tail, rfl⟩ := ahead_of_head (.inr rfl) run
    refine prompt_inside prompt_endObject (fun levels => ?_) levels b tail
    exact (prompt_readMembers known r.empty levels).bind fun _ => prompt_ofExcept _
  | _ => exact prompt_unfit _ _

end Record

end RemoteSigner.Json
