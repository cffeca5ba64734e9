import RemoteSigner.Proofs.Json.Forms

/-!
# Documents that break off

The delivery of a document may fail behind some octets.  A prompt decoder hears of that only where
it wants an octet that has not come.  A problem that it finds before is one of the octets that have
come, so every document that begins with them has a problem; and a value that it has read by then is
the one that it reads from every such document.

Taking all digits ahead is not prompt, because more digits may come.  It leaves the question to the
decoder behind it, which has to want an octet.

## Main definitions

* `Outcome.Agrees`: what a prompt decoder may make of octets, and of a document that goes on
* `Decoder.PromptAt`, `Decoder.Prompt`: a decoder is prompt, on some octets or on all
* `Decoder.Wants`: a decoder wants an octet before anything else
* `Decoder.Greedy`: a decoder that takes octets up to the first one that it does not want

## Main results

* `PromptAt.bind`, `Greedy.bind`: one decoder behind another
* `prompt_number`, `prompt_text`: numbers and texts
-/

namespace RemoteSigner.Json

variable {α β σ : Type}

/-- What a decoder makes of octets behind which the delivery fails, and of a document that goes on
with `more` there.  It hears of the failure, or stops on both, or gives the same value and leaves
the same octets. -/
inductive Outcome.Agrees (message : String) (more : Bytes) : Outcome α → Outcome α → Prop where
  | cut (rest : Bytes) (outcome : Outcome α) :
      Agrees message more (.failed (.unreadable message) rest) outcome
  | failed (fault fault' : Fault) (rest rest' : Bytes) :
      Agrees message more (.failed fault rest) (.failed fault' rest')
  | done (value : α) (rest : Bytes) :
      Agrees message more (.done value rest) (.done value (rest ++ more))

namespace Decoder

/-- A decoder is prompt on some octets. -/
def PromptAt (d : Decoder α) (text : Bytes) : Prop :=
  ∀ message more, (d.run (.broken message) text).Agrees message more (d.run .stream (text ++ more))

/-- A decoder is prompt. -/
def Prompt (d : Decoder α) : Prop := ∀ text, d.PromptAt text

/-- A decoder wants an octet before anything else. -/
def Wants (d : Decoder α) : Prop :=
  ∀ message, ∃ rest, d.run (.broken message) [] = .failed (.unreadable message) rest

/-- A decoder takes octets up to the first one that it does not want, which has to be there. -/
def Greedy (d : Decoder α) : Prop :=
  ∀ text message more, ∃ value rest, d.run (.broken message) text = .done value rest ∧
    (rest = [] ∨ d.run .stream (text ++ more) = .done value (rest ++ more))

/-! ## Steps -/

theorem prompt_pure (a : α) : (pure a : Decoder α).Prompt := fun _ _ _ => .done a _

theorem prompt_fail (fault : Bytes → Fault) : (fail fault : Decoder α).Prompt :=
  fun _ _ _ => .failed _ _ _ _

theorem prompt_ahead (error : SyntaxError) : (ahead error : Decoder α).Prompt := prompt_fail _

theorem prompt_behind (error : SyntaxError) : (behind error : Decoder α).Prompt := prompt_fail _

theorem prompt_unfit (message : String) : (unfit message : Decoder α).Prompt := prompt_fail _

theorem prompt_ofExcept (result : Except String α) : (ofExcept result).Prompt := by
  cases result with
  | ok a => exact prompt_pure a
  | error message => exact prompt_unfit message

section Bind

variable {d : Decoder α} {next : α → Decoder β} {text : Bytes}

/-- Where the first decoder is prompt, and the second one on what is left. -/
theorem PromptAt.bind_of_run (first : d.PromptAt text)
    (second : ∀ message a rest, d.run (.broken message) text = .done a rest →
      (next a).PromptAt rest) : (d >>= next).PromptAt text := by
  intro message more
  have agrees := first message more
  rw [run_bind, run_bind]
  generalize run : d.run (.broken message) text = outcome at agrees ⊢
  generalize d.run .stream (text ++ more) = outcome' at agrees ⊢
  cases agrees with
  | cut rest outcome => exact .cut _ _
  | failed fault fault' rest rest' => exact .failed _ _ _ _
  | done a rest => exact second message a rest run message more

theorem PromptAt.bind (first : d.PromptAt text) (second : ∀ a, (next a).Prompt) :
    (d >>= next).PromptAt text :=
  first.bind_of_run fun _ a rest _ => second a rest

theorem Prompt.bind (first : d.Prompt) (second : ∀ a, (next a).Prompt) : (d >>= next).Prompt :=
  fun text => (first text).bind second

theorem Wants.bind (wants : d.Wants) : (d >>= next).Wants := by
  intro message
  obtain ⟨rest, heard⟩ := wants message
  exact ⟨rest, by rw [run_bind, heard]⟩

/-- The decoder behind a greedy one has to want an octet. -/
theorem Greedy.bind (greedy : d.Greedy) (wants : ∀ a, (next a).Wants)
    (second : ∀ a, (next a).Prompt) : (d >>= next).Prompt := by
  intro text message more
  obtain ⟨a, rest, run, rfl | run'⟩ := greedy text message more
  · obtain ⟨left, heard⟩ := wants a message
    rw [run_bind, run]
    simp only [heard]
    exact .cut _ _
  · rw [run_bind, run_bind, run, run']
    exact second a rest message more

/-- Nothing is left of nothing, so a greedy decoder hands the question on. -/
theorem Greedy.wants_bind (greedy : d.Greedy) (wants : ∀ a, (next a).Wants) :
    (d >>= next).Wants := by
  intro message
  obtain ⟨a, rest, run, -⟩ := greedy [] message []
  obtain rfl : rest = [] := List.length_eq_zero_iff.mp (Nat.le_zero.mp (d.shortens run))
  obtain ⟨left, heard⟩ := wants a message
  exact ⟨left, by rw [run_bind, run]; exact heard⟩

end Bind

/-! ## Octets -/

section Octets

variable {next : Option UInt8 → Decoder β}

theorem wants_peek : peek.Wants := fun _ => ⟨[], rfl⟩

/-- What follows a look at the octet ahead need be prompt only where there is one. -/
theorem prompt_peek (second : ∀ b rest, (next (some b)).PromptAt (b :: rest)) :
    (peek >>= next).Prompt := by
  intro text message more
  cases text with
  | nil => exact .cut _ _
  | cons b rest => exact second b rest message more

/-- What follows an octet need be prompt only if there is one. -/
theorem prompt_next (second : ∀ b, (next (some b)).Prompt) : (Decoder.next >>= next).Prompt := by
  intro text message more
  cases text with
  | nil => exact .cut _ _
  | cons b rest => exact second b rest message more

theorem prompt_advance {d : Decoder α} {b : UInt8} {rest : Bytes} (prompt : d.PromptAt rest) :
    (advance >>= fun _ => d).PromptAt (b :: rest) := prompt

theorem greedy_takeWhile (p : UInt8 → Bool) : (takeWhile p).Greedy := by
  intro text message more
  refine ⟨text.takeWhile p, text.dropWhile p, rfl, ?_⟩
  have split : text.dropWhile p = [] ∨ (text ++ more).takeWhile p = text.takeWhile p ∧
      (text ++ more).dropWhile p = text.dropWhile p ++ more := by
    induction text with
    | nil => exact .inl rfl
    | cons b text ih =>
      by_cases wanted : p b
      · simpa [wanted] using ih
      · exact .inr (by simp [wanted])
  refine split.imp_right fun ⟨taken, left⟩ => ?_
  change Outcome.done _ _ = _
  rw [taken, left]

theorem greedy_digits (limit n : Nat) : (digits limit n).Greedy := by
  intro text message more
  have split (n count : Nat) : (appendDigits limit n count text).2.2 = [] ∨
      appendDigits limit n count (text ++ more) =
        ((appendDigits limit n count text).1, (appendDigits limit n count text).2.1,
          (appendDigits limit n count text).2.2 ++ more) := by
    induction text generalizing n count with
    | nil => exact .inl rfl
    | cons b text ih =>
      simp only [List.cons_append, appendDigits]
      split
      · exact ih _ _
      · exact .inr rfl
  refine ⟨_, _, rfl, (split n 0).imp_right fun same => ?_⟩
  rw [digits]
  simp only [same]

/-- What follows the next octet that is no blank need be prompt only where there is one. -/
theorem prompt_token (second : ∀ b rest, (next (some b)).PromptAt (b :: rest)) :
    (token >>= next).Prompt := by
  rw [token, bind_assoc]
  exact (greedy_takeWhile _).bind (fun _ => wants_peek.bind) fun _ => prompt_peek second

end Octets

theorem prompt_word (octets : Bytes) : (word octets).Prompt := by
  induction octets with
  | nil => exact prompt_pure ()
  | cons b octets ih =>
    rw [word]
    refine prompt_next fun c => ?_
    dsimp only
    split
    · exact ih
    · exact prompt_behind _

/-! ## Around a decoder -/

theorem PromptAt.placed {d : Decoder α} {text : Bytes} (prompt : d.PromptAt text) :
    d.placed.PromptAt text := by
  intro message more
  have agrees := prompt message more
  change (d.run _ text).placed.Agrees message more (d.run _ (text ++ more)).placed
  generalize d.run (.broken message) text = outcome at agrees ⊢
  generalize d.run .stream (text ++ more) = outcome' at agrees ⊢
  cases agrees with
  | cut rest outcome => exact .cut _ _
  | failed fault fault' rest rest' => exact .failed _ _ _ _
  | done a rest => exact .done _ _

theorem Prompt.enclosed {d : Decoder α} {closing : Decoder Unit} (prompt : d.Prompt)
    (closes : closing.Prompt) : (d.enclosed closing).Prompt := by
  intro text message more
  have agrees := prompt text message more
  rw [Decoder.enclosed]
  dsimp only
  generalize d.run (.broken message) text = outcome at agrees ⊢
  generalize d.run .stream (text ++ more) = outcome' at agrees ⊢
  cases agrees with
  | cut rest outcome => exact .cut _ _
  | failed fault fault' rest rest' => exact .failed _ _ _ _
  | done a rest =>
    have agrees := closes rest message more
    dsimp only
    generalize closing.run (.broken message) rest = outcome at agrees ⊢
    generalize closing.run .stream (rest ++ more) = outcome' at agrees ⊢
    cases agrees with
    | cut rest outcome => exact .cut _ _
    | failed fault fault' rest rest' => exact .failed _ _ _ _
    | done u rest => exact .done _ _

theorem prompt_inside {closing : Decoder Unit} {body : Nat → Decoder α}
    (closes : closing.Prompt) (reads : ∀ levels, (body levels).Prompt) (levels : Nat) (b : UInt8)
    (rest : Bytes) : (inside levels closing body).PromptAt (b :: rest) := by
  cases levels with
  | zero => exact prompt_ahead _ _
  | succ levels => exact prompt_advance ((reads levels).enclosed closes rest)

/-! ## Numbers -/

theorem prompt_outOfRange : (outOfRange : Decoder α).Prompt := fun _ _ _ => .failed _ _ _ _

theorem prompt_scaled (positive : Bool) (significand : Nat) (exponent : Int) :
    (scaled positive significand exponent).Prompt := by
  rw [scaled]
  split
  · exact prompt_pure _
  · exact prompt_outOfRange

/-- A power of ten is read promptly.  More digits may come, so the octet behind them is looked at
before anything is made of them. -/
theorem prompt_exponent (positive : Bool) (significand : Nat) (start : Int) :
    (exponent positive significand start).Prompt := by
  rw [exponent]
  refine prompt_peek fun sign rest => ?_
  extract_lets grows behindSign
  have prompt : (behindSign ()).Prompt := by
    refine prompt_next fun b => ?_
    dsimp only
    split
    · exact prompt_behind _
    · refine (greedy_digits _ _).bind (fun _ => wants_peek.bind) fun _ => ?_
      refine prompt_peek fun c rest => ?_
      split
      · refine prompt_advance ?_
        split
        · exact prompt_behind _ _
        · refine (greedy_takeWhile _).bind (fun _ => wants_peek.bind) (fun _ => ?_) _
          exact prompt_peek fun _ rest => prompt_pure _ _
      · exact prompt_scaled _ _ _ _
  split
  · exact prompt_advance (prompt rest)
  · exact prompt _

theorem wants_power (positive : Bool) (significand : Nat) (start : Int) :
    (power positive significand start).Wants := wants_peek.bind

theorem prompt_power (positive : Bool) (significand : Nat) (start : Int) :
    (power positive significand start).Prompt := by
  rw [power]
  refine prompt_peek fun b rest => ?_
  split
  · exact prompt_advance (prompt_exponent _ _ _ rest)
  · exact prompt_scaled _ _ _ _

theorem prompt_decimals (positive : Bool) (significand : Nat) (start : Int) :
    (decimals positive significand start).Prompt := by
  rw [decimals]
  refine (greedy_digits _ _).bind (fun _ => wants_peek.bind) fun _ => ?_
  refine prompt_peek fun b rest => ?_
  split
  · exact (greedy_takeWhile _).bind (fun _ => wants_power _ _ _) (fun _ => prompt_power _ _ _) _
  · split
    · exact prompt_ahead _ _
    · exact prompt_power _ _ _ _

theorem wants_fraction (positive : Bool) (significand dropped : Nat) :
    (fraction positive significand dropped).Wants := wants_peek.bind

theorem prompt_fraction (positive : Bool) (significand dropped : Nat) :
    (fraction positive significand dropped).Prompt := by
  rw [fraction]
  refine prompt_peek fun b rest => ?_
  split
  · exact prompt_advance (prompt_decimals _ _ _ rest)
  split
  · exact prompt_advance (prompt_exponent _ _ _ rest)
  split
  · exact prompt_scaled _ _ _ _
  split
  · exact prompt_pure _ _
  split
  · exact prompt_pure _ _
  · exact prompt_pure _ _

theorem prompt_number (positive : Bool) : (number positive).Prompt := by
  rw [number]
  refine prompt_next fun b => ?_
  dsimp only
  split
  · refine prompt_peek fun c rest => ?_
    split
    · exact prompt_ahead _ _
    · exact prompt_fraction _ _ _ _
  split
  · refine (greedy_digits _ _).bind (fun _ => ?_) fun _ => ?_
    · exact (greedy_takeWhile _).wants_bind fun _ => wants_fraction _ _ _
    · exact (greedy_takeWhile _).bind (fun _ => wants_fraction _ _ _) fun _ => prompt_fraction _ _ _
  · exact prompt_behind _

/-! ## Texts -/

theorem prompt_nextInText : nextInText.Prompt := prompt_next prompt_pure

theorem prompt_fourDigits : fourDigits.Prompt := by
  rw [fourDigits]
  refine prompt_nextInText.bind fun a => prompt_nextInText.bind fun b =>
    prompt_nextInText.bind fun c => prompt_nextInText.bind fun d => ?_
  split
  · exact prompt_pure _
  · exact prompt_behind _

theorem prompt_secondHalf : secondHalf.Prompt := by
  rw [secondHalf]
  refine prompt_nextInText.bind fun a => ?_
  split
  · exact prompt_behind _
  refine prompt_nextInText.bind fun b => ?_
  split
  · exact prompt_behind _
  refine prompt_fourDigits.bind fun low => ?_
  split
  · exact prompt_behind _
  · exact prompt_pure _

theorem prompt_numbered : numbered.Prompt := by
  rw [numbered]
  refine prompt_fourDigits.bind fun high => ?_
  split
  · exact prompt_behind _
  split
  · exact prompt_pure _
  · exact prompt_secondHalf.bind fun low => prompt_pure _

theorem prompt_escape : escape.Prompt := by
  rw [escape]
  refine prompt_nextInText.bind fun b => ?_
  split_ifs
  iterate 6 exact prompt_pure _
  · exact prompt_numbered.bind fun c => prompt_pure _
  · exact prompt_behind _

/-- Reads on in a text; `done` holds the octets before, last first. -/
def unescaped (done : Bytes) : Decoder Bytes :=
  ⟨fun origin text => unescape origin done text, length_unescape_le⟩

theorem unescape_backslash (origin : Origin) (done rest : Bytes) :
    unescape origin done (0x5C :: rest) =
      (escape >>= fun octets => unescaped (octets.reverseAux done)).run origin rest := by
  rw [unescape, if_neg (by decide), if_pos rfl, run_bind]
  split <;> simp_all [unescaped]

/-- The rest of a text is read promptly; it gets shorter with every octet and every escape. -/
theorem prompt_unescaped (done : Bytes) : (unescaped done).Prompt := by
  intro text
  induction size : text.length using Nat.strongRecOn generalizing done text with
  | _ size ih =>
    intro message more
    change (unescape _ _ _).Agrees message more (unescape _ _ _)
    cases text with
    | nil =>
      rw [unescape]
      exact .cut _ _
    | cons b rest =>
      rw [List.cons_append]
      by_cases quote : b = 0x22
      · rw [quote, unescape_quote, unescape_quote]
        exact .done _ _
      by_cases backslash : b = 0x5C
      · rw [backslash, unescape_backslash, unescape_backslash]
        refine (prompt_escape rest).bind_of_run (fun _ octets left run => ?_) message more
        exact ih _ (size ▸ Nat.lt_succ_of_le (escape.shortens run)) _ _ rfl
      rw [unescape, unescape, if_neg quote, if_neg quote, if_neg backslash, if_neg backslash]
      split
      · exact .failed _ _ _ _
      · exact ih _ (size ▸ Nat.lt_succ_self _) _ _ rfl message more

theorem text_eq : text = unescaped [] >>= fun octets =>
    match Bytes.toText? octets with
    | some s => pure s
    | none => fail fun rest =>
      .malformed .invalidCharacter ((Utf8.afterCharacters octets).length + rest.length) := by
  apply ext
  intro origin octets
  rw [text, run_bind, unescaped]
  dsimp only
  cases unescape origin [] octets with
  | done octets rest =>
    dsimp only
    cases Bytes.toText? octets <;> rfl
  | failed fault rest => rfl

theorem prompt_text : text.Prompt := by
  rw [text_eq]
  refine (prompt_unescaped []).bind fun octets => ?_
  split
  · exact prompt_pure _
  · exact prompt_fail _

end Decoder

end RemoteSigner.Json
