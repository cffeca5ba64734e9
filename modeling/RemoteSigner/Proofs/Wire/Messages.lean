import RemoteSigner.Proofs.Json.Reordering
import RemoteSigner.Proofs.Octets.Base64
import RemoteSigner.Wire.Request

/-!
# Messages are read as they were meant

Every kind of message has a JSON form that fits into a document and is read back as the same
message.  So is what somebody else may write for it: the members of its objects come in any order,
blanks stand between its parts, and a member that is left out when the message is sent is there and
is `null`.  `LawfulMessage` says so, and there is an instance for every kind of message, from hash
algorithms to requests and responses.

## Main definitions

* `Explicit`: which members without a value are written
* `LawfulMessage`: messages that are read back

## Main results

* `Message.decode_of_reordered`: all forms of a message decode to the message
* `Message.decode_encode`: so does the form that is sent
* `Message.decode_requests_responses`: all forms of requests and responses
-/

namespace RemoteSigner

open Json

/-! ## Values that fit into a document -/

namespace Json.Value

/-- The value is plain, and not nested deeper than so many levels. -/
def Fits (levels : Nat) (v : Value) : Prop := v.Plain ∧ v.depth ≤ levels

/-- All members are plain, and not nested deeper than so many levels. -/
def AllFit (levels : Nat) (members : List (String × Value)) : Prop :=
  ∀ name v, (name, v) ∈ members → v.Fits levels

theorem Fits.mono {levels more : Nat} {v : Value} (fits : v.Fits levels) (le : levels ≤ more) :
    v.Fits more :=
  ⟨fits.1, Nat.le_trans fits.2 le⟩

@[simp] theorem fits_text (levels : Nat) (s : String) : (text s).Fits levels := by
  simp [Fits, Plain, depth]

theorem fits_natural {levels n : Nat} : (natural n).Fits levels ↔ n < UInt64.size := by
  rw [Fits, plain_natural]
  exact and_iff_left (Nat.zero_le _)

@[simp] theorem fits_word64 (levels : Nat) (n : UInt64) : (natural n.toNat).Fits levels :=
  fits_natural.mpr n.toNat_lt

@[simp] theorem fits_word32 (levels : Nat) (n : UInt32) : (natural n.toNat).Fits levels :=
  fits_natural.mpr (Nat.lt_trans n.toNat_lt (by decide))

@[simp] theorem allFit_nil (levels : Nat) : AllFit levels [] := nofun

@[simp] theorem allFit_cons {levels : Nat} {name : String} {v : Value}
    {members : List (String × Value)} :
    AllFit levels ((name, v) :: members) ↔ v.Fits levels ∧ AllFit levels members := by
  simp [AllFit, or_imp, forall_and]

@[simp] theorem allFit_append {levels : Nat} {first second : List (String × Value)} :
    AllFit levels (first ++ second) ↔ AllFit levels first ∧ AllFit levels second := by
  simp [AllFit, or_imp, forall_and]

/-- An object is one level deeper than its members. -/
theorem fits_object {levels : Nat} {members : List (String × Value)}
    (fit : AllFit levels members) : (object members).Fits (levels + 1) := by
  rw [Fits, Plain, depth, Nat.add_le_add_iff_right]
  induction members with
  | nil => exact ⟨trivial, Nat.zero_le _⟩
  | cons head members ih =>
    rcases head with ⟨name, v⟩
    rw [allFit_cons] at fit
    rw [PlainMembers, depthMembers, Nat.max_le]
    exact ⟨⟨fit.1.1, (ih fit.2).1⟩, fit.1.2, (ih fit.2).2⟩

theorem fits_list {levels : Nat} {items : List Value} (fit : ∀ item ∈ items, item.Fits levels) :
    (list items).Fits (levels + 1) := by
  rw [Fits, Plain, depth, Nat.add_le_add_iff_right]
  induction items with
  | nil => exact ⟨trivial, Nat.zero_le _⟩
  | cons item items ih =>
    rw [List.forall_mem_cons] at fit
    rw [PlainItems, depthItems, Nat.max_le]
    exact ⟨⟨fit.1.1, (ih fit.2).1⟩, fit.1.2, (ih fit.2).2⟩

end Json.Value

/-! ## Members without a value -/

/-- Which members without a value are written, as `null`, and not left out.  No member stands in a
message twice, so the name of a member says which one is meant. -/
structure Explicit where
  /-- The hash algorithm of what is to be signed. -/
  hash : Bool := false
  /-- The options of what is to be signed. -/
  opts : Bool := false
  /-- The number of octets of a salt whose length is not given by a number. -/
  bytes : Bool := false
  /-- The arguments of a call that takes none. -/
  params : Bool := false
  /-- The result of a call that failed. -/
  result : Bool := false
  /-- The error of a call that succeeded. -/
  error : Bool := false

namespace Message

/-- A member without a value. -/
def absent (explicit : Bool) (name : String) : List (String × Value) :=
  if explicit then [(name, .null)] else []

/-- A member that may have no value. -/
def member (explicit : Bool) (name : String) (v : Option Value) : List (String × Value) :=
  match v with
  | some v => [(name, v)]
  | none => absent explicit name

end Message

namespace Json.Value

@[simp] theorem allFit_absent (levels : Nat) (explicit : Bool) (name : String) :
    AllFit levels (Message.absent explicit name) := by
  cases explicit with
  | false => exact allFit_nil levels
  | true => simp [Message.absent, Fits, Plain, depth]

@[simp] theorem allFit_member {levels : Nat} {explicit : Bool} {name : String} {v : Option Value} :
    AllFit levels (Message.member explicit name v) ↔ ∀ w ∈ v, w.Fits levels := by
  cases v <;> simp [Message.member]

end Json.Value

/-! ## Lawful messages -/

/-- A kind of message whose forms fit into a document and are read in any order. -/
class LawfulMessage (α : Type) [Message α] where
  /-- The form in which these members without a value are written. -/
  form : Explicit → α → Value := fun _ => Message.toValue
  /-- The form that is sent leaves all of them out. -/
  form_default : ∀ a : α, form {} a = Message.toValue a := by intro a; rfl
  /-- How many lists and objects are open at once in a message of this kind. -/
  levels : Nat
  levels_le : levels ≤ maxLevels := by decide
  fits : ∀ (e : Explicit) (a : α), (form e a).Fits levels
  reads : ∀ (e : Explicit) (a : α), ReadsReordered Message.read (form e a) a

section

variable {α : Type} [Message α] [LawfulMessage α]

theorem LawfulMessage.fits_of {n : Nat} (h : levels α ≤ n) (e : Explicit) (a : α) :
    (form e a).Fits n :=
  (fits e a).mono h

namespace Message

/-- Every form of a message decodes to the message, with gaps at both ends. -/
theorem decode_of_reordered {e : Explicit} {a : α} {v : Value}
    (other : Reordered (LawfulMessage.form e a) v) {before text after : Bytes}
    (blankBefore : Gap before) (spelled : Spells v text) (blankAfter : Gap after) {origin : Origin}
    (whole : origin.Whole) : decode α origin (before ++ (text ++ after)) = .ok a := by
  have enough : v.depth ≤ maxLevels := by
    rw [other.depth_eq]
    exact (LawfulMessage.fits_of LawfulMessage.levels_le e a).2
  have read := (LawfulMessage.reads e a other).next whole enough blankBefore spelled
    (.of_gap blankAfter)
  simp [decode, Json.decode, Decoder.decode, Decoder.document, read,
    Decoder.run_token_nil whole blankAfter]

/-- What is sent decodes to what was meant. -/
theorem decode_encode (a : α) {origin : Origin} (whole : origin.Whole) :
    decode α origin (encode a) = .ok a := by
  have spelled := spells_compact (LawfulMessage.fits {} a).1
  have decoded := decode_of_reordered (Reordered.refl _) .nil spelled .nil whole
  rwa [List.nil_append, List.append_nil, LawfulMessage.form_default] at decoded

end Message

end

namespace Message

/-! ## Octets and numbers -/

theorem octets_encodeText (bytes : Bytes) : octets (Base64.encodeText bytes) = .ok bytes := by
  simp [octets, Base64.ofText_encodeText, Base64.decode?_encode]

theorem reads_bytes (bytes : Bytes) : ReadsReordered readBytes (bytesValue bytes) bytes := by
  apply ReadsReordered.of_scalar (v := bytesValue bytes) trivial
  apply (Reads.text "a string" (Base64.encodeText bytes)).andThen
  intro origin text
  simp [octets_encodeText]

theorem mapM_octets (chain : List Bytes) :
    chain.mapM (octets ∘ Base64.encodeText) = .ok chain := by
  induction chain with
  | nil => rfl
  | cons bytes chain ih => simp [octets_encodeText, ih]; rfl

theorem reads_byteList (chain : List Bytes) :
    ReadsReordered readByteList (.list (chain.map bytesValue)) chain := by
  have texts : List.Forall₂ (ReadsReordered (Item.text "a string")) (chain.map bytesValue)
      (chain.map Base64.encodeText) := by
    rw [List.forall₂_map_left_iff, List.forall₂_map_right_iff, List.forall₂_same]
    intro bytes _
    exact .of_scalar (v := .text _) trivial (Reads.text _ _)
  apply (ReadsReordered.list texts).andThen
  intro origin text
  simp [mapM_octets]

theorem reads_word64 (expected : String) (n : UInt64) :
    ReadsReordered (readWord64 expected) (.natural n.toNat) n := by
  have read := (Reads.natural expected n.toNat_lt).map UInt64.ofNat
  rw [UInt64.ofNat_toNat] at read
  exact .of_scalar (v := .natural _) trivial read

theorem reads_word32 (n : UInt32) : ReadsReordered readWord32 (.natural n.toNat) n := by
  have read := (Reads.natural "u32" n.toNat_lt).map UInt32.ofNat
  rw [UInt32.ofNat_toNat] at read
  exact .of_scalar (v := .natural _) trivial read

end Message

/-! ## Members that may have no value -/

namespace Json

variable {σ τ α β γ : Type}

namespace Entry

variable {r : Record σ α} {name : String} {get : σ → Option (Option γ)} {set : σ → Option γ → σ}
  {read : Item → Decoder γ}

/-- A member that may have no value, and is `null` then. -/
def ofOption (name : String) (known : r.fields.find? (·.name == name) =
      some (Field.of name get set (Item.option read)))
    {form : γ → Value} (reads : ∀ c, ReadsReordered read (form c) c) (notNull : ∀ c, form c ≠ .null)
    (c : Option γ) : Entry r.step :=
  .of (v := (c.map form).getD .null) (b := c) name known <| by
    cases c with
    | some c => exact (reads c).option (notNull c)
    | none => exact .of_scalar (v := .null) trivial (Reads.option_null read)

/-- A member is written if it has a value, or else if it is wanted. -/
def written {step : Item.Step σ} (e : Entry step) (explicit : Bool) (c : Option γ) :
    List (Entry step) :=
  if c.isSome || explicit then [e] else []

theorem written_sublist {step : Item.Step σ} {e : Entry step} {explicit : Bool} {c : Option γ} :
    (e.written explicit c).Sublist [e] := by
  rw [written]
  split
  · exact .refl _
  · exact List.nil_sublist _

theorem map_written {step : Item.Step σ} (e : Entry step) (form : γ → Value) (explicit : Bool)
    (c : Option γ) (valued : e.value = (c.map form).getD .null) :
    (e.written explicit c).map member = Message.member explicit e.name (c.map form) := by
  have single : [e].map member = [(e.name, (c.map form).getD .null)] := by
    rw [List.map_singleton, member, valued]
  cases c with
  | some c => exact single
  | none =>
    cases explicit with
    | true => exact single
    | false => rfl

end Entry

/-- Members that may have no value do not get into the way of one that has to be there. -/
theorem Record.readsReordered_optional {r : Record σ α} {needed first second : Entry r.step}
    {explicit explicit' : Bool} {b : Option β} {c : Option γ} {a : α}
    (apart : [needed, first, second].Pairwise Entry.Apart)
    (unset : ∀ e ∈ [needed, first, second], e.isSet r.empty = false)
    (complete : r.finish missing (Entry.after
      (needed :: (first.written explicit b ++ second.written explicit' c)) r.empty) = .ok a) :
    ReadsReordered r.read (.object (needed.member ::
      ((first.written explicit b).map Entry.member ++
        (second.written explicit' c).map Entry.member))) a := by
  have inside : (needed :: (first.written explicit b ++ second.written explicit' c)).Sublist
      [needed, first, second] :=
    .cons_cons needed (Entry.written_sublist.append Entry.written_sublist)
  have read := Record.readsReordered (apart.sublist inside)
    (fun e written => unset e (inside.subset written)) complete
  rwa [List.map_cons, List.map_append] at read

/-- A tag that can stand alone may have `null` for its content. -/
theorem Tagged.readsReordered_absent (t : Tagged τ α) (tag : τ) {name : String} {a : α}
    (known : t.names.lookup name = some tag) (distinct : t.content ≠ t.tag)
    (alone : t.alone tag = some a) {expected : String}
    (nothing : t.read tag = fun item => do item.nothing expected; pure a) (explicit : Bool) :
    ReadsReordered t.readItem
      (.object ((t.tag, .text name) :: Message.absent explicit t.content)) a := by
  cases explicit with
  | false => exact readsReordered_alone t tag known alone
  | true =>
    apply readsReordered_content t tag known distinct
    rw [nothing]
    exact .of_scalar (v := .null) trivial ((Reads.nothing expected).map fun _ => a)

end Json

/-! ## Arguments -/

instance : LawfulMessage HashAlgorithm where
  levels := 0
  fits _ hash := Value.fits_text 0 hash.keyword
  reads _ hash :=
    .of_scalar (v := .text hash.keyword) trivial (by cases hash <;> exact Reads.choice rfl)

/-- The forms of a salt length. -/
def SaltLength.form (e : Explicit) : SaltLength → Value
  | auto => .object (("kind", .text "auto") :: Message.absent e.bytes "bytes")
  | equalsHash => .object (("kind", .text "equals_hash") :: Message.absent e.bytes "bytes")
  | bytes n => Message.toValue (bytes n)

instance : LawfulMessage SaltLength where
  form := SaltLength.form
  form_default salt := by cases salt <;> rfl
  levels := 1
  fits e salt := by
    cases salt <;> exact Value.fits_object (by simp)
  reads e salt := by
    have distinct : SaltLength.tagged.content ≠ SaltLength.tagged.tag := by decide
    cases salt with
    | auto => exact SaltLength.tagged.readsReordered_absent .auto rfl distinct rfl rfl e.bytes
    | equalsHash =>
      exact SaltLength.tagged.readsReordered_absent .equalsHash rfl distinct rfl rfl e.bytes
    | bytes n =>
      exact SaltLength.tagged.readsReordered_content .bytes rfl distinct
        ((Message.reads_word64 "usize" n).map SaltLength.bytes)

namespace SignerOpts

/-- The forms of options. -/
def form (e : Explicit) : SignerOpts → Value
  | hash algorithm => Message.toValue (hash algorithm)
  | pss algorithm saltLength => .object
      [("type", .text "pss"), ("hash", Message.toValue algorithm),
        ("salt_length", saltLength.form e)]

theorem reads_hash (e : Explicit) (algorithm : HashAlgorithm) :
    ReadsReordered hashRecord.read (.object [("hash", Message.toValue algorithm)])
      (hash algorithm) := by
  let only : Entry hashRecord.step := .of "hash" rfl (LawfulMessage.reads e algorithm)
  have apart : [only].Pairwise Entry.Apart := List.pairwise_singleton _ _
  exact Record.readsReordered apart (List.forall_mem_singleton.mpr rfl) rfl

theorem reads_pss (e : Explicit) (algorithm : HashAlgorithm) (saltLength : SaltLength) :
    ReadsReordered pssRecord.read
      (.object [("hash", Message.toValue algorithm), ("salt_length", saltLength.form e)])
      (pss algorithm saltLength) := by
  let first : Entry pssRecord.step := .of "hash" rfl (LawfulMessage.reads e algorithm)
  let second : Entry pssRecord.step :=
    .of "salt_length" rfl (LawfulMessage.reads e saltLength)
  have apart : Entry.Apart first second := ⟨fun _ => rfl, fun _ => rfl, fun _ => rfl⟩
  exact Record.readsReordered (List.pairwise_pair.mpr apart)
    (List.forall_mem_cons.mpr ⟨rfl, List.forall_mem_singleton.mpr rfl⟩) rfl

end SignerOpts

instance : LawfulMessage SignerOpts where
  form := SignerOpts.form
  form_default opts := by
    rcases opts with _ | ⟨algorithm, _ | _ | _⟩ <;> rfl
  levels := 2
  fits e opts := by
    have algorithm (hash : HashAlgorithm) : (Message.toValue hash).Fits 1 :=
      Value.fits_text 1 hash.keyword
    have salt (saltLength : SaltLength) : (saltLength.form e).Fits 1 :=
      LawfulMessage.fits (α := SaltLength) e saltLength
    cases opts <;> exact Value.fits_object (by simp [algorithm, salt])
  reads e opts := by
    cases opts with
    | hash algorithm =>
      exact SignerOpts.inlined.readsReordered .hash rfl (by simp [SignerOpts.inlined])
        (SignerOpts.reads_hash e algorithm)
    | pss algorithm saltLength =>
      exact SignerOpts.inlined.readsReordered .pss rfl (by simp [SignerOpts.inlined])
        (SignerOpts.reads_pss e algorithm saltLength)

theorem HashAlgorithm.toValue_ne_null (hash : HashAlgorithm) : Message.toValue hash ≠ .null :=
  nofun

theorem SignerOpts.form_ne_null (e : Explicit) (opts : SignerOpts) : opts.form e ≠ .null := by
  cases opts <;> nofun

namespace SignArgs

/-- The forms of the arguments. -/
def form (e : Explicit) (args : SignArgs) : Value := .object <|
  ("digest", Message.bytesValue args.digest) ::
    (Message.member e.hash "hash" (args.hash.map Message.toValue) ++
      Message.member e.opts "opts" (args.opts.map (SignerOpts.form e)))

/-- Arguments to sign are read from any of their forms; the draft differs with the members that are
there, the arguments do not. -/
theorem reads_record (e : Explicit) (args : SignArgs) :
    ReadsReordered record.read (args.form e) args := by
  let digest : Entry record.step := .of "digest" rfl (Message.reads_bytes args.digest)
  let hash : Entry record.step :=
    .ofOption "hash" rfl (LawfulMessage.reads e) HashAlgorithm.toValue_ne_null args.hash
  let opts : Entry record.step :=
    .ofOption "opts" rfl (LawfulMessage.reads e) (SignerOpts.form_ne_null e) args.opts
  have apart : [digest, hash, opts].Pairwise Entry.Apart := by
    apply Entry.pairwise_triple <;> exact ⟨fun _ => rfl, fun _ => rfl, fun _ => rfl⟩
  have unset : ∀ entry ∈ [digest, hash, opts], entry.isSet record.empty = false := by
    simp only [List.forall_mem_cons]
    exact ⟨rfl, rfl, rfl, nofun⟩
  have complete : record.finish missing (Entry.after
      (digest :: (hash.written e.hash args.hash ++ opts.written e.opts args.opts)) record.empty) =
        .ok args := by
    rcases args with ⟨octets, algorithm, options⟩
    rcases e with ⟨_ | _, _ | _, _⟩ <;> cases algorithm <;> cases options <;> rfl
  have read := Record.readsReordered_optional apart unset complete
  rwa [hash.map_written Message.toValue e.hash args.hash rfl,
    opts.map_written (SignerOpts.form e) e.opts args.opts rfl] at read

end SignArgs

instance : LawfulMessage SignArgs where
  form := SignArgs.form
  form_default args := by
    rcases args with ⟨_, _ | _, _ | _ | ⟨_, _ | _ | _⟩⟩ <;> rfl
  levels := 3
  fits e args := by
    have opts (options : SignerOpts) : (options.form e).Fits 2 :=
      LawfulMessage.fits (α := SignerOpts) e options
    have algorithm (hash : HashAlgorithm) : (Message.toValue hash).Fits 2 :=
      Value.fits_text 2 hash.keyword
    exact Value.fits_object (by simp [Message.bytesValue, opts, algorithm])
  reads := SignArgs.reads_record

namespace CipherArgs

theorem reads_record (expected : String) {name : String} (other : name ≠ "hash")
    (args : CipherArgs) :
    ReadsReordered (record expected name).read (args.toValue name) args := by
  have knownData : (record expected name).fields.find? (·.name == name) =
      some (Field.of name (·.data) (fun draft value => { draft with data := some value })
        Message.readBytes) := by
    simp [record, Field.of]
  have knownHash : (record expected name).fields.find? (·.name == "hash") =
      some (Field.of "hash" (·.hash) (fun draft value => { draft with hash := some value })
        Message.read) := by
    simp [record, Field.of, other]
  let data : Entry (record expected name).step :=
    .of name knownData (Message.reads_bytes args.data)
  let hash : Entry (record expected name).step :=
    .of "hash" knownHash (LawfulMessage.reads {} args.hash)
  have apart : Entry.Apart data hash := ⟨fun _ => rfl, fun _ => rfl, fun _ => rfl⟩
  exact Record.readsReordered (List.pairwise_pair.mpr apart)
    (List.forall_mem_cons.mpr ⟨rfl, List.forall_mem_singleton.mpr rfl⟩) rfl

theorem fits_toValue (name : String) (args : CipherArgs) : (args.toValue name).Fits 1 := by
  have algorithm : (Message.toValue args.hash).Fits 0 := Value.fits_text 0 args.hash.keyword
  exact Value.fits_object (by simp [Message.bytesValue, algorithm])

end CipherArgs

instance : LawfulMessage EncryptArgs where
  levels := 1
  fits _ args := args.toCipherArgs.fits_toValue "plaintext"
  reads _ args := (args.toCipherArgs.reads_record _ (by decide)).map EncryptArgs.mk

instance : LawfulMessage DecryptArgs where
  levels := 1
  fits _ args := args.toCipherArgs.fits_toValue "ciphertext"
  reads _ args := (args.toCipherArgs.reads_record _ (by decide)).map DecryptArgs.mk

/-! ## Calls and replies -/

/-- The forms of a call. -/
def Call.form (e : Explicit) : Call → Value
  | certificateChain =>
    .object (("method", .text "certificate_chain") :: Message.absent e.params "params")
  | publicKey => .object (("method", .text "public") :: Message.absent e.params "params")
  | sign args => .object [("method", .text "sign"), ("params", args.form e)]
  | encrypt args => Message.toValue (encrypt args)
  | decrypt args => Message.toValue (decrypt args)

instance : LawfulMessage Call where
  form := Call.form
  form_default call := by
    cases call with
    | sign args =>
      have sent : args.form {} = Message.toValue args := LawfulMessage.form_default args
      rw [Call.form, sent]
      rfl
    | _ => rfl
  levels := 4
  fits e call := by
    have sign (args : SignArgs) : (args.form e).Fits 3 :=
      LawfulMessage.fits (α := SignArgs) e args
    have encrypt (args : EncryptArgs) : (Message.toValue args).Fits 3 :=
      LawfulMessage.fits_of (by decide) e args
    have decrypt (args : DecryptArgs) : (Message.toValue args).Fits 3 :=
      LawfulMessage.fits_of (by decide) e args
    cases call <;> exact Value.fits_object (by simp [sign, encrypt, decrypt])
  reads e call := by
    have distinct : Call.tagged.content ≠ Call.tagged.tag := by decide
    cases call with
    | certificateChain =>
      exact Call.tagged.readsReordered_absent .certificateChain rfl distinct rfl rfl e.params
    | publicKey => exact Call.tagged.readsReordered_absent .publicKey rfl distinct rfl rfl e.params
    | sign args =>
      apply Call.tagged.readsReordered_content .sign rfl distinct
      exact (LawfulMessage.reads (α := SignArgs) e args).map Call.sign
    | encrypt args =>
      apply Call.tagged.readsReordered_content .encrypt rfl distinct
      exact (LawfulMessage.reads e args).map Call.encrypt
    | decrypt args =>
      apply Call.tagged.readsReordered_content .decrypt rfl distinct
      exact (LawfulMessage.reads e args).map Call.decrypt

instance : LawfulMessage Reply where
  levels := 2
  fits _ reply := by
    have list (chain : List Bytes) : (Value.list (chain.map Message.bytesValue)).Fits 1 :=
      Value.fits_list (by simp [Message.bytesValue])
    cases reply <;> exact Value.fits_object (by simp [Message.bytesValue, list])
  reads _ reply := by
    have distinct : Reply.tagged.content ≠ Reply.tagged.tag := by decide
    cases reply with
    | certificateChain chain =>
      apply Reply.tagged.readsReordered_content .certificateChain rfl distinct
      exact (Message.reads_byteList chain).map Reply.certificateChain
    | publicKey key =>
      apply Reply.tagged.readsReordered_content .publicKey rfl distinct
      exact (Message.reads_bytes key).map Reply.publicKey
    | signature octets =>
      apply Reply.tagged.readsReordered_content .signature rfl distinct
      exact (Message.reads_bytes octets).map Reply.signature
    | ciphertext octets =>
      apply Reply.tagged.readsReordered_content .ciphertext rfl distinct
      exact (Message.reads_bytes octets).map Reply.ciphertext
    | plaintext octets =>
      apply Reply.tagged.readsReordered_content .plaintext rfl distinct
      exact (Message.reads_bytes octets).map Reply.plaintext

theorem Reply.toValue_ne_null (reply : Reply) : Message.toValue reply ≠ .null := by
  cases reply <;> nofun

/-! ## Requests and responses -/

namespace Request

/-- The forms of a request. -/
def form (e : Explicit) (request : Request) : Value := .object
  [("id", .natural request.id.toNat), ("version", .natural request.version.toNat),
    ("call", request.call.form e)]

theorem reads_record (e : Explicit) (request : Request) :
    ReadsReordered record.read (request.form e) request := by
  let id : Entry record.step := .of "id" rfl (Message.reads_word64 "u64" request.id)
  let version : Entry record.step := .of "version" rfl (Message.reads_word32 request.version)
  let call : Entry record.step := .of "call" rfl (LawfulMessage.reads (α := Call) e request.call)
  have apart : [id, version, call].Pairwise Entry.Apart := by
    apply Entry.pairwise_triple <;> exact ⟨fun _ => rfl, fun _ => rfl, fun _ => rfl⟩
  have unset : ∀ entry ∈ [id, version, call], entry.isSet record.empty = false := by
    simp only [List.forall_mem_cons]
    exact ⟨rfl, rfl, rfl, nofun⟩
  exact Record.readsReordered apart unset rfl

end Request

instance : LawfulMessage Request where
  form := Request.form
  form_default request := by
    have sent : request.call.form {} = Message.toValue request.call :=
      LawfulMessage.form_default request.call
    rw [Request.form, sent]
    rfl
  levels := 5
  fits e request := by
    have call : (request.call.form e).Fits 4 := LawfulMessage.fits (α := Call) e request.call
    exact Value.fits_object (by simp [call])
  reads := Request.reads_record

namespace Response

/-- The forms of a response. -/
def form (e : Explicit) (response : Response) : Value := .object <|
  ("id", .natural response.id.toNat) ::
    (Message.member e.result "result" (response.result.map Message.toValue) ++
      Message.member e.error "error" (response.error.map Value.text))

theorem reads_record (e : Explicit) (response : Response) :
    ReadsReordered record.read (response.form e) response := by
  let id : Entry record.step := .of "id" rfl (Message.reads_word64 "u64" response.id)
  let result : Entry record.step :=
    .ofOption "result" rfl (LawfulMessage.reads e) Reply.toValue_ne_null response.result
  let error : Entry record.step :=
    .ofOption "error" rfl (fun message => .of_scalar (v := .text message) trivial
      (Reads.text "a string" message)) nofun response.error
  have apart : [id, result, error].Pairwise Entry.Apart := by
    apply Entry.pairwise_triple <;> exact ⟨fun _ => rfl, fun _ => rfl, fun _ => rfl⟩
  have unset : ∀ entry ∈ [id, result, error], entry.isSet record.empty = false := by
    simp only [List.forall_mem_cons]
    exact ⟨rfl, rfl, rfl, nofun⟩
  have complete : record.finish missing (Entry.after
      (id :: (result.written e.result response.result ++ error.written e.error response.error))
        record.empty) = .ok response := by
    rcases response with ⟨n, reply, message⟩
    rcases e with ⟨_, _, _, _, _ | _, _ | _⟩ <;> cases reply <;> cases message <;> rfl
  have read := Record.readsReordered_optional apart unset complete
  rwa [result.map_written Message.toValue e.result response.result rfl,
    error.map_written Value.text e.error response.error rfl] at read

end Response

instance : LawfulMessage Response where
  form := Response.form
  form_default response := by
    rcases response with ⟨_, _ | _, _ | _⟩ <;> rfl
  levels := 3
  fits e response := by
    have reply (reply : Reply) : (Message.toValue reply).Fits 2 := LawfulMessage.fits e reply
    exact Value.fits_object (by simp [reply])
  reads := Response.reads_record

namespace Message

/-- **Requests and responses are read in every form**: with the members of all objects in any order,
with blanks between the parts and at both ends, and with any of the members without a value there
as `null`. -/
theorem decode_requests_responses (e : Explicit) {v : Value} {before text after : Bytes}
    (blankBefore : Gap before) (spelled : Spells v text) (blankAfter : Gap after) {origin : Origin}
    (whole : origin.Whole) :
    (∀ request : Request, Reordered (request.form e) v →
      decode Request origin (before ++ (text ++ after)) = .ok request) ∧
    (∀ response : Response, Reordered (response.form e) v →
      decode Response origin (before ++ (text ++ after)) = .ok response) := by
  constructor
  · intro request other
    exact decode_of_reordered (α := Request) other blankBefore spelled blankAfter whole
  · intro response other
    exact decode_of_reordered (α := Response) other blankBefore spelled blankAfter whole

/-- A request for a signature by RSASSA-PSS and a response, in all of whose objects the first member
comes last: the method stands behind the parameters, and the type behind the options. -/
theorem decode_rotated :
    decode Request .memory (Bytes.ofText " " ++ (Value.compact (.object
      [("version", .natural 1),
        ("call", .object
          [("params", .object
            [("hash", .null),
              ("opts", .object
                [("hash", .text "sha256"),
                  ("salt_length", .object [("bytes", .natural 32), ("kind", .text "bytes")]),
                  ("type", .text "pss")]),
              ("digest", bytesValue [1, 2])]),
            ("method", .text "sign")]),
        ("id", .natural 7)]) ++ Bytes.ofText "\n")) =
      .ok ⟨7, 1, .sign ⟨[1, 2], none, some (.pss .sha256 (.bytes 32))⟩⟩ ∧
    decode Response .memory (Bytes.ofText " " ++ (Value.compact (.object
      [("result", .object [("value", bytesValue [3]), ("type", .text "signature")]),
        ("error", .null), ("id", .natural 7)]) ++ Bytes.ofText "\n")) =
      .ok (.ok 7 (.signature [3])) := by
  have blank : Gap (Bytes.ofText " ") := by unfold Gap; decide +kernel
  have newline : Gap (Bytes.ofText "\n") := by unfold Gap; decide +kernel
  have whole : Origin.memory.Whole := trivial
  have small : 7 < UInt64.size ∧ 32 < UInt64.size := by decide
  constructor
  · refine (decode_requests_responses { hash := true } blank (spells_compact ?_) newline
      whole).1 _ ?_
    · simp [Value.Plain, Value.PlainMembers, Value.natural, bytesValue, small]
    have salt : Reordered (SaltLength.form {} (.bytes 32))
        (.object [("bytes", .natural 32), ("kind", .text "bytes")]) :=
      .rotate (.refl _)
    have opts : Reordered (SignerOpts.form {} (.pss .sha256 (.bytes 32))) (.object _) :=
      .rotate (.cons (.refl _) (.cons salt (.refl _)))
    refine .rotate (.cons (.refl _) (.cons (.rotate (.cons ?_ (.refl _))) (.refl _)))
    exact .rotate (.cons (.refl _) (.cons opts (.refl _)))
  · refine (decode_requests_responses { error := true } blank (spells_compact ?_) newline
      whole).2 _ ?_
    · simp [Value.Plain, Value.PlainMembers, Value.natural, bytesValue, small]
    exact .rotate (.cons (.rotate (.refl _)) (.refl _))

end Message

end RemoteSigner
