import RemoteSigner.Proofs.Config.Forms
import RemoteSigner.Proofs.Outcomes

/-!
# Finding the signer binary

The configuration file is the first of three that is named, and the signer binary is what that file
names, with the home directory in place of its mark.  That there is no configuration is said in three
cases only: nothing is found at the path, the file names no signer binary, or it names one below a
home directory that nobody knows.

## Main definitions

* `BeginsAtHome`: paths that begin with a mark of the home directory
* `Document.Unlocated`: configurations whose signer binary can not be located
* `MistypedSigner`: files with something else than a text for the signer binary

## Main results

* `resolvePath_explicit`, `resolvePath_override`, `resolvePath_default`: where the file is
* `Document.load_eq_ok_iff`: when a configuration is read
* `loadSignerBinary_eq_unavailable_iff`: when there is no configuration
* `unreadable_of_mistyped`: a file with a signer binary that is no text is no configuration
-/

namespace RemoteSigner.Config

open Json Decoder

/-! ## Where the file is -/

theorem nonEmpty_some {path : Bytes} (named : path ≠ []) : nonEmpty (some path) = some path := by
  simp [nonEmpty, named]

theorem nonEmpty_eq_none {value : Option Bytes} (unset : value = none ∨ value = some []) :
    nonEmpty value = none := by
  rcases unset with rfl | rfl <;> rfl

variable {env : Environment} {explicit : Option Bytes} {path : Bytes}

theorem resolvePath_explicit (env : Environment) (named : path ≠ []) :
    resolvePath env (some path) = path := by
  rw [resolvePath, nonEmpty_some named]
  rfl

theorem resolvePath_override (unset : explicit = none ∨ explicit = some [])
    (set : env.configPath = some path) (named : path ≠ []) : resolvePath env explicit = path := by
  rw [resolvePath, nonEmpty_eq_none unset, set, nonEmpty_some named]
  rfl

theorem resolvePath_default (unset : explicit = none ∨ explicit = some [])
    (unset' : env.configPath = none ∨ env.configPath = some []) :
    resolvePath env explicit = defaultFile env := by
  rw [resolvePath, nonEmpty_eq_none unset, nonEmpty_eq_none unset']
  rfl

/-! ## Reading the file -/

/-- The file at a path can be opened and read to its end, and is decoded to a configuration. -/
def Document.IsAt (document : Document) (files : FileSystem) (path : Bytes) : Prop :=
  ∃ file, files path = .ok file ∧ file.failure = none ∧
    Message.decode Document .stream file.bytes = .ok document

/-- A configuration is loaded from a file that is read to its end; one whose reading fails is not
decoded. -/
theorem Document.load_eq_ok_iff {files : FileSystem} {document : Document} :
    Document.load files path = .ok document ↔ document.IsAt files path := by
  rw [Document.load, Document.IsAt]
  constructor
  · intro loaded
    split at loaded
    · next file opened =>
      refine ⟨file, opened, ?_⟩
      rw [Document.ofFile, mapError_eq_ok_iff] at loaded
      cases failure : file.failure with
      | none => exact ⟨rfl, by simpa only [failure] using loaded⟩
      | some error =>
        obtain ⟨error', broken⟩ :=
          Decoder.decode_broken (Document.record.read (.next maxLevels)) error.message file.bytes
        simp only [failure] at loaded
        cases broken.symm.trans loaded
    · split at loaded <;> cases loaded
  · rintro ⟨file, opened, whole, decoded⟩
    simp only [opened, Document.ofFile, whole, decoded]
    rfl

/-- That a configuration is not there is said exactly where its file is not found. -/
theorem Document.load_eq_unavailable_iff {files : FileSystem} :
    Document.load files path = .error .unavailable ↔
      ∃ error, files path = .error error ∧ error.kind = .notFound := by
  rw [Document.load]
  cases opened : files path with
  | error error =>
    simp only [Except.error.injEq, exists_eq_left']
    split
    · next missing => exact iff_of_true rfl missing
    · next other =>
      refine iff_of_false ?_ other
      intro said
      cases said
  | ok file =>
    simp only [Document.ofFile, reduceCtorEq, false_and, exists_false, iff_false]
    intro said
    cases opened' : Message.decode Document _ file.bytes <;> rw [opened'] at said <;> cases said

/-! ## The home directory -/

/-- A path begins with a mark of the home directory. -/
def BeginsAtHome (path : String) : Prop :=
  ∃ mark ∈ ["~", "$HOME", "HOME"], ∃ rest, path = mark ++ rest

theorem homeMark_prefix_iff {mark : String} (known : mark ∈ ["~", "$HOME", "HOME"])
    (path : String) :
    Bytes.ofText mark <+: Bytes.ofText path ↔ ∃ rest, path = mark ++ rest := by
  have table : ∀ mark ∈ ["~", "$HOME", "HOME"], (Bytes.ofText mark).all (· < 0x80) = true ∧
      String.ofList ((Bytes.ofText mark).map fun b => Char.ofNat b.toNat) = mark := by decide
  obtain ⟨ascii, same⟩ := table mark known
  rw [Bytes.prefix_ofText_iff (by simpa using ascii), same]

theorem afterHomeMark?_eq_none_iff (path : String) :
    afterHomeMark? (Bytes.ofText path) = none ↔ ¬ BeginsAtHome path := by
  rw [afterHomeMark?, Option.map_eq_none_iff, List.find?_eq_none]
  constructor
  · rintro none ⟨mark, known, rest⟩
    have listed : Bytes.ofText mark ∈ homeMarks := List.mem_map_of_mem known
    exact none _ listed (List.isPrefixOf_iff_prefix.mpr ((homeMark_prefix_iff known path).mpr rest))
  · intro away octets listed begins
    obtain ⟨mark, known, rfl⟩ : ∃ mark ∈ ["~", "$HOME", "HOME"], Bytes.ofText mark = octets :=
      List.mem_map.mp listed
    exact away ⟨mark, known, (homeMark_prefix_iff known path).mp (List.isPrefixOf_iff_prefix.mp begins)⟩

/-- Paths are not expanded exactly if they begin at a home directory that nobody knows. -/
theorem expandHome_cases (home : Option Bytes) (path : String) :
    (expandHome home (Bytes.ofText path) = .error .unavailable ∧ BeginsAtHome path ∧ home = none) ∨
      (∃ signer, expandHome home (Bytes.ofText path) = .ok signer) ∧
        ¬ (BeginsAtHome path ∧ home = none) := by
  rw [expandHome]
  cases marked : afterHomeMark? (Bytes.ofText path) with
  | none =>
    have away := (afterHomeMark?_eq_none_iff path).mp marked
    exact .inr ⟨⟨_, rfl⟩, fun both => away both.1⟩
  | some rest =>
    cases home with
    | none =>
      have begins : BeginsAtHome path := by
        by_contra away
        rw [(afterHomeMark?_eq_none_iff path).mpr away] at marked
        cases marked
      exact .inl ⟨rfl, begins, rfl⟩
    | some home => exact .inr ⟨⟨_, rfl⟩, fun both => nomatch both.2⟩

/-! ## The signer binary -/

/-- The signer binary of a configuration can not be located: none is named, or it is below a home
directory that nobody knows. -/
def Document.Unlocated (document : Document) (env : Environment) : Prop :=
  document.libs.ecp = "" ∨ BeginsAtHome document.libs.ecp ∧ homeDirectory env = none

theorem Document.signerBinary_cases (document : Document) (env : Environment) :
    (document.signerBinary env = .error .unavailable ∧ document.Unlocated env) ∨
      (∃ signer, document.signerBinary env = .ok signer) ∧ ¬ document.Unlocated env := by
  rw [Document.signerBinary]
  by_cases empty : document.libs.ecp = ""
  · exact .inl ⟨if_pos empty, .inl empty⟩
  · rw [if_neg empty]
    rcases expandHome_cases (homeDirectory env) document.libs.ecp with
      ⟨unknown, both⟩ | ⟨known, notBoth⟩
    · exact .inl ⟨unknown, .inr both⟩
    · exact .inr ⟨known, fun unlocated => unlocated.elim empty notBoth⟩

/-- There is no configuration at a path, or it does not say where the signer binary is. -/
def Unavailable (files : FileSystem) (env : Environment) (path : Bytes) : Prop :=
  (∃ error, files path = .error error ∧ error.kind = .notFound) ∨
    ∃ document : Document, document.IsAt files path ∧ document.Unlocated env

/-- That there is no configuration is said exactly where that is so. -/
theorem loadSignerBinary_eq_unavailable_iff {files : FileSystem} :
    loadSignerBinary files env path = .error .unavailable ↔ Unavailable files env path := by
  rw [loadSignerBinary, Unavailable, ← Document.load_eq_unavailable_iff]
  simp only [← Document.load_eq_ok_iff]
  cases loaded : Document.load files path with
  | error error =>
    change (Except.error error : Except Error Bytes) = _ ↔ _
    simp
  | ok document =>
    change document.signerBinary env = _ ↔ _
    rcases document.signerBinary_cases env with ⟨unknown, unlocated⟩ | ⟨⟨signer, known⟩, located⟩
    · exact iff_of_true unknown (.inr ⟨document, rfl, unlocated⟩)
    · refine iff_of_false (by rw [known]; nofun) ?_
      rintro (missing | ⟨document', same, unlocated⟩)
      · cases missing
      · obtain rfl := Except.ok.inj same
        exact located unlocated

/-- The file at a path is there, but it can not be opened or not be read to its end, or what is in
it is no configuration. -/
def Unreadable (files : FileSystem) (path : Bytes) : Prop :=
  (∃ error, files path = .error error ∧ error.kind ≠ .notFound) ∨
    ∃ file, files path = .ok file ∧
      (file.failure ≠ none ∨ ∃ error, Message.decode Document .stream file.bytes = .error error)

theorem not_isAt_of_unreadable {files : FileSystem} {document : Document}
    (unreadable : Unreadable files path) : ¬ document.IsAt files path := by
  rintro ⟨file, opened, whole, decoded⟩
  rcases unreadable with ⟨error, failed, -⟩ | ⟨file', opened', broken | ⟨error, failed⟩⟩
  · cases failed.symm.trans opened
  · obtain rfl := Except.ok.inj (opened'.symm.trans opened)
    exact broken whole
  · obtain rfl := Except.ok.inj (opened'.symm.trans opened)
    cases failed.symm.trans decoded

theorem not_unavailable_of_unreadable {files : FileSystem} (unreadable : Unreadable files path) :
    ¬ Unavailable files env path := by
  rintro (⟨error, failed, missing⟩ | ⟨document, isAt, -⟩)
  · rcases unreadable with ⟨error', failed', other⟩ | ⟨file, opened, -⟩
    · obtain rfl := Except.error.inj (failed'.symm.trans failed)
      exact other missing
    · cases failed.symm.trans opened
  · exact not_isAt_of_unreadable unreadable isAt

/-- A file that is there holds a configuration or is unreadable. -/
theorem isAt_or_unreadable (files : FileSystem) (path : Bytes) :
    (∃ error, files path = .error error ∧ error.kind = .notFound) ∨
      (∃ document : Document, document.IsAt files path) ∨ Unreadable files path := by
  cases opened : files path with
  | error error =>
    by_cases missing : error.kind = .notFound
    · exact .inl ⟨error, rfl, missing⟩
    · exact .inr (.inr (.inl ⟨error, opened, missing⟩))
  | ok file =>
    by_cases whole : file.failure = none
    · cases decoded : Message.decode Document .stream file.bytes with
      | ok document => exact .inr (.inl ⟨document, file, opened, whole, decoded⟩)
      | error error => exact .inr (.inr (.inr ⟨file, opened, .inr ⟨error, decoded⟩⟩))
    · exact .inr (.inr (.inr ⟨file, opened, .inl whole⟩))

theorem loadSignerBinary_eq_ok_iff {files : FileSystem} {signer : Bytes} :
    loadSignerBinary files env path = .ok signer ↔
      ∃ document : Document, document.IsAt files path ∧ document.signerBinary env = .ok signer := by
  rw [loadSignerBinary, bind_eq_ok_iff]
  simp only [Document.load_eq_ok_iff]

/-- What comes of looking for the signer binary: there is no configuration, or its file is
unreadable, or a path. -/
theorem loadSignerBinary_cases (files : FileSystem) (env : Environment) (path : Bytes) :
    Unavailable files env path ∨ Unreadable files path ∨
      ∃ (document : Document) (signer : Bytes), document.IsAt files path ∧
        document.signerBinary env = .ok signer := by
  rcases isAt_or_unreadable files path with missing | ⟨document, isAt⟩ | unreadable
  · exact .inl (.inl missing)
  · rcases document.signerBinary_cases env with ⟨-, unlocated⟩ | ⟨⟨signer, known⟩, -⟩
    · exact .inl (.inr ⟨document, isAt, unlocated⟩)
    · exact .inr (.inr ⟨document, signer, isAt, known⟩)
  · exact .inr (.inl unreadable)

theorem loadSignerBinary_of_unreadable {files : FileSystem} (env : Environment)
    (unreadable : Unreadable files path) :
    ∃ error, loadSignerBinary files env path = .error error ∧ error.isUnavailable = false := by
  cases loaded : loadSignerBinary files env path with
  | ok signer =>
    obtain ⟨document, isAt, -⟩ := loadSignerBinary_eq_ok_iff.mp loaded
    exact absurd isAt (not_isAt_of_unreadable unreadable)
  | error error =>
    refine ⟨error, rfl, ?_⟩
    cases error with
    | unavailable =>
      have unavailable := loadSignerBinary_eq_unavailable_iff.mp loaded
      exact absurd unavailable (not_unavailable_of_unreadable unreadable)
    | _ => rfl

/-! ## A signer binary that is no text -/

/-- A file gives something else than a text for the signer binary, as a member that may stand
anywhere among the others. -/
def MistypedSigner (octets : Bytes) : Prop :=
  ∃ (document : Document) (before text after libs value : Bytes),
    octets = before ++ (text ++ after) ∧ Gap before ∧
      ObjectWith document.places "libs" libs text ∧
        ObjectWith document.libs.places "ecp" value libs ∧ NoText value

theorem decode_mistyped {octets : Bytes} (mistyped : MistypedSigner octets) :
    ∃ error, Message.decode Document .stream octets = .error error := by
  obtain ⟨document, before, text, after, libs, value, rfl, blank, outer, inner, noText⟩ := mistyped
  have whole : Origin.stream.Whole := trivial
  have stopsNames ⦃gap rest : Bytes⦄ (blank : Gap gap) :
      (Libs.record.read (.next (maxLevels - 1))).Stops .stream (gap ++ (libs ++ rest)) :=
    document.libs.collects.stops whole 125 (Nat.zero_le _) inner rfl
      (fun names new => seen_eq_none _ new)
      (fun gap rest blank => stops_text noText "a string" _ blank rest) blank rest
  have stops := document.collects.stops whole 126 (by decide) outer rfl
    (fun names new => seen_eq_none _ new) stopsNames blank after
  exact (stops.bind _).decode

theorem unreadable_of_mistyped {files : FileSystem} {file : File} (opened : files path = .ok file)
    (mistyped : MistypedSigner file.bytes) : Unreadable files path :=
  .inr ⟨file, opened, .inr (decode_mistyped mistyped)⟩

end RemoteSigner.Config
