import RemoteSigner.Proofs.Config.Location

/-!
# Signer binaries below the home directory

A path that begins with a mark of the home directory is expanded: the home directory takes the place
of the mark, and what follows the mark stays.  The marks begin with different characters, so it does
not matter which of them is looked for first.  A mark is looked for as a text and not as a component
of the path, so a name that only begins with a mark is expanded too.

## Main definitions

* `IsBelowHome`: paths whose first component is a mark
* `belowHome`: a text behind the home directory

## Main results

* `expandHome_mark`, `expandHome_away`: paths that begin with a mark, and others
* `Document.signerBinary_expands`: the signer binary that a configuration names
* `Document.not_signerBinary_unchanged`: a name that only begins with a mark is not left as it is
-/

namespace RemoteSigner.Config

/-- The first component of a path is a mark of the home directory, and `rest` follows it. -/
def IsBelowHome (path rest : String) : Prop :=
  ∃ mark ∈ ["~", "$HOME", "HOME"], path = mark ++ rest ∧
    (rest = "" ∨ ∃ more, rest = "/" ++ more)

/-- A text behind the home directory, if there is one. -/
def belowHome (home : Option Bytes) (rest : String) : Except Error Bytes :=
  match home with
  | some home => .ok (home ++ Bytes.ofText rest)
  | none => .error .unavailable

/-- A mark is found in front of any rest, as the first octet of a path tells the marks apart. -/
theorem afterHomeMark?_append {mark : Bytes} (known : mark ∈ homeMarks) (rest : Bytes) :
    afterHomeMark? (mark ++ rest) = some rest := by
  have marks : homeMarks = [[0x7E], [0x24, 0x48, 0x4F, 0x4D, 0x45], [0x48, 0x4F, 0x4D, 0x45]] := by
    decide
  rw [marks] at known
  simp only [List.mem_cons, List.not_mem_nil, or_false] at known
  rw [afterHomeMark?, marks]
  rcases known with rfl | rfl | rfl <;> rfl

variable {mark rest path : String}

/-- A path that begins with a mark is what follows it behind the home directory. -/
theorem expandHome_mark (known : mark ∈ ["~", "$HOME", "HOME"]) (home : Option Bytes) :
    expandHome home (Bytes.ofText (mark ++ rest)) = belowHome home rest := by
  have marked := afterHomeMark?_append (List.mem_map_of_mem known) (Bytes.ofText rest)
  rw [Bytes.ofText_append, expandHome, marked]
  rfl

/-- Other paths stay as they are. -/
theorem expandHome_away (away : ¬ BeginsAtHome path) (home : Option Bytes) :
    expandHome home (Bytes.ofText path) = .ok (Bytes.ofText path) := by
  rw [expandHome, (afterHomeMark?_eq_none_iff path).mpr away]

/-- A path that begins with a mark stays as it is only where that mark is what the home directory is
called. -/
theorem belowHome_eq_ok_iff {home : Option Bytes} :
    belowHome home rest = .ok (Bytes.ofText (mark ++ rest)) ↔ home = some (Bytes.ofText mark) := by
  rw [Bytes.ofText_append]
  cases home with
  | none => exact iff_of_false nofun nofun
  | some home =>
    constructor
    · intro same
      rw [List.append_cancel_right (Except.ok.inj same)]
    · intro same
      rw [Option.some.inj same]
      rfl

/-- **The signer binary that a configuration names.**  If it begins with a mark of the home
directory, whether its first component ends there or not, the home directory takes the place of the
mark, and without a home directory there is no signer binary; it comes out as it is only if the mark
is what the home directory is called.  If it begins with no mark, it comes out as it is, with a home
directory and without one. -/
theorem Document.signerBinary_expands {document : Document} (env : Environment)
    (named : document.libs.ecp ≠ "") :
    (∀ mark ∈ ["~", "$HOME", "HOME"], ∀ rest, document.libs.ecp = mark ++ rest →
      document.signerBinary env = belowHome (homeDirectory env) rest ∧
        (document.signerBinary env = .ok (Bytes.ofText document.libs.ecp) ↔
          homeDirectory env = some (Bytes.ofText mark))) ∧
    (¬ BeginsAtHome document.libs.ecp →
      document.signerBinary env = .ok (Bytes.ofText document.libs.ecp)) := by
  rw [signerBinary, if_neg named]
  constructor
  · intro mark known rest same
    rw [same, expandHome_mark known]
    exact ⟨rfl, belowHome_eq_ok_iff⟩
  · intro away
    exact expandHome_away away _

/-- A name that only begins with a mark, with a home directory and without one. -/
theorem Document.signerBinary_expands_longer :
    let document : Document := { libs := { ecp := "HOMEBREW/bin/ecp" } }
    let env : Environment := { home := some (Bytes.ofText "/home/user") }
    document.libs.ecp ≠ "" ∧
      document.signerBinary env = .ok (Bytes.ofText "/home/userBREW/bin/ecp") ∧
        document.signerBinary {} = .error .unavailable := by
  intro document env
  have named : document.libs.ecp ≠ "" := by decide
  have known : "HOME" ∈ ["~", "$HOME", "HOME"] := by decide
  have same : document.libs.ecp = "HOME" ++ "BREW/bin/ecp" := by decide
  have expanded (env : Environment) :=
    ((signerBinary_expands env named).1 "HOME" known "BREW/bin/ecp" same).1
  refine ⟨named, ?_, expanded {}⟩
  rw [expanded env]
  decide

/-- A name that only begins with a mark is not left as it is. -/
theorem Document.not_signerBinary_unchanged :
    ¬ ∀ (document : Document) (env : Environment), document.libs.ecp ≠ "" →
      (∀ rest, IsBelowHome document.libs.ecp rest →
        document.signerBinary env = belowHome (homeDirectory env) rest) ∧
      ((∀ rest, ¬ IsBelowHome document.libs.ecp rest) →
        document.signerBinary env = .ok (Bytes.ofText document.libs.ecp)) := by
  intro unchanged
  let document : Document := { libs := { ecp := "HOMEBREW/bin/ecp" } }
  let env : Environment := { home := some (Bytes.ofText "/home/user") }
  have longer (rest : String) : ¬ IsBelowHome document.libs.ecp rest := by
    rintro ⟨mark, known, same, ends⟩
    have characters : "HOMEBREW/bin/ecp".toList = mark.toList ++ rest.toList := by
      rw [← String.toList_append, ← same]
    simp only [List.mem_cons, List.not_mem_nil, or_false] at known
    rcases known with rfl | rfl | rfl
    · have first : some 'H' = some '~' := congrArg List.head? characters
      cases first
    · have first : some 'H' = some '$' := congrArg List.head? characters
      cases first
    · have fifth : some 'B' = rest.toList.head? :=
        congrArg (fun text => (text.drop 4).head?) characters
      rcases ends with rfl | ⟨more, rfl⟩
      · cases fifth
      · rw [String.toList_append] at fifth
        cases fifth
  have left := (unchanged document env (by decide)).2 longer
  have expanded : document.signerBinary env = .ok (Bytes.ofText "/home/userBREW/bin/ecp") := by
    decide
  cases left.symm.trans expanded

end RemoteSigner.Config
