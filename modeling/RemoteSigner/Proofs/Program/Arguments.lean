import RemoteSigner.Proofs.Client.Handshake
import RemoteSigner.Proofs.Config.Location
import RemoteSigner.Proofs.Program.Logging

/-!
# What a command line names

A client starts the signer with one argument, the path of the configuration.  The signer looks for
options on its command line all the same, so it does not take every path that it is given: one that
begins with a dash is a path only behind the mark that ends the options, or if it is a dash and
nothing else.  A client does not write that mark.

## Main definitions

* `CommandLine.IsOption`: arguments that are read as options
* `CommandLine.Names`: command lines and the path that they name
* `Host.RunsSigner`: hosts that start the signer program

## Main results

* `CommandLine.read_eq_ok_iff`: the path on a command line
* `Client.names_resolvePath`: which paths of clients get to the signer
* `Client.not_read_resolvePath`: a path that does not, and a second argument that does no harm
-/

namespace RemoteSigner

/-! ## Command lines -/

namespace CommandLine

/-- The argument that ends the options. -/
def endMark : Bytes := [0x2D, 0x2D]

/-- An argument is read as an option: it is a dash with something behind it. -/
def IsOption (argument : Bytes) : Prop := ∃ b rest, argument = 0x2D :: b :: rest

/-- A command line names a path. -/
inductive Names : List Bytes → Bytes → Prop where
  /-- The path stands alone. -/
  | alone {path : Bytes} (some : path ≠ []) (plain : ¬ IsOption path) : Names [path] path
  /-- The options end behind the path. -/
  | before {path : Bytes} (some : path ≠ []) (plain : ¬ IsOption path) :
      Names [path, endMark] path
  /-- The options end in front of the path, which may look like one then. -/
  | behind {path : Bytes} (some : path ≠ []) : Names [endMark, path] path

variable {argument path : Bytes} {arguments rest : List Bytes} {found result : Option Bytes}

theorem classify_of_plain (plain : ¬ IsOption argument) : classify argument = .value := by
  unfold classify
  split
  · rfl
  · exact absurd ⟨_, _, rfl⟩ plain
  · exact absurd ⟨_, _, rfl⟩ plain
  · exact absurd ⟨_, _, rfl⟩ plain
  · rfl

theorem classify_of_isOption (option : IsOption argument) :
    argument = endMark ∨ ∃ fault, classify argument = .flag fault := by
  obtain ⟨b, rest, rfl⟩ := option
  unfold classify
  split
  · next same => cases same
  · next same => exact .inl same
  · split_ifs <;> exact .inr ⟨_, rfl⟩
  · split_ifs <;> exact .inr ⟨_, rfl⟩
  · next other => exact absurd rfl (other _ _)

/-! ### One argument -/

theorem readFrom_plain_cons (plain : ¬ IsOption argument) :
    readFrom true found (argument :: rest) = take found argument >>= (readFrom true · rest) := by
  rw [readFrom, if_pos rfl, classify_of_plain plain]

theorem readFrom_endMark_cons :
    readFrom true found (endMark :: rest) = readFrom false found rest := rfl

theorem readFrom_option_cons (option : IsOption argument) (other : argument ≠ endMark) :
    readFrom true found (argument :: rest) ≠ .ok result := by
  obtain same | ⟨fault, flag⟩ := classify_of_isOption option
  · exact absurd same other
  · rw [readFrom, if_pos rfl, flag]
    exact nofun

/-- There is only one path. -/
theorem take_some_bind (next : Option Bytes → Except Fault (Option Bytes)) :
    take (some path) argument >>= next ≠ .ok result := nofun

/-! ### All arguments -/

/-- Behind a path and the end of the options there is nothing. -/
theorem of_readFrom_false_some (ok : readFrom false (some path) arguments = .ok result) :
    arguments = [] ∧ result = some path := by
  rcases arguments with _ | ⟨argument, rest⟩
  · exact ⟨rfl, (Except.ok.inj ok).symm⟩
  · exact absurd ok (take_some_bind _)

/-- Behind the end of the options there is one path, whatever it looks like. -/
theorem of_readFrom_false_none (ok : readFrom false none arguments = .ok (some path)) :
    arguments = [path] := by
  rcases arguments with _ | ⟨argument, rest⟩
  · cases ok
  · have behind : readFrom false (some argument) rest = .ok (some path) := ok
    obtain ⟨rfl, same⟩ := of_readFrom_false_some behind
    rw [Option.some.inj same]

/-- Behind a path there may be the end of the options, and nothing else. -/
theorem of_readFrom_true_some (ok : readFrom true (some path) arguments = .ok result) :
    (arguments = [] ∨ arguments = [endMark]) ∧ result = some path := by
  rcases arguments with _ | ⟨argument, rest⟩
  · exact ⟨.inl rfl, (Except.ok.inj ok).symm⟩
  · by_cases isEnd : argument = endMark
    · rw [isEnd, readFrom_endMark_cons] at ok
      obtain ⟨rfl, same⟩ := of_readFrom_false_some ok
      exact ⟨.inr (isEnd ▸ rfl), same⟩
    · by_cases option : IsOption argument
      · exact absurd ok (readFrom_option_cons option isEnd)
      · rw [readFrom_plain_cons option] at ok
        exact absurd ok (take_some_bind _)

theorem names_of_readFrom (ok : readFrom true none arguments = .ok (some path))
    (some : path ≠ []) : Names arguments path := by
  rcases arguments with _ | ⟨argument, rest⟩
  · cases ok
  · by_cases isEnd : argument = endMark
    · rw [isEnd, readFrom_endMark_cons] at ok
      rw [isEnd, of_readFrom_false_none ok]
      exact .behind some
    · by_cases option : IsOption argument
      · exact absurd ok (readFrom_option_cons option isEnd)
      · rw [readFrom_plain_cons option] at ok
        obtain ⟨rfl | rfl, same⟩ := of_readFrom_true_some ok
        · obtain rfl := Option.some.inj same
          exact .alone some option
        · obtain rfl := Option.some.inj same
          exact .before some option

theorem readFrom_of_names (names : Names arguments path) :
    readFrom true none arguments = .ok (some path) := by
  cases names with
  | alone some plain => exact readFrom_plain_cons plain
  | before some plain => exact readFrom_plain_cons plain
  | behind some => rfl

/-- **The path on a command line.** -/
theorem read_eq_ok_iff : read arguments = .ok path ↔ Names arguments path := by
  rw [read, bind_eq_ok_iff]
  constructor
  · rintro ⟨found, ok, taken⟩
    rcases found with _ | _ | ⟨b, rest⟩
    · cases taken
    · cases taken
    · obtain rfl := Except.ok.inj taken
      exact names_of_readFrom ok (List.cons_ne_nil b rest)
  · intro names
    refine ⟨some path, readFrom_of_names names, ?_⟩
    rcases path with _ | ⟨b, rest⟩
    · cases names <;> contradiction
    · rfl

end CommandLine

/-! ## Signers -/

namespace Program

variable {m : Type → Type} [Monad m] {arguments : List Bytes} {path : Bytes}

/-- The signer uses the path that its command line names, and nothing else of the command line. -/
theorem signer_of_names (names : CommandLine.Names arguments path)
    (wording : CommandLine.Wording) (parent : Int32) (files : FileSystem)
    (serve : Signer.SoftwareKey → ConsoleT m (Except Signer.Error Unit)) :
    signer wording parent files arguments serve = signerAt parent files path serve := by
  rw [signer, CommandLine.read_eq_ok_iff.mpr names]

/-- A signer whose command line names no path leaves its streams alone and fails. -/
theorem runSigner_of_unnamed [LawfulMonad m] (unnamed : ∀ path, ¬ CommandLine.Names arguments path)
    (wording : CommandLine.Wording) (draw : Nat → m Bytes) (env : Environment) (files : FileSystem)
    (t : Wire.Transport) :
    Run.outcome <$> runSigner wording draw env files arguments t = pure (t, 1) := by
  have none : startSigner files arguments = none := by
    rw [Option.eq_none_iff_forall_ne_some]
    intro key loaded
    obtain ⟨path, read, -⟩ := startSigner_eq_some_iff.mp loaded
    exact unnamed path (CommandLine.read_eq_ok_iff.mp read)
  rw [runSigner_outcome, none]
  rfl

theorem written_of_unnamed (unnamed : ∀ path, ¬ CommandLine.Names arguments path)
    {wording : CommandLine.Wording} {draw : Nat → Id Bytes} {env : Environment} {files : FileSystem}
    {t : Wire.Transport} :
    (runSigner wording draw env files arguments t).run.transport.sink.written = t.sink.written :=
  congrArg (fun o => o.1.sink.written) (runSigner_of_unnamed unnamed wording draw env files t)

end Program

/-! ## Clients -/

namespace Client

open CommandLine Config

theorem joinPath_ne_nil (directory : Bytes) {path : Bytes} (some : path ≠ []) :
    joinPath directory path ≠ [] := by
  unfold joinPath
  split_ifs with none
  · exact some
  · exact List.append_ne_nil_of_left_ne_nil none _
  · exact List.append_ne_nil_of_left_ne_nil none _

theorem resolvePath_ne_nil (env : Environment) (explicit : Option Bytes) :
    resolvePath env explicit ≠ [] := by
  have kept {value : Option Bytes} {path : Bytes} (found : nonEmpty value = some path) :
      path ≠ [] := by
    obtain ⟨-, some⟩ := Option.filter_eq_some_iff.mp found
    simpa using some
  rw [resolvePath]
  cases explicitly : nonEmpty explicit with
  | some path => exact kept explicitly
  | none =>
    cases overridden : nonEmpty env.configPath with
    | some path => exact kept overridden
    | none => exact joinPath_ne_nil _ (by decide)

/-- A path alone is named unless it is read as an option. -/
theorem names_singleton_iff {path other : Bytes} (some : path ≠ []) :
    Names [path] other ↔ other = path ∧ ¬ IsOption path := by
  constructor
  · rintro ⟨-, plain⟩
    exact ⟨rfl, plain⟩
  · rintro ⟨rfl, plain⟩
    exact .alone some plain

/-- The programs of a host are the signer, which is started with its configuration as the only
argument, in the environment of the host but for the number of its parent. -/
def Host.RunsSigner (host : Host) (wording : CommandLine.Wording) (draw : Nat → Id Bytes) : Prop :=
  ∀ signer config process, host.launch signer config = .ok process →
    ∃ (t : Wire.Transport) (parent : Int32), t.sink.written = [] ∧
      process.transport.source.Delivers (Program.runSigner wording draw
        { host.environment with parent } host.files [config] t).run.transport.sink.written

/-- No key is opened with a configuration whose path is read as an option.  Its signer writes
nothing, but an opened key begins with two responses. -/
theorem openKey_of_isOption {host : Host} {wording : CommandLine.Wording} {draw : Nat → Id Bytes}
    (runs : host.RunsSigner wording draw)
    {explicit : Option Bytes} (option : IsOption (resolvePath host.environment explicit)) :
    ∃ failure, openKey host explicit = .error failure := by
  cases opened : openKey host explicit with
  | error failure => exact ⟨failure, rfl⟩
  | ok key =>
    obtain ⟨signer, process, started, found⟩ := exists_process_of_openKey opened
    obtain ⟨t, parent, empty, delivers⟩ := runs _ _ _ started
    have unnamed (path : Bytes) : ¬ Names [resolvePath host.environment explicit] path := by
      rw [names_singleton_iff (resolvePath_ne_nil _ _)]
      exact fun both => both.2 option
    rw [Program.written_of_unnamed unnamed, empty] at delivers
    obtain ⟨-, rest, introduces⟩ := (handshake_eq_ok_iff_introduces delivers).mp found
    cases introduces.responses.eq_nil

/-- **What a command line names, and which paths of clients get to the signer.**  The signer runs
with a path exactly if its command line names it, and fails at once otherwise.  A client that starts
it with the path of its configuration as the only argument gets a signer with that very path exactly
if the path is not read as an option; where it is, no key is opened. -/
theorem names_resolvePath {m : Type → Type} [Monad m] [LawfulMonad m] (wording : CommandLine.Wording)
    (draw : Nat → m Bytes) :
    (∀ arguments path, read arguments = .ok path ↔ Names arguments path) ∧
    (∀ arguments path, Names arguments path → ∀ (parent : Int32) (files : FileSystem)
      (serve : Signer.SoftwareKey → ConsoleT m (Except Signer.Error Unit)),
        Program.signer wording parent files arguments serve =
          Program.signerAt parent files path serve) ∧
    (∀ arguments, (∀ path, ¬ Names arguments path) → ∀ env files t,
      Program.Run.outcome <$> Program.runSigner wording draw env files arguments t =
        pure (t, 1)) ∧
    (∀ env explicit path, Names [resolvePath env explicit] path ↔
      path = resolvePath env explicit ∧ ¬ IsOption (resolvePath env explicit)) ∧
    (∀ (host : Host) (draw : Nat → Id Bytes) explicit, host.RunsSigner wording draw →
      IsOption (resolvePath host.environment explicit) →
        ∃ failure, openKey host explicit = .error failure) :=
  ⟨fun _ _ => read_eq_ok_iff, fun _ _ names => Program.signer_of_names names wording,
    fun _ unnamed => Program.runSigner_of_unnamed unnamed wording draw,
    fun _ _ _ => names_singleton_iff (resolvePath_ne_nil _ _),
    fun _ _ _ runs => openKey_of_isOption runs⟩

/-- A path that begins with a dash, behind the mark that ends the options and without it. -/
theorem names_resolvePath_dash :
    let path := Bytes.ofText "-c.json"
    let document : Document := ⟨{ ecp := "signer" }, {}⟩
    let host : Host :=
      { environment := {}
        files := fun _ => .ok { bytes := document.file }
        launch := fun _ config =>
          if config = path then .ok { transport := {} } else .error Tree.missing }
    read [endMark, path] = .ok path ∧ ∃ failure, openKey host (some path) = .error failure := by
  intro path document host
  let wording : CommandLine.Wording := fun _ _ => "unexpected argument"
  let draw : Nat → Id Bytes := fun _ => pure []
  have resolved : resolvePath host.environment (some path) = path := by decide +kernel
  have option : IsOption path := ⟨0x63, Bytes.ofText ".json", by decide +kernel⟩
  obtain ⟨reads, -, -, named, fails⟩ := names_resolvePath wording draw
  have unnamed (other : Bytes) : ¬ Names [path] other := by
    rw [← resolved, named, resolved]
    exact fun both => both.2 option
  have runs : host.RunsSigner wording draw := by
    intro signer config process started
    by_cases atPath : config = path
    · obtain rfl := Except.ok.inj ((if_pos atPath).symm.trans started)
      refine ⟨{}, 0, rfl, ?_⟩
      rw [Program.written_of_unnamed (atPath ▸ unnamed)]
      exact ⟨nofun, rfl⟩
    · cases (if_neg atPath).symm.trans started
  exact ⟨(reads _ _).mpr (.behind (List.cons_ne_nil _ _)),
    fails host draw (some path) runs (resolved ▸ option)⟩

/-- The signer does not take every path of a client, and takes a path with a second argument. -/
theorem not_read_resolvePath :
    (¬ ∀ env explicit, read [resolvePath env explicit] = .ok (resolvePath env explicit)) ∧
      ¬ ∀ arguments path, read arguments = .ok path ↔ arguments = [path] ∧ path ≠ [] := by
  constructor
  · intro all
    have read := all {} (some (Bytes.ofText "-c.json"))
    revert read
    decide +kernel
  · intro all
    let path := Bytes.ofText "c.json"
    have two := (all [endMark, path] path).mp (by decide +kernel)
    exact absurd (congrArg List.length two.1) (by decide)

end Client

end RemoteSigner
