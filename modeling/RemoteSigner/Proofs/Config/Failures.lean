import RemoteSigner.FileSystem.Tree
import RemoteSigner.Proofs.Config.Location
import RemoteSigner.Proofs.Json.PromptReaders

/-!
# Configuration files that fail

The file of a configuration may fail to be opened, or fail while it is read.  A file that can not be
opened is reported with its path and the failure.  One that fails while it is read is reported as no
configuration, with the failure in place of what is wrong with it: the decoder reads the file
itself, and whatever it complains about is passed on as a fault of the contents.  Only if the octets
before the failure are the beginning of no configuration, something else may be wrong.

## Main results

* `Document.promptReader`: a configuration is read promptly
* `Document.load_eq_ioPath_iff`: what is reported with the path and the failure
* `Document.load_of_unread`: what is reported of a file that can not be read to its end
* `Document.load_failures`: what is reported of a file, however it fails
-/

namespace RemoteSigner.Config

open Json

/-! ## Reading promptly -/

theorem Libs.promptReader : PromptReader record.read :=
  record.promptReader ⟨(promptReader_text _).field _ _ _, (promptReader_text _).option.field _ _ _,
    (promptReader_text _).option.field _ _ _⟩

theorem Software.promptReader : PromptReader record.read :=
  record.promptReader ⟨(promptReader_text _).field _ _ _, (promptReader_text _).field _ _ _⟩

theorem Pkcs11.promptReader : PromptReader record.read :=
  record.promptReader ⟨(promptReader_text _).field _ _ _, (promptReader_text _).field _ _ _,
    (promptReader_text _).field _ _ _, (promptReader_text _).field _ _ _⟩

theorem Keychain.promptReader : PromptReader record.read :=
  record.promptReader ((promptReader_text _).field _ _ _)

theorem WindowsStore.promptReader : PromptReader record.read :=
  record.promptReader ⟨(promptReader_text _).field _ _ _, (promptReader_text _).field _ _ _,
    (promptReader_text _).field _ _ _⟩

theorem Keystores.promptReader : PromptReader record.read :=
  record.promptReader ⟨Software.promptReader.option.field _ _ _,
    Pkcs11.promptReader.option.field _ _ _, Keychain.promptReader.option.field _ _ _,
    WindowsStore.promptReader.option.field _ _ _⟩

namespace Document

theorem promptReader : PromptReader record.read :=
  record.promptReader ⟨Libs.promptReader.field _ _ _, Keystores.promptReader.field _ _ _⟩

/-! ## What is reported -/

variable {files : FileSystem} {path : Bytes} {file : File} {failure : IoError}

theorem load_of_read (opened : files path = .ok file) (read : file.failure = none) :
    Document.load files path =
      (Message.decode Document .stream file.bytes).mapError (.json path) := by
  simp only [Document.load, opened, ofFile, read]

/-- Of a file that can not be read to its end, the failure is reported as if it were something wrong
with the contents; something else is reported only where nothing could be right. -/
theorem load_of_unread (opened : files path = .ok file) (unread : file.failure = some failure) :
    ∃ error, Document.load files path = .error (.json path error) ∧
      (error = .unreadable failure.message ∨
        ∀ more, ∃ error',
          Message.decode Document .stream (file.bytes ++ more) = .error error') := by
  obtain ⟨error, broken, cause⟩ :=
    (promptReader maxLevels).decode failure.message file.bytes
  refine ⟨error, ?_, cause⟩
  have refused : Message.decode Document (.broken failure.message) file.bytes = .error error :=
    broken
  simp only [Document.load, opened, ofFile, unread, refused]
  rfl

theorem load_of_unopened {error : IoError} (unopened : files path = .error error) :
    Document.load files path = .error (if error.kind = .notFound then .unavailable
      else .ioPath path "opening the config file" error) := by
  rw [Document.load, unopened]
  dsimp only
  split <;> rfl

/-- A file that has been opened is not reported with its path, whatever comes of reading it. -/
theorem not_ioPath_of_opened (opened : files path = .ok file) {place : Bytes} {context : String}
    {error : IoError} : Document.load files path ≠ .error (.ioPath place context error) := by
  intro said
  cases unread : file.failure with
  | none =>
    rw [load_of_read opened unread] at said
    cases decoded : Message.decode Document .stream file.bytes <;> rw [decoded] at said <;>
      cases said
  | some failure =>
    obtain ⟨_, reported, -⟩ := load_of_unread opened unread
    cases reported.symm.trans said

/-- Only failures of opening are reported with the path. -/
theorem load_eq_ioPath_iff {place : Bytes} {context : String} {error : IoError} :
    Document.load files path = .error (.ioPath place context error) ↔
      place = path ∧ context = "opening the config file" ∧
        files path = .error error ∧ error.kind ≠ .notFound := by
  constructor
  · intro said
    cases opened : files path with
    | ok file => exact absurd said (not_ioPath_of_opened opened)
    | error failure =>
      rw [load_of_unopened opened] at said
      split_ifs at said with missing
      · cases said
      · cases said
        exact ⟨rfl, rfl, rfl, missing⟩
  · rintro ⟨rfl, rfl, unopened, other⟩
    rw [load_of_unopened unopened, if_neg other]

/-- However a file fails: a failure of opening is reported with the path, unless nothing is found
there; of a file that is read to its end, the decoder's error is reported; and of one that is not,
the failure of reading is reported as an error of the decoder, unless no configuration begins with
the octets that have been read. -/
theorem load_failures (files : FileSystem) (path : Bytes) :
    (∀ place context error, Document.load files path = .error (.ioPath place context error) ↔
      place = path ∧ context = "opening the config file" ∧
        files path = .error error ∧ error.kind ≠ .notFound) ∧
    (Document.load files path = .error .unavailable ↔
      ∃ error, files path = .error error ∧ error.kind = .notFound) ∧
    (∀ file, files path = .ok file → file.failure = none →
      Document.load files path =
        (Message.decode Document .stream file.bytes).mapError (.json path)) ∧
    ∀ file failure, files path = .ok file → file.failure = some failure →
      ∃ error, Document.load files path = .error (.json path error) ∧
        (error = .unreadable failure.message ∨
          ∀ more, ∃ error',
            Message.decode Document .stream (file.bytes ++ more) = .error error') :=
  ⟨fun _ _ _ => load_eq_ioPath_iff, load_eq_unavailable_iff, fun _ => load_of_read,
    fun _ _ => load_of_unread⟩

/-- A current directory in which a directory has the name of a configuration. -/
def directoryInPlace : FileSystem :=
  Tree.openFile ([.directory [(fileName, .directory [])]] : List (Tree Unit))

/-- A directory can be opened; nothing can be read of it, and a configuration may follow nothing. -/
theorem load_failures_directory :
    directoryInPlace fileName = .ok ⟨[], some Tree.isDirectory⟩ ∧
      Message.decode Document .stream ([] ++ [0x7B, 0x7D]) = .ok {} ∧
      Document.load directoryInPlace fileName =
        .error (.json fileName (.unreadable "Is a directory (os error 21)")) := by
  have opened : directoryInPlace fileName = .ok ⟨[], some Tree.isDirectory⟩ := rfl
  have begun : Message.decode Document .stream ([] ++ [0x7B, 0x7D]) = .ok {} := by decide +kernel
  refine ⟨opened, begun, ?_⟩
  obtain ⟨error, reported, rfl | hopeless⟩ :=
    (load_failures directoryInPlace fileName).2.2.2 _ _ opened rfl
  · exact reported
  · obtain ⟨error', refused⟩ := hopeless [0x7B, 0x7D]
    cases begun.symm.trans refused

/-- That a file can not be read to its end is not reported with the path, also where a configuration
begins with the octets that can be read. -/
theorem not_load_eq_ioPath_of_unread :
    ¬ ∀ (files : FileSystem) (path : Bytes) (file : File) (failure : IoError),
      files path = .ok file → file.failure = some failure →
      (∃ more document, more ≠ [] ∧
        Message.decode Document .stream (file.bytes ++ more) = .ok document) →
      ∃ context, Document.load files path = .error (.ioPath path context failure) := by
  intro claimed
  have begun : Message.decode Document .stream ([] ++ [0x7B, 0x7D]) = .ok {} := by decide +kernel
  obtain ⟨context, reported⟩ := claimed directoryInPlace fileName ⟨[], some Tree.isDirectory⟩
    Tree.isDirectory rfl rfl ⟨_, _, by simp, begun⟩
  obtain ⟨-, -, unopened, -⟩ := load_eq_ioPath_iff.mp reported
  cases unopened

end Document

end RemoteSigner.Config
