import RemoteSigner.FileSystem.File
import RemoteSigner.Pem.Section
import RemoteSigner.Text.Quoted

/-!
# Reading PEM files

A file is read line by line.  Whatever stands outside of a section is passed over, and so is a
section with unknown words; but a line that begins a section badly, a section that does not end,
and text that stands for nothing are faults.  A section that begins inside another one takes its
place and keeps the text that has been read.

Sections come in their order up to the first fault, so a reader that wants only the first section
of a kind does not care about faults behind it.

## Main definitions

* `scan`: the sections up to the first fault
* `readAll`: all sections of a kind
* `readFirst`: the first section of a kind
-/

namespace RemoteSigner.Pem

/-- What can be wrong with a PEM file. -/
inductive Error where
  /-- There is no section of the kind that is wanted. -/
  | noItemsFound
  /-- The file can not be read. -/
  | io (source : IoError)
  /-- The text of a section stands for nothing. -/
  | base64 (source : TextFault)
  /-- A section with these words does not end. -/
  | missingSectionEnd (words : Bytes)
  /-- A section begins badly. -/
  | illegalSectionStart (line : Bytes)
  deriving DecidableEq, Repr

/-- The fault in words. -/
def Error.message : Error → String
  | noItemsFound => "no items found"
  | io source => "I/O error: " ++ source.message
  | base64 source => "base64 decode error: " ++ source.message
  | missingSectionEnd words =>
      "missing section end marker: " ++ Text.listed (words.map UInt8.toNat)
  | illegalSectionStart line => "illegal section start: " ++ Text.listed (line.map UInt8.toNat)

/-! ## Lines -/

/-- The lines of a text, with the octet that ends each of them, and what follows the last one;
`line` holds the octets of the first line, last first. -/
def splitLines (line : Bytes) : Bytes → List Bytes × Bytes
  | [] => ([], line.reverse)
  | b :: rest =>
    if b = 0x0A ∨ b = 0x0D then
      let (lines, last) := splitLines [] rest
      ((b :: line).reverse :: lines, last)
    else splitLines (b :: line) rest

/-- The lines of a file.  What follows the last line is a line too, unless reading fails there. -/
def linesOf (file : File) : List Bytes :=
  let (lines, last) := splitLines [] file.bytes
  if file.failure.isSome ∨ last.isEmpty then lines else lines ++ [last]

/-! ## Sections -/

/-- Sections up to the end of a file or up to its first fault. -/
structure Contents where
  /-- The sections. -/
  sections : List Section
  /-- The fault. -/
  fault : Option Error
  deriving DecidableEq, Repr

/-- Puts a section in front of the others. -/
def Contents.push (s : Section) (c : Contents) : Contents := { c with sections := s :: c.sections }

/-- Reads lines inside of a section (with its words) or outside of one; `text` holds the lines of
text, last first. -/
def scan (failure : Option IoError) (words : Option Bytes) (text : List Bytes) :
    List Bytes → Contents
  | [] => match failure, words with
    | some error, _ => ⟨[], some (.io error)⟩
    | none, some words => ⟨[], some (.missingSectionEnd words)⟩
    | none, none => ⟨[], none⟩
  | line :: rest =>
    if beginMark.isPrefixOf line then
      match beginWords? line with
      | some words => scan failure (some words) text rest
      | none => ⟨[], some (.illegalSectionStart line)⟩
    else match words with
      | none => scan failure none text rest
      | some words =>
        if (endMark words).isPrefixOf line then
          match Label.of? words with
          | none => scan failure none [] rest
          | some label => match decodeText text.reverse.flatten with
            | .ok contents => (scan failure none [] rest).push ⟨label, contents⟩
            | .error fault => ⟨[], some (.base64 fault)⟩
        else scan failure (some words) (line :: text) rest

/-- The sections of a file. -/
def read (file : File) : Contents := scan file.failure none [] (linesOf file)

/-- All sections of the kinds that are wanted; a fault anywhere in the file counts. -/
def readAll (wanted : Label → Bool) (file : File) : Except Error (List Section) :=
  let contents := read file
  match contents.fault with
  | some fault => .error fault
  | none => .ok (contents.sections.filter (wanted ·.label))

/-- The first section of the kinds that are wanted; a fault behind it does not count. -/
def readFirst (wanted : Label → Bool) (file : File) : Except Error Section :=
  let contents := read file
  match contents.sections.find? (wanted ·.label) with
  | some s => .ok s
  | none => .error (contents.fault.getD .noItemsFound)

end RemoteSigner.Pem
