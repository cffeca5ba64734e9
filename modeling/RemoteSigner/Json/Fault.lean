import RemoteSigner.Octets

/-!
# What can be wrong with a document

A document is read in one pass, and its first problem is reported, be it in the writing
(`malformed`), in the meaning (`unfit`: a value of the wrong kind, a missing or repeated member) or
in the delivery (`unreadable`).

A problem is first known by the number of octets that were still ahead when it was noticed.  Only a
report for a reader turns that number into a line and a column, so that nothing has to be counted
while all goes well.

## Main definitions

* `SyntaxError`, `SyntaxError.message`: the ways to write a document badly
* `Fault`: a problem with what was still ahead
* `Position.of`: the line and the column for that
* `Error`: the problem as it is reported
-/

namespace RemoteSigner.Json

/-- The ways in which a document can be badly written. -/
inductive SyntaxError where
  | endInList | endInObject | endInString | endInValue
  | expectedColon | expectedListSeparator | expectedObjectSeparator | expectedWord | expectedValue
  | invalidEscape | invalidNumber | numberOutOfRange | invalidCharacter | controlCharacter
  | keyNotText | loneSurrogate | trailingComma | trailingCharacters | endOfEscape | nestedTooDeeply
  deriving DecidableEq, Repr

/-- The wording of a syntax error. -/
def SyntaxError.message : SyntaxError → String
  | endInList => "EOF while parsing a list"
  | endInObject => "EOF while parsing an object"
  | endInString => "EOF while parsing a string"
  | endInValue => "EOF while parsing a value"
  | expectedColon => "expected `:`"
  | expectedListSeparator => "expected `,` or `]`"
  | expectedObjectSeparator => "expected `,` or `\x7d`"
  | expectedWord => "expected ident"
  | expectedValue => "expected value"
  | invalidEscape => "invalid escape"
  | invalidNumber => "invalid number"
  | numberOutOfRange => "number out of range"
  | invalidCharacter => "invalid unicode code point"
  | controlCharacter => "control character (\\u0000-\\u001F) found while parsing a string"
  | keyNotText => "key must be a string"
  | loneSurrogate => "lone leading surrogate in hex escape"
  | trailingComma => "trailing comma"
  | trailingCharacters => "trailing characters"
  | endOfEscape => "unexpected end of hex escape"
  | nestedTooDeeply => "recursion limit exceeded"

/-- A problem, with the number of octets that were ahead when it was noticed.  A meaning gets its
place only when the value around it has been left. -/
inductive Fault where
  /-- The document is badly written. -/
  | malformed (error : SyntaxError) (left : Nat)
  /-- The document is well written so far, but does not say what was asked for. -/
  | unfit (message : String) (left : Option Nat)
  /-- The document could not be delivered. -/
  | unreadable (message : String)
  deriving DecidableEq, Repr

/-- Gives a problem of meaning a place, if it has none yet. -/
def Fault.at (left : Nat) : Fault → Fault
  | unfit message none => unfit message (some left)
  | fault => fault

/-- A place in a document, for a reader. -/
structure Position where
  /-- The number of the line, from one. -/
  line : Nat
  /-- How many octets of the line come before the place or end there. -/
  column : Nat
  deriving DecidableEq, Repr

/-- The place in `document` with `left` octets ahead. -/
def Position.of (document : Bytes) (left : Nat) : Position :=
  let read := document.take (document.length - left)
  { line := read.count 0x0A + 1
    column := (read.reverse.takeWhile (· != 0x0A)).length }

/-- The position in words. -/
def Position.message (p : Position) : String := s!"line {p.line} column {p.column}"

/-- A problem with a document as it is reported. -/
inductive Error where
  /-- The document is badly written. -/
  | malformed (error : SyntaxError) (place : Position)
  /-- The document does not say what was asked for. -/
  | unfit (message : String) (place : Option Position)
  /-- The document could not be delivered. -/
  | unreadable (message : String)
  deriving DecidableEq, Repr

namespace Error

/-- The report of a problem with `document`. -/
def ofFault (document : Bytes) : Fault → Error
  | .malformed error left => malformed error (.of document left)
  | .unfit message left => unfit message (left.map (.of document))
  | .unreadable message => unreadable message

/-- The whole wording, with the place where there is one. -/
def message : Error → String
  | malformed error place => error.message ++ " at " ++ place.message
  | unfit message none => message
  | unfit message (some place) => message ++ " at " ++ place.message
  | unreadable message => message

/-- The problem without its place, if it is one of meaning: the place depends on how the document
is laid out, and the meaning does not. -/
def unplaced : Error → Error
  | unfit message _ => unfit message none
  | error => error

end Error

end RemoteSigner.Json
