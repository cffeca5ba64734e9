import RemoteSigner.Octets

/-!
# The command line

A signer takes one argument, the path of the configuration file.  There are no options but those
that ask for help; behind a lone `--` nothing is an option.
-/

namespace RemoteSigner.CommandLine

/-- Why a command line is not obeyed. -/
inductive Fault where
  /-- Help is asked for. -/
  | displayHelp
  /-- There is no path. -/
  | missingArgument
  /-- There is an option that nobody knows, or a second path. -/
  | unknownArgument
  /-- A flag is given a value. -/
  | tooManyValues
  /-- The path is empty. -/
  | invalidValue
  deriving DecidableEq, Repr

/-- How a fault of some arguments is put into words: with the names of options, and with advice. -/
abbrev Wording := List Bytes → Fault → String

/-- What a single argument is. -/
inductive Argument where
  /-- A path. -/
  | value
  /-- The end of the options. -/
  | endOfOptions
  /-- A flag or an attempt at one. -/
  | flag (fault : Fault)
  deriving DecidableEq, Repr

/-- Classifies an argument in front of the end of the options. -/
def classify (argument : Bytes) : Argument :=
  match argument with
  | [0x2D] => .value
  | [0x2D, 0x2D] => .endOfOptions
  | 0x2D :: 0x2D :: long =>
    if long = Bytes.ofText "help" then .flag .displayHelp
    else if (Bytes.ofText "help=").isPrefixOf long then .flag .tooManyValues
    else .flag .unknownArgument
  | 0x2D :: short :: _ => if short = 0x68 then .flag .displayHelp else .flag .unknownArgument
  | _ => .value

/-- Takes one more path. -/
def take (found : Option Bytes) (argument : Bytes) : Except Fault (Option Bytes) :=
  match found with
  | some _ => .error .unknownArgument
  | none => .ok (some argument)

/-- Why a flag stops the reading.  A path is looked at before help is given. -/
def stop (found : Option Bytes) (fault : Fault) : Fault :=
  if fault = .displayHelp ∧ found = some [] then .invalidValue else fault

/-- Reads the arguments in their order; `options` says whether an argument may still be an option.
-/
def readFrom (options : Bool) (found : Option Bytes) : List Bytes → Except Fault (Option Bytes)
  | [] => .ok found
  | argument :: rest =>
    if options then
      match classify argument with
      | .endOfOptions => readFrom false found rest
      | .flag fault => .error (stop found fault)
      | .value => do readFrom options (← take found argument) rest
    else do readFrom options (← take found argument) rest

/-- The path on a command line. -/
def read (arguments : List Bytes) : Except Fault Bytes := do
  match ← readFrom true none arguments with
  | none => .error .missingArgument
  | some [] => .error .invalidValue
  | some path => .ok path

end RemoteSigner.CommandLine
