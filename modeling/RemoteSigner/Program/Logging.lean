import RemoteSigner.Octets

/-!
# Logging

A program makes records of what it does.  Whether a record is shown depends on how much it matters
and on how much is asked for by a variable of the environment; on which stream it is shown depends
on the logger.  Standard output belongs to the protocol, so the logger that programs set up shows
everything on standard error.

## Main definitions

* `LogRecord`: a record of something that happened
* `LogLevel`: how much is shown
* `Logger`: on which streams
* `Logging.setUp`: the only way to have anything shown
-/

namespace RemoteSigner

/-! ## Records -/

/-- How much a record matters. -/
inductive Importance where
  | error | warning | information | debug | trace
  deriving DecidableEq, Repr

/-- The name of the importance. -/
def Importance.name : Importance → String
  | error => "ERROR"
  | warning => "WARN"
  | information => "INFO"
  | debug => "DEBUG"
  | trace => "TRACE"

/-- A record of something that happened. -/
structure LogRecord where
  /-- How much it matters. -/
  importance : Importance
  /-- What happened. -/
  message : String
  deriving DecidableEq, Repr

/-- A record as it is shown, without the time. -/
def LogRecord.line (record : LogRecord) : String :=
  "[" ++ record.importance.name ++ "] " ++ record.message

/-! ## What is shown -/

/-- How much is logged. -/
inductive LogLevel where
  | off
  | debug
  deriving DecidableEq, Repr

namespace LogLevel

/-- The name of the level. -/
def name : LogLevel → String
  | off => "OFF"
  | debug => "DEBUG"

/-- The level that a value of the variable asks for. -/
def ofVariable : Option Bytes → LogLevel
  | some (_ :: _) => debug
  | _ => off

/-- Whether anything is logged. -/
def isEnabled (level : LogLevel) : Bool := level != off

/-- Whether records that matter so much are logged. -/
def shows : LogLevel → Importance → Bool
  | off, _ => false
  | debug, importance => importance != .trace

end LogLevel

/-! ## Where it is shown -/

/-- A standard stream that is written to. -/
inductive OutputStream where
  | output | errors
  deriving DecidableEq, Repr

/-- On which streams a logger shows records. -/
inductive Logger where
  /-- All of them on standard output. -/
  | output
  /-- All of them on standard error. -/
  | errors
  /-- Errors on standard error, and the others on standard output. -/
  | divided
  deriving DecidableEq, Repr

/-- The stream on which a logger shows a record that matters so much. -/
def Logger.stream : Logger → Importance → OutputStream
  | output, _ => .output
  | errors, _ => .errors
  | divided, .error => .errors
  | divided, _ => .output

/-- How a process logs. -/
structure Logging where
  /-- How much is logged. -/
  level : LogLevel := .off
  /-- The logger, once there is one. -/
  logger : Option Logger := none
  deriving DecidableEq, Repr

namespace Logging

/-- What is said where a logger is there already. -/
def installedTwice : String :=
  "Logger initialization error: " ++
    "attempted to set a logger after the logging system was already initialized"

/-- Sets up logging.  No logger is needed where nothing is logged; one that was left to itself would
show most records on standard output. -/
def setUp (level : LogLevel) (logging : Logging) : Except String Logging :=
  match level, logging.logger with
  | .off, _ => .ok { logging with level }
  | _, some _ => .error installedTwice
  | _, none => .ok ⟨level, some .errors⟩

/-- The stream on which a record is shown that matters so much, if it is shown. -/
def stream? (logging : Logging) (importance : Importance) : Option OutputStream :=
  if logging.level.shows importance then logging.logger.map (·.stream importance) else none

end Logging

end RemoteSigner
