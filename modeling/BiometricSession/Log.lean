/-!
# Log records

What the program reports about its own work: a level, the channel the record
belongs to, and a message.  Raw hardware events go to a channel of their own.
-/

namespace BiometricSession

/-- How important a log record is. -/
inductive LogLevel where
  | debug
  | info
  | warn
  | error
  deriving DecidableEq, Repr

namespace LogLevel

def name : LogLevel → String
  | debug => "DEBUG"
  | info => "INFO"
  | warn => "WARN"
  | error => "ERROR"

/-- Everything but details for debugging. -/
def isNormal : LogLevel → Bool
  | debug => false
  | info | warn | error => true

end LogLevel

/-- Channel that a log record belongs to. -/
inductive LogTarget where
  | service
  | metrics
  deriving DecidableEq, Repr

/-- One entry of the log. -/
structure LogRecord where
  level : LogLevel
  target : LogTarget
  message : String
  deriving DecidableEq, Repr

namespace LogRecord

/-- A record about the work of the service itself. -/
def service (level : LogLevel) (message : String) : LogRecord :=
  ⟨level, .service, message⟩

/-- A record of a raw hardware event. -/
def metrics (level : LogLevel) (message : String) : LogRecord :=
  ⟨level, .metrics, message⟩

/-- A record as one line: its level, the channel if it is not the usual one,
and the message. -/
def line (record : LogRecord) : String :=
  match record.target with
  | .service => record.level.name ++ " " ++ record.message
  | .metrics => record.level.name ++ " biomon::metrics " ++ record.message

/-- A record as it is printed, line by line: further lines of its message are
indented, so that only the first looks like a record. -/
def printedLines (record : LogRecord) : List String :=
  match record.line.splitOn "\n" with
  | [] => []
  | first :: others => first :: others.map ("    " ++ ·)

end LogRecord

end BiometricSession
