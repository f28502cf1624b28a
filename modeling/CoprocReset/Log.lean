/-!
# The log

A log is a list of entries in the order in which they were made, each with its severity.
-/

namespace CoprocReset

/-- How serious an entry is. -/
inductive Severity where
  | error
  | warn
  | info
  deriving DecidableEq, Repr

/-- The severity as a log shows it. -/
def Severity.name : Severity → String
  | .error => "ERROR"
  | .warn => "WARN"
  | .info => "INFO"

/-- One entry of the log. -/
structure LogEntry where
  severity : Severity
  text : String
  deriving DecidableEq, Repr

/-- The entry as a log shows it. -/
def LogEntry.line (entry : LogEntry) : String := entry.severity.name ++ " " ++ entry.text

/-- Entries in the order in which they were made. -/
abbrev Log := List LogEntry

end CoprocReset
