namespace StorageTelemetry

/-!
# Log entries

An operation reports what happened as entries in its result, so that a log is
data like any other.
-/

/-- The levels that are reported. -/
inductive LogLevel
  | error
  | warn
  | info
deriving DecidableEq

/-- One reported event: a fixed message with named details. -/
structure LogEntry where
  level : LogLevel
  message : String
  fields : List (String × String)
deriving DecidableEq

namespace LogEntry

def info (message : String) (fields : List (String × String)) : LogEntry :=
  ⟨.info, message, fields⟩

def warn (message : String) (fields : List (String × String)) : LogEntry :=
  ⟨.warn, message, fields⟩

def error (message : String) (fields : List (String × String)) : LogEntry :=
  ⟨.error, message, fields⟩

end LogEntry

def LogLevel.label : LogLevel → String
  | .error => "ERROR"
  | .warn => "WARN"
  | .info => "INFO"

end StorageTelemetry
