/-!
# Log records

What an operation reports on the way: texts with a level of importance, in order.
-/

namespace SafeFetch

/-- How important a record is. -/
inductive Level where
  | debug
  | info
  | warning
  | error
  deriving DecidableEq, Repr

/-- The name of a level. -/
def Level.name : Level → String
  | .debug => "DEBUG"
  | .info => "INFO"
  | .warning => "WARNING"
  | .error => "ERROR"

/-- A record of the log. -/
structure LogRecord where
  level : Level
  message : String
  deriving DecidableEq, Repr

namespace LogRecord

/-- The line that shows a record. -/
def line (r : LogRecord) : String := r.level.name ++ " " ++ r.message

/-- Whether a record is shown to the user of a command line. -/
def isShown (r : LogRecord) : Bool := r.level ≠ .debug

end LogRecord

end SafeFetch
