/-! What a run tells about its progress. -/

namespace AuditStage

/-- How much a log record matters. -/
inductive Level where
  | info
  | warn
  | error
deriving Repr, DecidableEq

/-- The name of a level. -/
def Level.name : Level → String
  | .info => "INFO"
  | .warn => "WARN"
  | .error => "ERROR"

/-- One line of the log. -/
structure LogRecord where
  level : Level
  text : String
deriving Repr, DecidableEq

end AuditStage
