import Runbook.Value

/-!
What a program says while it runs: events with named fields, and plain lines.
-/

namespace Runbook

inductive Level where
  | debug
  | info
  | warning
  | error
  | critical
deriving DecidableEq, Repr

def Level.name : Level → String
  | .debug => "debug"
  | .info => "info"
  | .warning => "warning"
  | .error => "error"
  | .critical => "critical"

inductive LogEntry where
  | event (level : Level) (title : String) (fields : Value.Fields)
  | line (level : Level) (text : String)
deriving Repr

end Runbook
