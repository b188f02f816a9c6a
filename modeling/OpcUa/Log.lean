/-!
Lines of the log: a level, a message, and named texts.
-/

namespace OpcUa

inductive Level
  | error
  | warn
  | info
  | debug
  | trace
deriving DecidableEq, Repr

def Level.name : Level → String
  | error => "ERROR"
  | warn => "WARN"
  | info => "INFO"
  | debug => "DEBUG"
  | trace => "TRACE"

structure LogLine where
  level : Level
  message : String
  fields : List (String × String) := []
deriving Repr

end OpcUa
