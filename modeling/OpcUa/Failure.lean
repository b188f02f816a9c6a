import OpcUa.Duration.Brief
import OpcUa.Log
import OpcUa.StatusCode

/-!
Why an operation failed. Each failure is a cause; its message, its status code and its category
are functions of the cause.
-/

namespace OpcUa

inductive LoadFault
  | unreadable (message : String)
  | malformed
  | misfit (message : String)
deriving DecidableEq, Repr

/-- What a fault is shown as. Where a malformed document goes wrong is not said. -/
def LoadFault.message : LoadFault → String
  | unreadable message | misfit message => message
  | malformed => "invalid TOML document"

inductive ConfigFault
  | invalidEndpoint (url reason : String)
  | invalidTimeout (timeout : Duration) (reason : String)
  | missingField (field : String)
  | unloadable (source : String) (fault : LoadFault)
deriving DecidableEq, Repr

def ConfigFault.message : ConfigFault → String
  | invalidEndpoint url reason => "Invalid endpoint URL: " ++ url ++ " (" ++ reason ++ ")"
  | invalidTimeout timeout reason => "Invalid timeout: " ++ timeout.brief ++ " (" ++ reason ++ ")"
  | missingField field => "Missing required configuration: " ++ field
  | unloadable source fault =>
    "Failed to load configuration from " ++ source ++ ": " ++ fault.message

/-- An error of application code: a plain text, or an alarm of a given level. -/
inductive UserError
  | plain (text : String)
  | alarm (level : Int)
deriving DecidableEq, Repr

def UserError.message : UserError → String
  | plain text => text
  | alarm level => "alarm " ++ (if level < 0 then "-" else "") ++ Text.Decimal.ofNat level.natAbs

/-- What a panic carries: a text, or something else. -/
inductive Panic
  | text (message : String)
  | other
deriving DecidableEq, Repr

def Panic.message : Panic → String
  | text message => message
  | other => "<non-string panic payload>"

inductive Failure
  | badStatus (code : StatusCode)
  | disconnected
  | user (error : UserError)
  | panicked (message : String)
  | configuration (fault : ConfigFault)
deriving DecidableEq, Repr

namespace Failure

/-- The failure for a status; a lost connection is a failure of its own. -/
def ofStatus (code : StatusCode) : Failure :=
  if code = .badDisconnect then disconnected else badStatus code

def ofPanic (p : Panic) : Failure := panicked p.message

def message : Failure → String
  | badStatus code => code.text
  | disconnected => StatusCode.badDisconnect.text
  | user error => error.message
  | panicked message => "panic in user code: " ++ message
  | configuration fault => fault.message

def status : Failure → StatusCode
  | badStatus code => code
  | disconnected => .badDisconnect
  | configuration _ => .badConfigurationError
  | user _ | panicked _ => .badInternalError

def isDisconnect : Failure → Bool
  | disconnected => true
  | _ => false

def isRetryable : Failure → Bool
  | badStatus code =>
    code ∈ [.badTimeout, .badCommunicationError, .badServerNotConnected, .badTooManyOperations,
      .badConnectionClosed]
  | disconnected => true
  | user _ | panicked _ | configuration _ => false

def category : Failure → String
  | badStatus _ => "status"
  | disconnected => "connection"
  | user _ => "user"
  | panicked _ => "panic"
  | configuration _ => "configuration"

def level (e : Failure) : Level := if e.isRetryable then .warn else .error

def logLine (e : Failure) (context : String) : LogLine :=
  ⟨e.level, e.message,
    [("context", context), ("category", e.category), ("status", e.status.text)]⟩

def alarm? : Failure → Option Int
  | user (.alarm level) => some level
  | _ => none

end Failure

namespace StatusCode

def throwIfBad (code : StatusCode) : Except Failure Unit :=
  if code.isBad then .error (.ofStatus code) else .ok ()

end StatusCode

end OpcUa
