import Deployer.Deployment
import Deployer.Duration
import Deployer.ServiceError
import Deployer.Url.Parse

/-!
# Errors of the client

Each kind of error holds its cause; the wording is in `Error.message` and the functions it calls. Faults
that a caller's own endpoint reports in words are kept as `described`.

Only a failure that came before a reply was decoded may be tried again: see `Error.isRetryable`.
-/

namespace Deployer

/-- Why an instance address is refused, or why a base URL cannot be extended. -/
inductive AddressFault where
  | empty
  | scheme (instanceText scheme : String)
  | port (instanceText port : String)
  | url (instanceText : String) (fault : Url.Fault)
  | noHost (instanceText : String)
  | queryOrFragment (instanceText : String)
  | noPath (base : String)
  | described (text : String)
deriving DecidableEq

/-- Why options or settings are refused. -/
inductive ConfigFault where
  | noAttempts
  | noTimeout
  | emptyPath
  | noBurst
  | noRefill
  | settings (message : String)
  | unreadable (path reason : String)
  | logLevel (name : String)
  | loggingInstalled
  | described (text : String)
deriving DecidableEq

/-- Why a request brought no decoded reply. -/
inductive TransportFault where
  | connect (detail : String)
  | timeout
  | decode (detail : String)
  | request (detail : String)
deriving DecidableEq

/-- A payload that is neither a deployment nor a service error, in printable form. -/
structure Diagnostic where
  kind : String
  rendered : String
deriving DecidableEq

inductive Error where
  | address (fault : AddressFault)
  | config (fault : ConfigFault)
  | rateLimited (retryAfter : Duration)
  | transport (fault : TransportFault)
  | service (error : ServiceError)
  | unexpected (diagnostic : Diagnostic)
  | exhausted (attempts : Nat) (last : Error)
  | cancelled
deriving DecidableEq

/-- The fault in words. -/
def AddressFault.text : AddressFault → String
  | empty => "instance address is empty"
  | scheme address name => address ++ ": unsupported scheme '" ++ name ++ "'"
  | port address text => address ++ ": invalid port '" ++ text ++ "'"
  | url address fault => address ++ ": " ++ fault.text
  | noHost address => address ++ ": missing host"
  | queryOrFragment address => address ++ ": query and fragment are not allowed"
  | noPath base => base ++ ": cannot carry a path"
  | described text => text

/-- The fault in words. -/
def ConfigFault.text : ConfigFault → String
  | noAttempts => "retry max_attempts must be at least 1"
  | noTimeout => "request timeout must be positive"
  | emptyPath => "operation paths must not be empty"
  | noBurst => "rate limit burst must be positive"
  | noRefill => "rate limit refill interval must be positive"
  | settings message => "invalid settings: " ++ message
  | unreadable path reason => "unable to read " ++ path ++ ": " ++ reason
  | logLevel name => "Invalid log level: " ++ name
  | loggingInstalled =>
    "unable to initialize logging: a global default trace dispatcher has already been set"
  | described text => text

/-- The fault in words. -/
def TransportFault.text : TransportFault → String
  | connect detail => "connection failed: " ++ detail
  | timeout => "request timed out"
  | decode detail => "response body is not valid JSON: " ++ detail
  | request detail => "request failed: " ++ detail

namespace Diagnostic

/-- The printable form of a payload: its kind, and its text with indentation. -/
def of (payload : Json.Value) : Diagnostic := ⟨payload.kind, payload.indented⟩

/-- The diagnostic in words. -/
def text (d : Diagnostic) : String := d.kind ++ " payload: " ++ d.rendered

end Diagnostic

namespace Error

/-- The error in words. -/
def message : Error → String
  | address fault => "Address error: " ++ fault.text
  | config fault => "Configuration error: " ++ fault.text
  | rateLimited wait => "Rate limit exceeded, retry after " ++ wait.text
  | transport fault => "Transport error: " ++ fault.text
  | service e => "Remote error: " ++ e.text
  | unexpected d => "Received unexpected response; " ++ d.text
  | exhausted attempts last =>
    "Gave up after " ++ Nat.repr attempts ++ " attempts: " ++ last.message
  | cancelled => "Call cancelled"

/-- Whether a failed attempt may be repeated: nothing was decoded, or nothing was sent. -/
def isRetryable : Error → Bool
  | transport _ => true
  | rateLimited _ => true
  | _ => false

/-- The error of the final attempt when the attempts ran out, otherwise the error itself. -/
def lastError : Error → Error
  | exhausted _ last => last
  | e => e

/-- The text of the fault that an error passes on. -/
def sourceText? : Error → Option String
  | transport fault => some fault.text
  | service e => some e.text
  | _ => none

end Error

end Deployer
