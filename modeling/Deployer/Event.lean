import Deployer.Log

/-!
# Log events

What the client reports while it works. An event holds its causes; its level, its message and its
fields are functions of them. Events of a call that is being traced carry a span, which names the
operation and the deployment it is about.
-/

namespace Deployer

/-- The operations of the service. -/
inductive Operation where
  | create
  | get
deriving DecidableEq, Repr

/-- The name of an operation. -/
def Operation.name : Operation → String
  | create => "create_deployment"
  | get => "get_latest_deployment"

/-- The status with its usual reason, as it is printed. -/
def reasonOf (status : UInt16) : String :=
  let reasons : List (Nat × String) := [
    (100, "Continue"), (101, "Switching Protocols"), (102, "Processing"), (103, "Early Hints"),
    (200, "OK"), (201, "Created"), (202, "Accepted"), (203, "Non Authoritative Information"),
    (204, "No Content"), (205, "Reset Content"), (206, "Partial Content"), (207, "Multi-Status"),
    (208, "Already Reported"), (226, "IM Used"), (300, "Multiple Choices"),
    (301, "Moved Permanently"), (302, "Found"), (303, "See Other"), (304, "Not Modified"),
    (305, "Use Proxy"), (307, "Temporary Redirect"), (308, "Permanent Redirect"),
    (400, "Bad Request"), (401, "Unauthorized"), (402, "Payment Required"), (403, "Forbidden"),
    (404, "Not Found"), (405, "Method Not Allowed"), (406, "Not Acceptable"),
    (407, "Proxy Authentication Required"), (408, "Request Timeout"), (409, "Conflict"),
    (410, "Gone"), (411, "Length Required"), (412, "Precondition Failed"),
    (413, "Payload Too Large"), (414, "URI Too Long"), (415, "Unsupported Media Type"),
    (416, "Range Not Satisfiable"), (417, "Expectation Failed"), (418, "I'm a teapot"),
    (421, "Misdirected Request"), (422, "Unprocessable Entity"), (423, "Locked"),
    (424, "Failed Dependency"), (425, "Too Early"), (426, "Upgrade Required"),
    (428, "Precondition Required"), (429, "Too Many Requests"),
    (431, "Request Header Fields Too Large"), (451, "Unavailable For Legal Reasons"),
    (500, "Internal Server Error"), (501, "Not Implemented"), (502, "Bad Gateway"),
    (503, "Service Unavailable"), (504, "Gateway Timeout"), (505, "HTTP Version Not Supported"),
    (506, "Variant Also Negotiates"), (507, "Insufficient Storage"), (508, "Loop Detected"),
    (510, "Not Extended"), (511, "Network Authentication Required")]
  Nat.repr status.toNat ++ " " ++ (reasons.lookup status.toNat).getD "<unknown status code>"

inductive Event where
  /-- Settings are about to be read. -/
  | loading (path : String)
  /-- A client was made. -/
  | targeting (url : String)
  /-- An attempt to create a deployment begins. -/
  | attempt (number : Nat) (id : String)
  /-- The limiter did not admit a call. -/
  | rejected (error : Error)
  /-- A traced call ended with a reply. -/
  | completed (status : UInt16) (elapsed : Duration)
  /-- A traced call was cancelled. -/
  | aborted (elapsed : Duration)
  /-- A traced call failed. -/
  | failed (error : Error) (elapsed : Duration)
  /-- An attempt failed and another will follow. -/
  | retrying (attempt maxAttempts : Nat) (error : Error) (interval : Duration)
  /-- The last attempt failed. -/
  | gaveUp (attempts : Nat) (elapsed : Duration) (error : Error)
  /-- The call was cancelled before an attempt. -/
  | cancelledBefore (attempt : Nat)
  /-- The call was cancelled between two attempts. -/
  | cancelledWaiting
  /-- A reply was a deployment. -/
  | returned (operation : Operation) (id status : String)
  /-- A reply was an error of the service. -/
  | refused (operation : Operation) (error : ServiceError)
  /-- A reply was neither. -/
  | unclassified (operation : Operation) (diagnostic : Diagnostic)
  /-- A request is sent. -/
  | posting (url requestId : String)
  /-- The body of a reply is not JSON. -/
  | undecodable (url : String) (status : UInt16) (excerpt : String)
deriving DecidableEq

/-- The call that an event belongs to. -/
structure Span where
  operation : Operation
  deployment : String
deriving DecidableEq

namespace Event

/-- The level of an event. -/
def level : Event → Level
  | loading _ => .debug
  | targeting _ => .info
  | attempt .. => .debug
  | rejected _ => .debug
  | completed .. => .debug
  | aborted _ => .debug
  | failed .. => .warn
  | retrying .. => .warn
  | gaveUp .. => .warn
  | cancelledBefore _ => .debug
  | cancelledWaiting => .debug
  | returned .. => .debug
  | refused .. => .info
  | unclassified .. => .error
  | posting .. => .debug
  | undecodable .. => .warn

/-- The event in words. -/
def message : Event → String
  | loading path => "Loading settings from " ++ path
  | targeting url => "Deployment client targeting " ++ url
  | attempt number id => Operation.create.name ++ " attempt " ++ Nat.repr number ++ " for " ++ id
  | rejected e => "Call rejected by rate limiter: " ++ e.message
  | completed .. => "Call completed"
  | aborted _ => "Call cancelled"
  | failed e _ => "Call failed: " ++ e.message
  | retrying number most e interval =>
    "Attempt " ++ Nat.repr number ++ "/" ++ Nat.repr most ++ " failed: " ++ e.message ++
      "; retrying in " ++ interval.text
  | gaveUp attempts elapsed e =>
    "Giving up after " ++ Nat.repr attempts ++ " attempts in " ++ elapsed.text ++ ": " ++ e.message
  | cancelledBefore number => "Cancelled before attempt " ++ Nat.repr number
  | cancelledWaiting => "Cancelled while waiting to retry"
  | returned operation id status =>
    operation.name ++ " returned deployment " ++ id ++ " (" ++ status ++ ")"
  | refused operation e => operation.name ++ " rejected by service: " ++ e.text
  | unclassified operation d => operation.name ++ " received unexpected response; " ++ d.text
  | posting url requestId => "POST " ++ url ++ " (" ++ requestId ++ ")"
  | undecodable url status excerpt =>
    "HTTP POST " ++ url ++ " returned undecodable body: " ++ reasonOf status ++ " - " ++ excerpt

/-- The status field of an event. -/
def status? : Event → Option UInt16
  | completed status _ => some status
  | _ => none

/-- The field of an event that tells how long a call took. -/
def elapsed? : Event → Option Duration
  | completed _ elapsed => some elapsed
  | aborted elapsed => some elapsed
  | failed _ elapsed => some elapsed
  | _ => none

/-- Whether an event reports how a traced call ended. -/
def endsCall (e : Event) : Bool := e.elapsed?.isSome

end Event

end Deployer
