import Deployer.Options
import Deployer.Release
import Deployer.Session
import Deployer.Text.Base64

/-!
# Exchanges over HTTP

An operation is carried out by a POST request whose body is the requested deployment as JSON. A reply
is of use when its body arrives whole and is JSON, whatever its status; everything else is a transport
fault, and so may be retried.

The user name and password of the base URL are not part of what is asked for: they go into the
request's `authorization` and are left out of error texts. The log shows the URL as it was configured.
-/

namespace Deployer

/-- A request as the service receives it. -/
structure Request where
  line : String
  accept : String
  contentType : String
  contentLength : Nat
  authorization : Option String
  userAgent : String
  requestId : String
  body : String
deriving DecidableEq

/-- What the service does with a request that it received. -/
inductive Answer where
  /-- Replies with a status and a body. -/
  | reply (status : UInt16) (body : Bytes)
  /-- Replies, but the connection ends before the body does. -/
  | cutShort (status : UInt16)
  /-- Ends the connection without a reply. -/
  | dropped
  /-- Does not reply. -/
  | silent
  /-- Does not reply, and the caller cancels. -/
  | abandoned

/-- The service at the other end: nothing listens, or requests are answered by their number, counted
from 0. -/
inductive Service where
  | closed
  | listening (answer : Nat → Answer)

/-- The service that gives a list of answers and then repeats the last for ever. -/
def Service.ofList (first : Answer) (rest : List Answer) : Service :=
  .listening fun i => ((first :: rest)[i]?).getD (rest.getLastD first)

/-- Whether a reply with a status has a body. -/
def carriesBody (status : UInt16) : Bool := status != 101 && status != 204 && status != 304

/-- Whether a reply with a status only announces another one. -/
def isInterim (status : UInt16) : Bool := 100 ≤ status && status < 200 && status != 101

/-! ### Credentials -/

/-- A user name and perhaps a password, in plain text. -/
structure Credentials where
  username : String
  password : Option String
deriving DecidableEq

namespace Credentials

/-- The credentials that a URL carries. What does not decode to a text is left where it is. -/
def ofUrl? (u : Url) : Option Credentials := do
  let username ← Url.percentDecodeText? u.username
  let password := u.password.bind Url.percentDecodeText?
  if username.isEmpty && password.isNone then none else some ⟨username, password⟩

/-- The credentials as a request carries them. -/
def header (c : Credentials) : String :=
  "Basic " ++
    String.ofList (Text.base64 (Text.bytes (c.username ++ ":" ++ c.password.getD "")))

/-- The URL to which a request for a configured URL is sent. -/
def target (u : Url) : Url := if (ofUrl? u).isSome then u.withoutCredentials else u

end Credentials

/-! ### One exchange -/

/-- What an HTTP client is set up with: how it introduces itself, how long it waits for a reply, and
the id of each request that it makes. -/
structure Transport where
  userAgent : String
  timeout : Duration
  requestId : Nat → String

/-- What has happened at the far end: how many requests were made, and how many were received. -/
structure Traffic where
  made : Nat
  received : Nat
deriving DecidableEq, Repr

namespace Exchange

open Activity

variable {ρ : Type}

/-- The most bytes of a body that is not JSON that are logged. -/
def loggedBodyLimit : Nat := 512

/-- The detail of a fault that befell a request as a whole. -/
def sendingDetail (url : Url) : String :=
  "error sending request for url (" ++ (Credentials.target url).text ++ ")"

/-- The request for a deployment. -/
def request (transport : Transport) (url : Url) (id : String) (d : Deployment) : Request where
  line := "POST " ++ url.path.text ++ " HTTP/1.1"
  accept := "application/json"
  contentType := "application/json"
  contentLength := (Text.bytes d.text).length
  authorization := (Credentials.ofUrl? url).map Credentials.header
  userAgent := transport.userAgent
  requestId := id
  body := d.text

/-- What a reply whose body arrived whole comes to. -/
def decode {κ σ : Type} (url : Url) (status : UInt16) (body : Bytes) :
    Activity κ σ (Except Error Reply) := do
  match Json.Value.parse body with
  | .ok value => return .ok ⟨status, value⟩
  | .error detail =>
    log (.undecodable url.text status (Utf8.excerpt loggedBodyLimit body))
    return .error (.transport (.decode detail))

/-- What an answer comes to. -/
def receive {κ σ : Type} (transport : Transport) (url : Url) :
    Answer → Activity κ σ (Except Error Reply)
  | .reply status body =>
    if isInterim status then return .error (.transport (.request (sendingDetail url)))
    else decode url status (if carriesBody status then body else [])
  | .cutShort status =>
    if isInterim status then return .error (.transport (.request (sendingDetail url)))
    else if carriesBody status then
      return .error (.transport (.decode "error decoding response body"))
    else decode url status []
  | .dropped => return .error (.transport (.request (sendingDetail url)))
  | .silent => do
    if ← pause transport.timeout then return .error .cancelled
    return .error (.transport .timeout)
  | .abandoned => do
    cancel
    return .error .cancelled

/-- The endpoint that posts requests to a URL. -/
def endpoint (transport : Transport) (service : Service) (url : Url) :
    Endpoint Request (World Traffic) := fun d => do
  let world ← state
  let id := transport.requestId world.far.made
  log (.posting url.text id)
  let traffic := { world.far with made := world.far.made + 1 }
  match service with
  | .closed =>
    setState { world with far := traffic }
    return .error (.transport (.connect (sendingDetail url)))
  | .listening answer =>
    setState { world with far := { traffic with received := traffic.received + 1 } }
    reach (request transport url id d)
    receive transport url (answer world.far.received)

end Exchange

/-! ### The client over HTTP -/

namespace Blueprint

/-- The layers around an endpoint: a call that is not admitted is not traced. -/
def layers : List Layer := [.limit, .trace]

/-- The client that a blueprint describes. -/
def client (blueprint : Blueprint) (transport : Transport) (service : Service) :
    Client Request (World Traffic) where
  create := Layer.wrap .create layers (Exchange.endpoint transport service blueprint.create)
  get := Layer.wrap .get layers (Exchange.endpoint transport service blueprint.get)
  policy := blueprint.policy

/-- The world of a client that has not been used. -/
def world (blueprint : Blueprint) : World Traffic := ⟨some (.fresh blueprint.quota), ⟨0, 0⟩⟩

end Blueprint

end Deployer
