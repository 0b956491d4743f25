import Deployer.Error
import Deployer.Json.Record

/-!
# Log levels

A level is named in small letters; `warning` is a second name of `warn`. On a command line or in an
option the name may be in any case, in a JSON text it may not.

Only the ASCII capitals and the Kelvin sign have an ASCII letter as their small form, and no name of a
level has a `k`, so mapping the ASCII capitals decides the name of every text.
-/

namespace Deployer

/-- How much a log event matters. -/
inductive Level where
  | trace
  | debug
  | info
  | warn
  | error
deriving DecidableEq, Repr, Inhabited

namespace Level

/-- The name of a level. -/
def name : Level → String
  | trace => "trace"
  | debug => "debug"
  | info => "info"
  | warn => "warn"
  | error => "error"

/-- All names of levels. -/
def names : List (String × Level) :=
  [("trace", trace), ("debug", debug), ("info", info), ("warn", warn), ("warning", warn),
    ("error", error)]

/-- The level that a text names, in any case. -/
def ofText (s : String) : Except ConfigFault Level :=
  match names.lookup s.toLower with
  | some level => .ok level
  | none => .error (.logLevel s)

/-- The JSON value of a level. -/
def toValue (level : Level) : Json.Value := .string level.name

/-- Reads a level off a text. -/
def reader : Json.TypedReader Level := Json.readVariant names

/-- The level of a whole text. -/
def parse (text : Bytes) : Except String Level := Json.parseAll reader text

/-- The filter that applies when the environment sets none: this level for the client, warnings and
above for everything else. -/
def directives (level : Level) : String := "warn,deploy_client=" ++ level.name

end Level

/-- How a program logs: the level of the client's events, and whether they are written as JSON. -/
structure LogOptions where
  level : Level
  json : Bool
deriving DecidableEq

/-- Installing a logger for the whole program fails when one is installed already. -/
def LogOptions.install (_options : LogOptions) (installed : Bool) : Except ConfigFault Unit :=
  if installed then .error .loggingInstalled else .ok ()

end Deployer
