import Deployer.Options

/-!
# Settings

Settings are the options of a client as they stand in a JSON text, with the level and the form of its
log. Every field may be left out, within the inner records too, and then has its default; keys that
are not known are skipped. Times are whole milliseconds or seconds.
-/

namespace Deployer

open Json

/-- The quota of the limiter. -/
structure RateLimitSettings where
  refillIntervalMs : UInt64
  burst : UInt32
deriving DecidableEq, Repr

/-- The policy of retrying. -/
structure RetrySettings where
  intervalMs : UInt64
  maxAttempts : UInt32
deriving DecidableEq, Repr

/-- The paths of the operations. -/
structure PathSettings where
  create : String
  get : String
deriving DecidableEq, Repr

structure Settings where
  address : String
  level : Level
  jsonLogs : Bool
  rateLimit : RateLimitSettings
  retry : RetrySettings
  requestTimeoutSecs : UInt64
  paths : PathSettings
deriving DecidableEq, Repr

/-- A natural number as a JSON value. -/
def natValue (n : Nat) : Value := .number (.int n)

/-- Reads a 64-bit number. -/
def readWord64 : TypedReader UInt64 := mapReader Nat.toUInt64 (readUnsigned 64)

/-- Reads a 32-bit number. -/
def readWord32 : TypedReader UInt32 := mapReader Nat.toUInt32 (readUnsigned 32)

/-! ### The quota -/

namespace RateLimitSettings

/-- One call per second, and a hundred at once. -/
def default : RateLimitSettings := ⟨1000, 100⟩

/-- The members of the quota's object, in the order in which they are written. -/
def members (s : RateLimitSettings) : List (String × Value) :=
  [("refill_interval_ms", natValue s.refillIntervalMs.toNat), ("burst", natValue s.burst.toNat)]

/-- A quota of which some fields have been read. -/
structure Draft where
  refillIntervalMs : Option UInt64
  burst : Option UInt32

/-- The fields of a quota. -/
def record : Record Draft RateLimitSettings where
  name := "RateLimitSettings"
  fields := [
    .of "refill_interval_ms" Draft.refillIntervalMs
      (fun d v => { d with refillIntervalMs := some v }) readWord64,
    .of "burst" Draft.burst (fun d v => { d with burst := some v }) readWord32]
  start := ⟨none, none⟩
  finish := fun d =>
    .ok ⟨d.refillIntervalMs.getD default.refillIntervalMs, d.burst.getD default.burst⟩

end RateLimitSettings

/-! ### The policy -/

namespace RetrySettings

/-- Two seconds between attempts, and thirty after the first. -/
def default : RetrySettings := ⟨2000, 31⟩

/-- The members of the policy's object, in the order in which they are written. -/
def members (s : RetrySettings) : List (String × Value) :=
  [("interval_ms", natValue s.intervalMs.toNat), ("max_attempts", natValue s.maxAttempts.toNat)]

/-- A policy of which some fields have been read. -/
structure Draft where
  intervalMs : Option UInt64
  maxAttempts : Option UInt32

/-- The fields of a policy. -/
def record : Record Draft RetrySettings where
  name := "RetrySettings"
  fields := [
    .of "interval_ms" Draft.intervalMs (fun d v => { d with intervalMs := some v }) readWord64,
    .of "max_attempts" Draft.maxAttempts (fun d v => { d with maxAttempts := some v }) readWord32]
  start := ⟨none, none⟩
  finish := fun d => .ok ⟨d.intervalMs.getD default.intervalMs, d.maxAttempts.getD default.maxAttempts⟩

end RetrySettings

/-! ### The paths -/

namespace PathSettings

/-- The paths that the service itself uses. -/
def default : PathSettings := ⟨Options.default.createPath, Options.default.getPath⟩

/-- The members of the paths' object, in the order in which they are written. -/
def members (s : PathSettings) : List (String × Value) :=
  [("create", .string s.create), ("get", .string s.get)]

/-- Paths of which some have been read. -/
structure Draft where
  create : Option String
  get : Option String

/-- The paths by their fields. -/
def record : Record Draft PathSettings where
  name := "PathSettings"
  fields := [
    .of "create" Draft.create (fun d v => { d with create := some v }) readText,
    .of "get" Draft.get (fun d v => { d with get := some v }) readText]
  start := ⟨none, none⟩
  finish := fun d => .ok ⟨d.create.getD default.create, d.get.getD default.get⟩

end PathSettings

/-! ### The whole -/

namespace Settings

/-- The settings of an empty text. -/
def default : Settings where
  address := Options.default.address
  level := .info
  jsonLogs := false
  rateLimit := .default
  retry := .default
  requestTimeoutSecs := 30
  paths := .default

/-- The members of the settings' object, in the order in which they are written. -/
def members (s : Settings) : List (String × Value) :=
  [("instance", .string s.address), ("log_level", s.level.toValue), ("json_logs", .bool s.jsonLogs),
    ("rate_limit", .object s.rateLimit.members), ("retry", .object s.retry.members),
    ("request_timeout_secs", natValue s.requestTimeoutSecs.toNat),
    ("paths", .object s.paths.members)]

/-- The JSON text of settings. -/
def text (s : Settings) : String := (Value.object s.members).compact

/-- Settings of which some fields have been read. -/
structure Draft where
  address : Option String
  level : Option Level
  jsonLogs : Option Bool
  rateLimit : Option RateLimitSettings
  retry : Option RetrySettings
  requestTimeoutSecs : Option UInt64
  paths : Option PathSettings

/-- The settings that a draft amounts to: what was left out has its default. -/
def ofDraft (d : Draft) : Settings where
  address := d.address.getD default.address
  level := d.level.getD default.level
  jsonLogs := d.jsonLogs.getD default.jsonLogs
  rateLimit := d.rateLimit.getD default.rateLimit
  retry := d.retry.getD default.retry
  requestTimeoutSecs := d.requestTimeoutSecs.getD default.requestTimeoutSecs
  paths := d.paths.getD default.paths

/-- The fields of settings. -/
def record : Record Draft Settings where
  name := "Settings"
  fields := [
    .of "instance" Draft.address (fun d v => { d with address := some v }) readText,
    .of "log_level" Draft.level (fun d v => { d with level := some v }) Level.reader,
    .of "json_logs" Draft.jsonLogs (fun d v => { d with jsonLogs := some v }) readBool,
    .of "rate_limit" Draft.rateLimit (fun d v => { d with rateLimit := some v })
      RateLimitSettings.record.read,
    .of "retry" Draft.retry (fun d v => { d with retry := some v }) RetrySettings.record.read,
    .of "request_timeout_secs" Draft.requestTimeoutSecs
      (fun d v => { d with requestTimeoutSecs := some v }) readWord64,
    .of "paths" Draft.paths (fun d v => { d with paths := some v }) PathSettings.record.read]
  start := ⟨none, none, none, none, none, none, none⟩
  finish := fun d => .ok (ofDraft d)

/-- The settings of a whole text. -/
def parse (text : Bytes) : Except ConfigFault Settings :=
  (parseAll record.read text).mapError .settings

/-- The options that settings describe. -/
def toOptions (s : Settings) : Options where
  address := s.address
  refill := Duration.ofMillis s.rateLimit.refillIntervalMs.toNat
  burst := s.rateLimit.burst.toNat
  policy := ⟨Duration.ofMillis s.retry.intervalMs.toNat, s.retry.maxAttempts.toNat⟩
  requestTimeout := Duration.ofSecs s.requestTimeoutSecs.toNat
  createPath := s.paths.create
  getPath := s.paths.get

/-- The form of the log that settings describe. -/
def logOptions (s : Settings) : LogOptions := ⟨s.level, s.jsonLogs⟩

end Settings

end Deployer
