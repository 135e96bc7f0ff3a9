import TenantGateway.Settings.Basic
import TenantGateway.Settings.Error
import TenantGateway.Text.Split

/-!
Environment variables that override settings. Each variable that is set gives one setting; they are
taken in a fixed order, and the first that does not fit ends it.
-/

namespace TenantGateway

/-- A variable that overrides a setting. -/
inductive Variable where
  | listen
  | cacheRefresh
  | failurePolicy
  | remoteStore
  | bufferCapacity
  | batchSize
  | flushInterval
  | brokers
  | topic
  | services
  deriving DecidableEq, Repr

namespace Variable

/-- The variables in the order in which they are taken. -/
def all : List Variable :=
  [.listen, .cacheRefresh, .failurePolicy, .remoteStore, .bufferCapacity, .batchSize,
    .flushInterval, .brokers, .topic, .services]

def name : Variable → String
  | .listen => "TOLLGATE_LISTEN"
  | .cacheRefresh => "TOLLGATE_CACHE_REFRESH_SECS"
  | .failurePolicy => "TOLLGATE_RATE_LIMIT_FAILURE_POLICY"
  | .remoteStore => "TOLLGATE_REDIS_URL"
  | .bufferCapacity => "TOLLGATE_EVENT_BUFFER_CAPACITY"
  | .batchSize => "TOLLGATE_EVENT_BATCH_SIZE"
  | .flushInterval => "TOLLGATE_EVENT_FLUSH_INTERVAL_MS"
  | .brokers => "TOLLGATE_KAFKA_BROKERS"
  | .topic => "TOLLGATE_KAFKA_TOPIC"
  | .services => "TOLLGATE_SERVICES"

/-- The type of a variable's value. -/
@[reducible] def Value : Variable → Type
  | .listen => Net.SocketAddress
  | .cacheRefresh => UInt64
  | .failurePolicy => RateLimit.FailurePolicy
  | .remoteStore => String
  | .bufferCapacity => UInt64
  | .batchSize => UInt64
  | .flushInterval => UInt64
  | .brokers => String
  | .topic => String
  | .services => List Service

def readWord64 (raw : String) : Except String UInt64 :=
  match Text.readUnsigned (UInt64.size - 1) (Text.trim raw) with
  | .ok n => .ok (UInt64.ofNat n)
  | .error e => .error e.message

def readPolicy (raw : String) : Except String RateLimit.FailurePolicy :=
  let word := Text.trim raw
  if word = "fail_open" ∨ word = "open" then .ok .failOpen
  else if word = "fail_closed" ∨ word = "closed" then .ok .failClosed
  else .error ("unknown policy '" ++ word ++ "'")

/-- Reads one service from `name=url`. -/
def readService (pair : List Char) : Except String Service :=
  match Text.splitAtFirst '=' pair with
  | (name, some url) =>
    .ok {
      name := String.ofList (Text.trimChars name)
      url := String.ofList (Text.trimChars url)
      stripSegment := true }
  | (_, none) => .error ("expected name=url, got '" ++ String.ofList pair ++ "'")

/-- Reads services separated by commas; empty places between commas do not count. -/
def readServices (raw : String) : Except String (List Service) :=
  (((Text.splitAtEach ',' raw.toList).map Text.trimChars).filter (!·.isEmpty)).mapM readService

/-- Reads a variable's value, or says why it does not fit. -/
def read (raw : String) : (v : Variable) → Except String v.Value
  | .listen =>
    match Net.SocketAddress.parse? (Text.trim raw) with
    | some address => .ok address
    | none => .error Net.SocketAddress.refusal
  | .cacheRefresh => readWord64 raw
  | .failurePolicy => readPolicy raw
  | .remoteStore => .ok raw
  | .bufferCapacity => readWord64 raw
  | .batchSize => readWord64 raw
  | .flushInterval => readWord64 raw
  | .brokers => .ok raw
  | .topic => .ok raw
  | .services => readServices raw

/-- Puts a value in the place that the variable names. -/
def assign (s : Settings) : (v : Variable) → v.Value → Settings
  | .listen, x => { s with listen := x }
  | .cacheRefresh, x => { s with cache := { s.cache with refreshSeconds := x } }
  | .failurePolicy, x => { s with rateLimit := { s.rateLimit with policy := x } }
  | .remoteStore, x => { s with rateLimit := { s.rateLimit with store := .remote x } }
  | .bufferCapacity, x => { s with usage := { s.usage with bufferCapacity := x } }
  | .batchSize, x => { s with usage := { s.usage with batchSize := x } }
  | .flushInterval, x => { s with usage := { s.usage with flushIntervalMillis := x } }
  | .brokers, x => { s with usage := { s.usage with sink := .kafka x } }
  | .topic, x => { s with usage := { s.usage with topic := x } }
  | .services, x => { s with services := x }

end Variable

namespace Settings

/-- Takes the variables in turn. The settings are those at the end, or at the first variable that
does not fit; the ones before it keep their effect. -/
def overrideBy (lookup : String → Option String) :
    List Variable → Settings → Except SettingsError Unit × Settings
  | [], s => (.ok (), s)
  | v :: rest, s =>
    match lookup v.name with
    | none => overrideBy lookup rest s
    | some raw =>
      match v.read raw with
      | .ok x => overrideBy lookup rest (v.assign s x)
      | .error reason => (.error (.variable v.name reason), s)

/-- Overrides settings from an environment. -/
def override (lookup : String → Option String) (s : Settings) :
    Except SettingsError Unit × Settings :=
  overrideBy lookup Variable.all s

end Settings

end TenantGateway
