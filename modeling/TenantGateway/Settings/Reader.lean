import TenantGateway.Settings.Basic
import TenantGateway.Settings.Error

/-!
Settings read from a TOML document.
-/

namespace TenantGateway

open Decode (Fault)
open Toml (Record Value)

private def readService (v : Value) : Except Fault Service := do
  let form : Record := { title := "struct Service", names := ["name", "url", "strip_prefix"] }
  let (layout, name, url, stripSegment) ← form.read (fun member v (name, url, strip) =>
    match member with
    | "name" => return (some (← v.asText "a string"), url, strip)
    | "url" => return (name, some (← v.asText "a string"), strip)
    | "strip_prefix" => return (name, url, ← v.asBool)
    | _ => return (name, url, strip)) (none, none, true) v
  let name ← form.require layout "name" name
  let url ← form.require layout "url" url
  return { name, url, stripSegment }

-- Reads a record all of whose members have defaults.
private def readDefaulted {σ : Type} [Inhabited σ] (title : String) (names : List String)
    (member : String → Value → σ → Except Fault σ) (v : Value) : Except Fault σ :=
  (Record.read { title, names } member default v).map (·.2)

private def readCache : Value → Except Fault CacheSettings :=
  readDefaulted "struct CacheConfig" ["refresh_interval_secs", "entry_ttl_secs", "fetch_timeout_ms"]
    fun member v s =>
      match member with
      | "refresh_interval_secs" => return { s with refreshSeconds := ← v.asWord64 }
      | "entry_ttl_secs" => return { s with entryTtlSeconds := ← v.asWord64 }
      | "fetch_timeout_ms" => return { s with fetchTimeoutMillis := ← v.asWord64 }
      | _ => return s

private def readDirectory (v : Value) : Except Fault DirectoryChoice := do
  let (kind, rest) ← Toml.tagged "internally tagged enum DirectoryConfig" ["file", "memory"] v
  if kind == "file" then
    return .file
      (← Toml.singleText "struct variant DirectoryConfig::File" "path" "path string" rest)
  else
    Toml.noneLeft 0 rest
    return .memory

private def readCounters (v : Value) : Except Fault CounterChoice := do
  let (kind, rest) ← Toml.tagged "internally tagged enum CounterStoreConfig" ["redis", "memory"] v
  if kind == "redis" then
    return .remote
      (← Toml.singleText "struct variant CounterStoreConfig::Redis" "url" "a string" rest)
  else
    Toml.noneLeft 0 rest
    return .memory

private def readPolicy (v : Value) : Except Fault RateLimit.FailurePolicy := do
  let word ← Toml.plainChoice ["fail_open", "fail_closed"] v
  return if word == "fail_open" then .failOpen else .failClosed

private def readRateLimit : Value → Except Fault RateLimitSettings :=
  readDefaulted "struct RateLimitConfig"
      ["store", "failure_policy", "timeout_ms", "minute_ttl_secs"] fun member v s =>
      match member with
      | "store" => return { s with store := ← readCounters v }
      | "failure_policy" => return { s with policy := ← readPolicy v }
      | "timeout_ms" => return { s with timeoutMillis := ← v.asWord64 }
      | "minute_ttl_secs" => return { s with minuteTtlSeconds := ← v.asWord64 }
      | _ => return s

private def readSink (v : Value) : Except Fault SinkChoice := do
  let (kind, rest) ← Toml.tagged "internally tagged enum SinkConfig" ["kafka", "log"] v
  if kind == "kafka" then
    return .kafka (← Toml.singleText "struct variant SinkConfig::Kafka" "brokers" "a string" rest)
  else
    Toml.noneLeft 0 rest
    return .log

private def readUsage : Value → Except Fault UsageSettings :=
  readDefaulted "struct UsageConfig"
    ["sink", "topic", "buffer_capacity", "batch_size", "flush_interval_ms", "publish_retries"]
    fun member v s =>
      match member with
      | "sink" => return { s with sink := ← readSink v }
      | "topic" => return { s with topic := ← v.asText "a string" }
      | "buffer_capacity" => return { s with bufferCapacity := ← v.asSize }
      | "batch_size" => return { s with batchSize := ← v.asSize }
      | "flush_interval_ms" => return { s with flushIntervalMillis := ← v.asWord64 }
      | "publish_retries" =>
        return { s with publishRetries := UInt32.ofNat (← v.asWord (UInt32.size - 1) "u32") }
      | _ => return s

private def readKeepAlive : Value → Except Fault KeepAliveSettings :=
  readDefaulted "struct KeepAliveConfig" ["enabled", "timeout_secs"] fun member v s =>
    match member with
    | "enabled" => return { s with enabled := ← v.asBool }
    | "timeout_secs" => return { s with timeoutSeconds := ← v.asWord64 }
    | _ => return s

private def readTimeout : Value → Except Fault TimeoutSettings :=
  readDefaulted "struct TimeoutConfig" ["connect_ms", "request_ms", "shutdown_secs", "keep_alive"]
    fun member v s =>
      match member with
      | "connect_ms" => return { s with connectMillis := ← v.asWord64 }
      | "request_ms" => return { s with requestMillis := ← v.asWord64 }
      | "shutdown_secs" => return { s with shutdownSeconds := ← v.asWord64 }
      | "keep_alive" => return { s with keepAlive := ← readKeepAlive v }
      | _ => return s

private def readPool : Value → Except Fault PoolSettings :=
  readDefaulted "struct BackendPoolConfig" ["idle_timeout", "pool_max_idle_per_host"]
    fun member v s =>
      match member with
      | "idle_timeout" => return { s with idleTimeout := ← v.asWord64 }
      | "pool_max_idle_per_host" => return { s with maxIdlePerHost := ← v.asSize }
      | _ => return s

private def readLogging : Value → Except Fault LoggingSettings :=
  readDefaulted "struct LoggingConfig" ["level", "show_target"] fun member v s =>
    match member with
    | "level" => return { s with level := ← v.asText "a string" }
    | "show_target" => return { s with showTarget := ← v.asBool }
    | _ => return s

private def readTelemetry : Value → Except Fault TelemetrySettings :=
  readDefaulted "struct TelemetryConfig" ["metrics_port", "otel_log_level"] fun member v s =>
    match member with
    | "metrics_port" =>
      return { s with metricsPort := some (UInt16.ofNat (← v.asWord 65535 "u16")) }
    | "otel_log_level" => return { s with telemetryLevel := ← v.asText "a string" }
    | _ => return s

private def readListen (v : Value) : Except Fault Net.SocketAddress := do
  match Net.SocketAddress.parse? (← v.asText "socket address") with
  | some address => return address
  | none => throw (.refused Net.SocketAddress.refusal)

-- The members that have defaults, and those that have to be there.
private structure Draft where
  listen : Option Net.SocketAddress := none
  services : Option (List Service) := none
  cache : CacheSettings := {}
  directory : DirectoryChoice := .memory
  rateLimit : RateLimitSettings := {}
  usage : UsageSettings := {}
  timeout : TimeoutSettings := {}
  pool : PoolSettings := {}
  logging : LoggingSettings := {}
  telemetry : TelemetrySettings := {}

private def readMember (member : String) (v : Value) (d : Draft) : Except Fault Draft := do
  match member with
  | "listen" => return { d with listen := some (← readListen v) }
  | "services" => return { d with services := some (← (← v.asItems).mapM readService) }
  | "cache" => return { d with cache := ← readCache v }
  | "directory" => return { d with directory := ← readDirectory v }
  | "rate_limit" => return { d with rateLimit := ← readRateLimit v }
  | "usage" => return { d with usage := ← readUsage v }
  | "timeout" => return { d with timeout := ← readTimeout v }
  | "backend_pool" => return { d with pool := ← readPool v }
  | "logging" => return { d with logging := ← readLogging v }
  | "telemetry" => return { d with telemetry := ← readTelemetry v }
  | _ => return d

namespace Settings

/-- Reads the settings that a document gives. -/
def ofValue (v : Value) : Except Fault Settings := do
  let form : Record := { title := "struct Config", names := [] }
  let (layout, d) ← form.read readMember {} v
  let listen ← form.require layout "listen" d.listen
  let services ← form.require layout "services" d.services
  return { d with listen, services }

def parse (s : String) : Except SettingsError Settings :=
  (Toml.decode ofValue s).mapError .illFormed

end Settings

end TenantGateway
