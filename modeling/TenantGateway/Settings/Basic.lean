import TenantGateway.Net.SocketAddress
import TenantGateway.RateLimit.Limiter
import TenantGateway.Service.Routing

/-!
The settings of a gateway. Everything but the listen address and the services has a default.
-/

namespace TenantGateway

/-- How tenants are cached and when the cache is brought up to date. -/
structure CacheSettings where
  refreshSeconds : UInt64 := 900
  entryTtlSeconds : UInt64 := 1800
  fetchTimeoutMillis : UInt64 := 30000
  deriving DecidableEq, Repr, Inhabited

/-- Where the keys of the tenants are kept. -/
inductive DirectoryChoice where
  | file (path : String)
  | memory
  deriving DecidableEq, Repr, Inhabited

/-- Where requests are counted. -/
inductive CounterChoice where
  | remote (url : String)
  | memory
  deriving DecidableEq, Repr, Inhabited

structure RateLimitSettings where
  store : CounterChoice := .memory
  policy : RateLimit.FailurePolicy := .failOpen
  timeoutMillis : UInt64 := 100
  minuteTtlSeconds : UInt64 := 120
  deriving DecidableEq, Repr, Inhabited

/-- Where usage events go. -/
inductive SinkChoice where
  | kafka (brokers : String)
  | log
  deriving DecidableEq, Repr, Inhabited

structure UsageSettings where
  sink : SinkChoice := .log
  topic : String := "usage-events"
  bufferCapacity : UInt64 := 1000
  batchSize : UInt64 := 100
  flushIntervalMillis : UInt64 := 500
  publishRetries : UInt32 := 2
  deriving DecidableEq, Repr, Inhabited

structure KeepAliveSettings where
  enabled : Bool := true
  timeoutSeconds : UInt64 := 60
  deriving DecidableEq, Repr, Inhabited

structure TimeoutSettings where
  connectMillis : UInt64 := 5000
  requestMillis : UInt64 := 30000
  shutdownSeconds : UInt64 := 30
  keepAlive : KeepAliveSettings := {}
  deriving DecidableEq, Repr, Inhabited

/-- How connections to backends are kept for reuse. -/
structure PoolSettings where
  idleTimeout : UInt64 := 90
  maxIdlePerHost : UInt64 := 0
  deriving DecidableEq, Repr, Inhabited

structure LoggingSettings where
  level : String := "info"
  showTarget : Bool := false
  deriving DecidableEq, Repr, Inhabited

structure TelemetrySettings where
  metricsPort : Option UInt16 := none
  telemetryLevel : String := "warn"
  deriving DecidableEq, Repr, Inhabited

structure Settings where
  listen : Net.SocketAddress
  services : List Service
  cache : CacheSettings := {}
  directory : DirectoryChoice := .memory
  rateLimit : RateLimitSettings := {}
  usage : UsageSettings := {}
  timeout : TimeoutSettings := {}
  pool : PoolSettings := {}
  logging : LoggingSettings := {}
  telemetry : TelemetrySettings := {}
  deriving DecidableEq, Repr

end TenantGateway
