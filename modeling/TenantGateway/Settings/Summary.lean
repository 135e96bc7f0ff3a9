import TenantGateway.Json.Printer
import TenantGateway.Settings.Basic

/-!
The settings in force as one JSON object, which names every setting, defaults included.
-/

namespace TenantGateway

-- A choice by its name, with what it needs.
private def choice (kind : String) (details : List (String × Json)) : Json :=
  .object (("kind", .text kind) :: details)

def DirectoryChoice.toJson : DirectoryChoice → Json
  | .file path => choice "file" [("path", .text path)]
  | .memory => choice "memory" []

def CounterChoice.toJson : CounterChoice → Json
  | .remote url => choice "redis" [("url", .text url)]
  | .memory => choice "memory" []

def SinkChoice.toJson : SinkChoice → Json
  | .kafka brokers => choice "kafka" [("brokers", .text brokers)]
  | .log => choice "log" []

def Service.toJson (s : Service) : Json :=
  .object [("name", .text s.name), ("url", .text s.url), ("strip_prefix", .bool s.stripSegment)]

def CacheSettings.toJson (s : CacheSettings) : Json :=
  .object [("refresh_interval_secs", .word s.refreshSeconds),
    ("entry_ttl_secs", .word s.entryTtlSeconds), ("fetch_timeout_ms", .word s.fetchTimeoutMillis)]

def RateLimitSettings.toJson (s : RateLimitSettings) : Json :=
  .object [("store", s.store.toJson), ("failure_policy", .text s.policy.name),
    ("timeout_ms", .word s.timeoutMillis), ("minute_ttl_secs", .word s.minuteTtlSeconds)]

def UsageSettings.toJson (s : UsageSettings) : Json :=
  .object [("sink", s.sink.toJson), ("topic", .text s.topic),
    ("buffer_capacity", .word s.bufferCapacity), ("batch_size", .word s.batchSize),
    ("flush_interval_ms", .word s.flushIntervalMillis),
    ("publish_retries", .integer s.publishRetries.toNat)]

def TimeoutSettings.toJson (s : TimeoutSettings) : Json :=
  .object [("connect_ms", .word s.connectMillis), ("request_ms", .word s.requestMillis),
    ("shutdown_secs", .word s.shutdownSeconds),
    ("keep_alive", .object [("enabled", .bool s.keepAlive.enabled),
      ("timeout_secs", .word s.keepAlive.timeoutSeconds)])]

def PoolSettings.toJson (s : PoolSettings) : Json :=
  .object [("idle_timeout", .word s.idleTimeout),
    ("pool_max_idle_per_host", .word s.maxIdlePerHost)]

def LoggingSettings.toJson (s : LoggingSettings) : Json :=
  .object [("level", .text s.level), ("show_target", .bool s.showTarget)]

def TelemetrySettings.toJson (s : TelemetrySettings) : Json :=
  .object [("metrics_port", s.metricsPort.elim .null fun p => .integer p.toNat),
    ("otel_log_level", .text s.telemetryLevel)]

def Settings.toJson (s : Settings) : Json :=
  .object [("listen", .text s.listen.text), ("services", .array (s.services.map Service.toJson)),
    ("cache", s.cache.toJson), ("directory", s.directory.toJson),
    ("rate_limit", s.rateLimit.toJson), ("usage", s.usage.toJson), ("timeout", s.timeout.toJson),
    ("backend_pool", s.pool.toJson), ("logging", s.logging.toJson),
    ("telemetry", s.telemetry.toJson)]

end TenantGateway
