import TenantGateway.Metrics.Measurement
import TenantGateway.Decimal.Shortest

/-!
Measurements added up into series, and their exposition as text. A series is an instrument with
labels; counters add up, gauges keep the last value, and histograms count observations by size.
-/

namespace TenantGateway.Metrics

inductive Instrument where
  | requests
  | requestDuration
  | errors
  | authFailures
  | cacheLookups
  | cacheRefreshes
  | cacheEntries
  | rateLimitDecisions
  | rateLimitDuration
  | backendRequests
  | backendErrors
  | backendDuration
  | usageEvents
  | usageBatches
  | buildInfo
  deriving DecidableEq, Repr

inductive Kind where
  | counter
  | gauge
  | histogram
  deriving DecidableEq, Repr

namespace Instrument

def kind : Instrument → Kind
  | .requestDuration | .rateLimitDuration | .backendDuration => .histogram
  | .cacheEntries | .buildInfo => .gauge
  | _ => .counter

/-- The name under which the instrument is exposed; a counter's ends in a total twice over. -/
def exposedName : Instrument → String
  | .requests => "tollgate_requests_total_total"
  | .requestDuration => "tollgate_requests_duration_seconds"
  | .errors => "tollgate_errors_total_total"
  | .authFailures => "tollgate_auth_failures_total_total"
  | .cacheLookups => "tollgate_cache_lookups_total_total"
  | .cacheRefreshes => "tollgate_cache_refresh_total_total"
  | .cacheEntries => "tollgate_cache_entries"
  | .rateLimitDecisions => "tollgate_rate_limit_decisions_total_total"
  | .rateLimitDuration => "tollgate_rate_limit_duration_seconds"
  | .backendRequests => "tollgate_backend_requests_total_total"
  | .backendErrors => "tollgate_backend_errors_total_total"
  | .backendDuration => "tollgate_backend_duration_seconds"
  | .usageEvents => "tollgate_usage_events_total_total"
  | .usageBatches => "tollgate_usage_batches_total_total"
  | .buildInfo => "tollgate_build_info"

def description : Instrument → String
  | .requests => "Total number of requests processed"
  | .requestDuration => "Request duration in seconds, admission included"
  | .errors => "Total number of requests answered with a gateway error"
  | .authFailures => "Authentication failures by reason (missing, invalid, unavailable)"
  | .cacheLookups => "Tenant cache lookups. result=hit|miss|expired"
  | .cacheRefreshes => "Tenant cache refresh cycles. result=ok|failed"
  | .cacheEntries => "Entries in the current tenant cache generation"
  | .rateLimitDecisions => "Rate limiter outcomes. result=allowed|denied|degraded|unavailable"
  | .rateLimitDuration => "Check-and-increment round-trip duration in seconds"
  | .backendRequests => "Total number of requests forwarded to backends"
  | .backendErrors => "Backend failures (unavailable, timeout)"
  | .backendDuration => "Backend request duration in seconds"
  | .usageEvents => "Usage events by outcome. result=enqueued|dropped|published|failed"
  | .usageBatches => "Usage batches published to the sink"
  | .buildInfo => "Build information (version, rust version)"

end Instrument

/-- Names and values, sorted by name. -/
abbrev Labels := List (String × String)

/-- What a measurement does to one series. -/
inductive Effect where
  | add (i : Instrument) (labels : Labels) (n : UInt64)
  | set (i : Instrument) (labels : Labels) (n : UInt64)
  | observe (i : Instrument) (labels : Labels) (seconds : Float)

def effects : Measurement → List Effect
  | .request method status service seconds =>
    let labels := [("method", method), ("service", service), ("status_code", toString status)]
    [.add .requests labels 1, .observe .requestDuration labels seconds]
  | .error kind => [.add .errors [("error_type", kind)] 1]
  | .authFailure reason => [.add .authFailures [("reason", reason)] 1]
  | .cacheLookup result => [.add .cacheLookups [("result", result)] 1]
  | .cacheRefresh result entries =>
    .add .cacheRefreshes [("result", result)] 1 ::
      entries.elim [] fun n => [.set .cacheEntries [] n]
  | .rateLimit result limit =>
    [.add .rateLimitDecisions (limit.elim [] (fun t => [("limit_type", t)]) ++
      [("result", result)]) 1]
  | .rateLimitDuration seconds => [.observe .rateLimitDuration [] seconds]
  | .backendRequest service status seconds =>
    let labels := [("service", service), ("status_code", toString status)]
    [.add .backendRequests labels 1, .observe .backendDuration labels seconds]
  | .backendError service kind =>
    [.add .backendErrors [("error_type", kind), ("service", service)] 1]
  | .usageEvents result count =>
    if count = 0 then [] else [.add .usageEvents [("result", result)] count]
  | .usageBatch => [.add .usageBatches [] 1]

/-- Upper bounds of the finite buckets, each inclusive. -/
def bucketBounds : List Nat :=
  [0, 5, 10, 25, 50, 75, 100, 250, 500, 750, 1000, 2500, 5000, 7500, 10000]

/-- Observations: how many lie within each bound, how many there are, and their sum. -/
structure Histogram where
  within : List Nat
  count : Nat
  sum : Float

def Histogram.empty : Histogram :=
  { within := bucketBounds.map fun _ => 0, count := 0, sum := 0 }

def Histogram.observe (h : Histogram) (x : Float) : Histogram :=
  { within := (bucketBounds.zip h.within).map fun (bound, n) =>
      if x ≤ bound.toFloat then n + 1 else n
    count := h.count + 1
    sum := h.sum + x }

inductive Cell where
  | number (n : UInt64)
  | histogram (h : Histogram)

structure Series where
  instrument : Instrument
  labels : Labels
  deriving DecidableEq, Repr

/-- Every series recorded so far, in the order of its first measurement. -/
structure Registry where
  cells : List (Series × Cell)

namespace Registry

/-- Replaces or adds the cell of a series. -/
def update (s : Series) (f : Option Cell → Cell) : List (Series × Cell) → List (Series × Cell)
  | [] => [(s, f none)]
  | (t, c) :: rest => if t = s then (t, f (some c)) :: rest else (t, c) :: update s f rest

def apply (r : Registry) : Effect → Registry
  | .add i labels n =>
    ⟨update ⟨i, labels⟩ (fun
      | some (.number m) => .number (m + n)
      | _ => .number n) r.cells⟩
  | .set i labels n => ⟨update ⟨i, labels⟩ (fun _ => .number n) r.cells⟩
  | .observe i labels x =>
    ⟨update ⟨i, labels⟩ (fun
      | some (.histogram h) => .histogram (h.observe x)
      | _ => .histogram (Histogram.empty.observe x)) r.cells⟩

/-- A registry that knows only what was built. -/
def initial : Registry :=
  ⟨[(⟨.buildInfo, [("rust_version", ""), ("version", "0.0.1")]⟩, .number 1)]⟩

def record (r : Registry) (m : Measurement) : Registry := (effects m).foldl apply r

def recordAll (r : Registry) (ms : List Measurement) : Registry := ms.foldl record r

end Registry

/-- A label's value with backslashes, line ends and quotes escaped. -/
def escapeLabel (s : String) : String :=
  String.ofList (s.toList.flatMap fun c =>
    match c with
    | '\\' => ['\\', '\\']
    | '\n' => ['\\', 'n']
    | '"' => ['\\', '"']
    | c => [c])

def labelText (labels : Labels) : String :=
  let label := fun (name, value) => name ++ "=\"" ++ escapeLabel value ++ "\""
  "\x7b" ++ ",".intercalate (labels.map label) ++ "\x7d"

/-- Labels that every series carries. -/
def scopeLabels : Labels := [("otel_scope_name", "tollgate")]

def numberText (n : Nat) : String := Decimal.plainText (Float.ofNat n)

/-- The lines of one series. -/
def Series.lines (s : Series) (c : Cell) : List String :=
  let name := s.instrument.exposedName
  let labels := s.labels ++ scopeLabels
  match c with
  | .number n => [name ++ labelText labels ++ " " ++ numberText n.toNat]
  | .histogram h =>
    let bucket (bound : String) (n : Nat) : String :=
      name ++ "_bucket" ++ labelText (labels ++ [("le", bound)]) ++ " " ++ numberText n
    (bucketBounds.zip h.within).map (fun (bound, n) => bucket (toString bound) n) ++
      [bucket "+Inf" h.count,
        name ++ "_sum" ++ labelText labels ++ " " ++ Decimal.plainText h.sum,
        name ++ "_count" ++ labelText labels ++ " " ++ numberText h.count]

def Kind.name : Kind → String
  | .counter => "counter"
  | .gauge => "gauge"
  | .histogram => "histogram"

/-- The two lines that introduce an instrument. -/
def Instrument.introduction (i : Instrument) : List String :=
  ["# HELP " ++ i.exposedName ++ " " ++ i.description,
    "# TYPE " ++ i.exposedName ++ " " ++ i.kind.name]

namespace Registry

/-- The instruments that have a series. -/
def instruments (r : Registry) : List Instrument :=
  (r.cells.map (·.1.instrument)).eraseDups

/-- All lines of the exposition, sorted. -/
def lines (r : Registry) : List String :=
  let all := r.instruments.flatMap Instrument.introduction ++
    r.cells.flatMap fun (s, c) => s.lines c
  all.mergeSort fun a b => a ≤ b

/-- The lines that hold no measured time: values only, without sizes and sums of durations. -/
def stableLines (r : Registry) : List String :=
  let isTimed (s : Series) : Bool := s.instrument.kind == .histogram
  let all := r.cells.flatMap fun (s, c) =>
    if isTimed s then (s.lines c).drop (bucketBounds.length + 2) else s.lines c
  all.mergeSort fun a b => a ≤ b

end Registry

end TenantGateway.Metrics
