import TenantGateway.Usage.Reader
import TenantGateway.Clock

/-!
Where batches of usage events go: records as a sink takes them, the ways in which a sink fails, and
a sink that keeps its batches in memory.
-/

namespace TenantGateway.Usage

/-- A written event under the key that keeps its order. -/
structure SinkRecord where
  key : String
  payload : String
  deriving DecidableEq, Repr

def SinkRecord.ofEvent (e : Event) : SinkRecord :=
  { key := e.partitionKey, payload := e.toJson.render }

inductive SinkError where
  | publish (text : String)
  | flushTimeout (limit : Duration)
  | config (text : String)
  deriving DecidableEq, Repr

def SinkError.message : SinkError → String
  | .publish text => "publish failed: " ++ text
  | .flushTimeout limit => "sink flush did not finish within " ++ limit.text
  | .config text => "sink configuration error: " ++ text

/-- Batches in memory; the next publications can be made to fail. -/
structure MemorySink where
  batches : List (List SinkRecord)
  failuresLeft : Nat
  flushes : Nat
  deriving Inhabited

namespace MemorySink

def empty : MemorySink := { batches := [], failuresLeft := 0, flushes := 0 }

/-- Whether the batch was taken. A refused batch leaves nothing behind. -/
def publish (s : MemorySink) (records : List SinkRecord) : Bool × MemorySink :=
  if 0 < s.failuresLeft then (false, { s with failuresLeft := s.failuresLeft - 1 })
  else (true, { s with batches := s.batches ++ [records] })

def flush (s : MemorySink) : MemorySink := { s with flushes := s.flushes + 1 }

/-- The published events in order, read back from their records. -/
def events (s : MemorySink) : List Event :=
  s.batches.flatten.filterMap fun r => (Event.parse r.payload).toOption

end MemorySink

end TenantGateway.Usage
