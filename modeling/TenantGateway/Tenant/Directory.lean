import TenantGateway.Tenant.Record

/-!
The directory of keys: what it can be asked, how it fails, and a directory kept in memory.
-/

namespace TenantGateway.Tenant

/-- The active keys with their records. -/
abbrev Snapshot := Std.ExtTreeMap Fingerprint Record

/-- Why the directory gives no answer. -/
inductive DirectoryError where
  /-- A failure that may pass. -/
  | transient (reason : String)
  /-- A failure that someone has to mend. -/
  | permanent (reason : String)
  deriving DecidableEq, Repr

namespace DirectoryError

def isTransient : DirectoryError → Bool
  | .transient _ => true
  | .permanent _ => false

def message : DirectoryError → String
  | .transient reason => "tenant directory unavailable: " ++ reason
  | .permanent reason => "tenant directory error: " ++ reason

end DirectoryError

/-- A directory in memory, which can be made unavailable. -/
structure MemoryDirectory where
  keys : Snapshot
  available : Bool

namespace MemoryDirectory

def ofKeys (keys : List (Fingerprint × Record)) : MemoryDirectory :=
  { keys := keys.foldl (fun m (f, r) => m.insert f r) ∅, available := true }

def insert (d : MemoryDirectory) (f : Fingerprint) (r : Record) : MemoryDirectory :=
  { d with keys := d.keys.insert f r }

/-- Takes a key out; gives its record. -/
def remove (d : MemoryDirectory) (f : Fingerprint) : Option Record × MemoryDirectory :=
  (d.keys[f]?, { d with keys := d.keys.erase f })

/-- What is said while the directory is unavailable. -/
def outage : DirectoryError := .transient "memory directory marked unavailable"

def fetchAll (d : MemoryDirectory) : Except DirectoryError Snapshot :=
  if d.available then .ok d.keys else .error outage

def fetchOne (d : MemoryDirectory) (f : Fingerprint) : Except DirectoryError (Option Record) :=
  if d.available then .ok d.keys[f]? else .error outage

end MemoryDirectory

end TenantGateway.Tenant
