import TenantGateway.Tenant.Record

/-!
The cache of tenant records. A refresh replaces it as a whole, which counts as a new generation; an
answer of the directory to a single question replaces one entry.
-/

namespace TenantGateway.Tenant

structure Cache where
  entries : Std.ExtTreeMap Fingerprint Entry
  generation : Nat

/-- What the cache says about a fingerprint. -/
inductive Lookup where
  | hit (e : Entry)
  | expired (e : Entry)
  | miss
  deriving DecidableEq, Repr

namespace Lookup

/-- The entry, if it is still good. -/
def fresh? : Lookup → Option Entry
  | .hit e => some e
  | _ => none

def isHit : Lookup → Bool
  | .hit _ => true
  | _ => false

def name : Lookup → String
  | .hit _ => "hit"
  | .expired _ => "expired"
  | .miss => "miss"

end Lookup

namespace Cache

def empty : Cache := { entries := ∅, generation := 0 }

instance : Inhabited Cache := ⟨empty⟩

def lookup (c : Cache) (f : Fingerprint) (now : Instant) : Lookup :=
  match c.entries[f]? with
  | none => .miss
  | some e => if e.isExpired now then .expired e else .hit e

def size (c : Cache) : Nat := c.entries.size

/-- Sets the entry of one fingerprint. -/
def upsert (c : Cache) (e : Entry) : Cache :=
  { c with entries := c.entries.insert e.fingerprint e }

/-- Starts a new generation with other entries. -/
def replaceAll (c : Cache) (entries : Std.ExtTreeMap Fingerprint Entry) : Cache :=
  { entries, generation := c.generation + 1 }

/-- Entries keyed by fingerprint; of several for one fingerprint, the last counts. -/
def entriesOf (es : List Entry) : Std.ExtTreeMap Fingerprint Entry :=
  es.foldl (fun m e => m.insert e.fingerprint e) ∅

/-- The entries in the order of their fingerprints. -/
def toList (c : Cache) : List Entry := c.entries.toList.map (·.2)

end Cache

end TenantGateway.Tenant
