import TenantGateway.Json.Printer

/-!
A tenant's quota: how many requests it may make in a minute and in a day.
-/

namespace TenantGateway

/-- Limits of one key. The burst comes on top of the steady rate of a minute and never raises the
day's limit. -/
structure Quota where
  requestsPerMinute : UInt64
  requestsPerDay : UInt64
  burstAllowance : UInt64
  deriving DecidableEq, Repr, Inhabited

namespace Quota

/-- Sum of two counts, held at the largest word. -/
def addCapped (a b : UInt64) : UInt64 :=
  if a.toNat + b.toNat < UInt64.size then a + b else UInt64.ofNat (UInt64.size - 1)

/-- The most requests of one minute: steady rate and burst. -/
def minuteCeiling (q : Quota) : UInt64 :=
  addCapped q.requestsPerMinute q.burstAllowance

/-- The quota that allows nothing. -/
def none : Quota := ⟨0, 0, 0⟩

def toJson (q : Quota) : Json :=
  .object [("requests_per_minute", .word q.requestsPerMinute),
    ("requests_per_day", .word q.requestsPerDay), ("burst_allowance", .word q.burstAllowance)]

/-- The sum is the plain one, or the largest word. -/
theorem toNat_addCapped (a b : UInt64) :
    (addCapped a b).toNat = min (a.toNat + b.toNat) (UInt64.size - 1) := by
  unfold addCapped
  have ha := a.toNat_lt
  have hb := b.toNat_lt
  split
  next h => simp only [UInt64.toNat_add, UInt64.size] at *; omega
  next h => simp only [UInt64.size] at *; simp; omega

end Quota

end TenantGateway
