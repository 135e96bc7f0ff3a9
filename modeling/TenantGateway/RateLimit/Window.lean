import TenantGateway.Calendar.Timestamp

/-!
Counting windows: the calendar day and the minute a request falls in, the names of the two counters
of an organization, and the seconds left of each window. Both names carry the organization between
braces, so that a clustered store keeps them together.
-/

namespace TenantGateway.RateLimit

open Calendar (Timestamp)

/-- Minutes since 1970; a moment before 1970 has a negative one. -/
def epochMinute (t : Timestamp) : Int := t.seconds / 60

def keyHead (organization : String) : String :=
  "ratelimit:\x7b" ++ organization ++ "\x7d"

/-- Name of the counter of an organization's requests on the day of `t`. -/
def dailyKey (organization : String) (t : Timestamp) : String :=
  keyHead organization ++ ":daily:" ++ t.date.compactText

/-- Name of the counter of an organization's requests in the minute of `t`. -/
def minuteKey (organization : String) (t : Timestamp) : String :=
  keyHead organization ++ ":minute:" ++ toString (epochMinute t)

/-- Seconds until the next day begins, at least one. -/
def secondsUntilMidnight (t : Timestamp) : UInt64 :=
  UInt64.ofNat (max (86400 - t.secondOfDay) 1)

/-- Seconds until the next minute begins, at least one. -/
def secondsUntilNextMinute (t : Timestamp) : UInt64 :=
  UInt64.ofNat (max (60 - t.secondOfMinute) 1)

end TenantGateway.RateLimit
