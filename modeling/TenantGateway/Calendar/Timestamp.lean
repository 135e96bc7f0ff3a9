import TenantGateway.Calendar.Date

/-!
Moments of coordinated universal time, to the nanosecond and with leap seconds, in the years that
the gateway can represent.
-/

namespace TenantGateway.Calendar

/-- The first second of the year -262143, counted from 1970. -/
def firstSecond : Int := -8334601228800

/-- The last second of the year 262142, counted from 1970. -/
def lastSecond : Int := 8210266876799

/-- A moment: whole seconds since 1970 and nanoseconds. A leap second repeats the last second of a
minute, and its nanoseconds run on from one billion. Nanoseconds past a billion in another second of a
minute, which no clock and no text gives, are left out. -/
structure Timestamp where
  seconds : Int
  nanos : Nat
  inRange : firstSecond ≤ seconds ∧ seconds ≤ lastSecond
  nanos_lt : nanos < 1000000000 ∨ nanos < 2000000000 ∧ seconds % 60 = 59
  deriving DecidableEq

namespace Timestamp

/-- The moment a number of seconds and nanoseconds after 1970, where it can be represented. -/
def ofUnix? (seconds : Int) (nanos : Nat) : Option Timestamp :=
  if hs : firstSecond ≤ seconds ∧ seconds ≤ lastSecond then
    if hn : nanos < 1000000000 ∨ nanos < 2000000000 ∧ seconds % 60 = 59 then
      some { seconds, nanos, inRange := hs, nanos_lt := hn }
    else none
  else none

def epoch : Timestamp :=
  { seconds := 0, nanos := 0, inRange := by decide, nanos_lt := by decide }

instance : Inhabited Timestamp := ⟨epoch⟩

/-- Days since 1970-01-01. -/
def dayNumber (t : Timestamp) : Int := t.seconds / 86400

def date (t : Timestamp) : Date := Date.ofDayNumber t.dayNumber

/-- Seconds since midnight; a leap second counts with the second before it. -/
def secondOfDay (t : Timestamp) : Nat := (t.seconds % 86400).toNat

def secondOfMinute (t : Timestamp) : Nat := (t.seconds % 60).toNat

/-- Whether the moment lies in a leap second. -/
def isLeap (t : Timestamp) : Bool := 1000000000 ≤ t.nanos

/-- Order in time. -/
def isBefore (t u : Timestamp) : Bool :=
  t.seconds < u.seconds || (t.seconds == u.seconds && t.nanos < u.nanos)

end Timestamp

end TenantGateway.Calendar
