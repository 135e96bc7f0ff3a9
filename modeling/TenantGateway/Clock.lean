/-!
Time on a monotonic clock: spans, instants, and the end of the clock's range. The clock counts
nanoseconds; whole seconds are bounded by a signed 64-bit word, so a deadline can fall outside it.
-/

namespace TenantGateway

/-- A span of time in nanoseconds. -/
structure Duration where
  nanos : Nat
  deriving DecidableEq, Repr, Inhabited

/-- A reading of the monotonic clock, in nanoseconds since it started. -/
structure Instant where
  nanos : Nat
  deriving DecidableEq, Repr, Inhabited

namespace Duration

def zero : Duration := ⟨0⟩

def ofSeconds (n : Nat) : Duration := ⟨1000000000 * n⟩

def ofMillis (n : Nat) : Duration := ⟨1000000 * n⟩

def add (a b : Duration) : Duration := ⟨a.nanos + b.nanos⟩

/-- Difference, zero when `b` is the longer span. -/
def sub (a b : Duration) : Duration := ⟨a.nanos - b.nanos⟩

def wholeSeconds (d : Duration) : Nat := d.nanos / 1000000000

def wholeMillis (d : Duration) : Nat := d.nanos / 1000000

instance : Add Duration := ⟨add⟩

instance : LE Duration := ⟨fun a b => a.nanos ≤ b.nanos⟩

instance : LT Duration := ⟨fun a b => a.nanos < b.nanos⟩

instance (a b : Duration) : Decidable (a ≤ b) := inferInstanceAs (Decidable (a.nanos ≤ b.nanos))

instance (a b : Duration) : Decidable (a < b) := inferInstanceAs (Decidable (a.nanos < b.nanos))

@[simp] theorem le_def (a b : Duration) : a ≤ b ↔ a.nanos ≤ b.nanos := Iff.rfl

@[simp] theorem lt_def (a b : Duration) : a < b ↔ a.nanos < b.nanos := Iff.rfl

@[simp] theorem nanos_add (a b : Duration) : (a + b).nanos = a.nanos + b.nanos := rfl

-- The decimal digits after the point: `width` digits of `n` without the zeros at the end.
private def fractionText (width n : Nat) : String :=
  let digits := Nat.toDigits 10 n
  let all := List.replicate (width - digits.length) '0' ++ digits
  let kept := (all.reverse.dropWhile (· == '0')).reverse
  if kept.isEmpty then "" else String.ofList ('.' :: kept)

/-- The span in its largest unit of at least one, with as many decimals as it needs. -/
def text (d : Duration) : String :=
  if 1000000000 ≤ d.nanos then
    toString (d.nanos / 1000000000) ++ fractionText 9 (d.nanos % 1000000000) ++ "s"
  else if 1000000 ≤ d.nanos then
    toString (d.nanos / 1000000) ++ fractionText 6 (d.nanos % 1000000) ++ "ms"
  else if 1000 ≤ d.nanos then
    toString (d.nanos / 1000) ++ fractionText 3 (d.nanos % 1000) ++ "µs"
  else
    toString d.nanos ++ "ns"

end Duration

namespace Instant

instance : LE Instant := ⟨fun a b => a.nanos ≤ b.nanos⟩

instance : LT Instant := ⟨fun a b => a.nanos < b.nanos⟩

instance (a b : Instant) : Decidable (a ≤ b) := inferInstanceAs (Decidable (a.nanos ≤ b.nanos))

instance (a b : Instant) : Decidable (a < b) := inferInstanceAs (Decidable (a.nanos < b.nanos))

@[simp] theorem le_def (a b : Instant) : a ≤ b ↔ a.nanos ≤ b.nanos := Iff.rfl

@[simp] theorem lt_def (a b : Instant) : a < b ↔ a.nanos < b.nanos := Iff.rfl

/-- The instant at which the clock starts. -/
def start : Instant := ⟨0⟩

/-- The instant `d` after `t`. -/
def after (t : Instant) (d : Duration) : Instant := ⟨t.nanos + d.nanos⟩

instance : HAdd Instant Duration Instant := ⟨after⟩

@[simp] theorem nanos_add (t : Instant) (d : Duration) : (t + d).nanos = t.nanos + d.nanos := rfl

/-- The time from `earlier` to `t`, zero when `t` comes first. -/
def since (t earlier : Instant) : Duration := ⟨t.nanos - earlier.nanos⟩

/-- The time since an earlier instant, added to it, gives the later one. -/
theorem add_since {t u : Instant} (h : t ≤ u) : t + u.since t = u :=
  congrArg Instant.mk (Nat.add_sub_cancel' h)

def min (a b : Instant) : Instant := if b < a then b else a

/-- A tick of a periodic timer that is served later than this counts as missed. -/
def tickSlack : Duration := Duration.ofMillis 5

/-- The tick after the one due at `due` and served at `now`: a period after it, or a period from now
when it was missed. -/
def nextTick (period : Duration) (due now : Instant) : Instant :=
  if due + tickSlack < now then now + period else due + period

/-- The last whole second that an instant can lie in. -/
def lastSecond : Nat := 0x7fffffffffffffff

/-- Instants that the clock can represent. -/
def InRange (t : Instant) : Prop := t.nanos / 1000000000 ≤ lastSecond

instance (t : Instant) : Decidable t.InRange := inferInstanceAs (Decidable (_ ≤ _))

/-- The instant a number of seconds after `t`, if the clock can represent it. -/
def deadline? (t : Instant) (seconds : Nat) : Option Instant :=
  let due := t + Duration.ofSeconds seconds
  if due.InRange then some due else none

/-- A deadline is the plain sum, where the clock can represent it. -/
theorem deadline?_eq_some_iff {t u : Instant} {seconds : Nat} :
    t.deadline? seconds = some u ↔
      u = t + Duration.ofSeconds seconds ∧ (t + Duration.ofSeconds seconds).InRange := by
  simp only [deadline?]
  split <;> simp_all [eq_comm]

end Instant

/-- Text of the failure to represent a deadline. -/
def Instant.overflowMessage : String := "overflow when adding duration to instant"

end TenantGateway
