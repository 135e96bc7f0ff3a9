import TenantGateway.Calendar.Timestamp
import TenantGateway.Text.Blank

/-!
RFC 3339 texts of timestamps. Writing gives one form: as many groups of three decimals as the moment
needs, and the zone `Z`. Reading is lenient: white space around the fields, short fields, years with
a sign, any offset from UTC, and decimals past the ninth, which are dropped.
-/

namespace TenantGateway.Calendar

/-- Decimals of a second: none, three, six or nine digits after a point. -/
def fractionChars (nanos : Nat) : List Char :=
  if nanos = 0 then []
  else if nanos % 1000000 = 0 then '.' :: Text.paddedDigits 3 (nanos / 1000000)
  else if nanos % 1000 = 0 then '.' :: Text.paddedDigits 6 (nanos / 1000)
  else '.' :: Text.paddedDigits 9 nanos

namespace Timestamp

def rfc3339Chars (t : Timestamp) : List Char :=
  let s := t.secondOfDay
  let second := if t.isLeap then s % 60 + 1 else s % 60
  t.date.text.toList ++ 'T' :: Text.paddedDigits 2 (s / 3600) ++
    ':' :: Text.paddedDigits 2 (s / 60 % 60) ++ ':' :: Text.paddedDigits 2 second ++
    fractionChars (t.nanos % 1000000000) ++ ['Z']

/-- The moment in UTC; a leap second is the sixtieth second of its minute. -/
def rfc3339 (t : Timestamp) : String := String.ofList t.rfc3339Chars

end Timestamp

/-- Why a text is not a timestamp. -/
inductive TimestampError where
  | outOfRange
  | impossible
  | invalid
  | tooShort
  | tooLong
  deriving DecidableEq, Repr

def TimestampError.message : TimestampError → String
  | .outOfRange => "input is out of range"
  | .impossible => "no possible date and time matching input"
  | .invalid => "input contains invalid characters"
  | .tooShort => "premature end of input"
  | .tooLong => "trailing input"

/-- A reader of a field: its value and the text after it. -/
abbrev Scan (α : Type) := List Char → Except TimestampError (α × List Char)

def skipBlanks (cs : List Char) : List Char := cs.dropWhile Text.isBlank

/-- Whether fewer than two bytes are left. -/
def isUnderTwoBytes : List Char → Bool
  | [] => true
  | [c] => c.utf8Size == 1
  | _ => false

/-- A run of at least one digit, of at most `width` where there is a width. -/
def scanNumber (width : Option Nat) : Scan Nat := fun cs =>
  let digits := (match width with | some w => cs.take w | none => cs).takeWhile Char.isDigit
  match cs with
  | [] => .error .tooShort
  | _ :: _ =>
    if digits.isEmpty then .error .invalid
    else
      let n := Text.digitsValue digits
      if n < 0x8000000000000000 then .ok (n, cs.drop digits.length) else .error .outOfRange

/-- A field of at most two digits within bounds, after white space. -/
def scanField (low high : Nat) : Scan Nat := fun cs => do
  let (n, cs) ← scanNumber (some 2) (skipBlanks cs)
  if low ≤ n ∧ n ≤ high then return (n, cs) else throw .outOfRange

/-- A separator, after white space. -/
def scanSeparator (c : Char) : Scan Unit := fun cs =>
  match skipBlanks cs with
  | [] => .error .tooShort
  | d :: rest => if d = c then .ok ((), rest) else .error .invalid

/-- Four digits at most, or any number of them after a sign. -/
def scanYear : Scan Int := fun cs => do
  let (year, cs) ←
    match skipBlanks cs with
    | '-' :: rest => do
      let (n, rest) ← scanNumber none rest
      pure (-(n : Int), rest)
    | '+' :: rest => do
      let (n, rest) ← scanNumber none rest
      pure ((n : Int), rest)
    | cs => do
      let (n, rest) ← scanNumber (some 4) cs
      pure ((n : Int), rest)
  if -0x80000000 ≤ year ∧ year < 0x80000000 then return (year, cs) else throw .outOfRange

def scanDate : Scan Date := fun cs => do
  let (year, cs) ← scanYear cs
  let ((), cs) ← scanSeparator '-' cs
  let (month, cs) ← scanField 1 12 cs
  let ((), cs) ← scanSeparator '-' cs
  let (day, cs) ← scanField 1 31 cs
  return ({ year, month, day }, cs)

/-- Nanoseconds from the digits after a point. -/
def scanDecimals : Scan Nat := fun cs =>
  match cs with
  | '.' :: rest => do
    let (n, after) ← scanNumber (some 9) rest
    return (n * Nat.pow 10 (9 - (rest.length - after.length)), after.dropWhile Char.isDigit)
  | cs => .ok (0, cs)

/-- A time of day. -/
structure ClockTime where
  hour : Nat
  minute : Nat
  second : Nat
  nanos : Nat
  deriving DecidableEq, Repr

def scanClockTime : Scan ClockTime := fun cs => do
  let (hour, cs) ← scanField 0 23 cs
  let ((), cs) ← scanSeparator ':' cs
  let (minute, cs) ← scanField 0 59 cs
  let ((), cs) ← scanSeparator ':' cs
  let (second, cs) ← scanField 0 60 cs
  let (nanos, cs) ← scanDecimals cs
  return ({ hour, minute, second, nanos }, cs)

def scanTwoDigits : Scan Nat := fun cs =>
  if isUnderTwoBytes cs then .error .tooShort
  else
    match cs with
    | a :: b :: rest =>
      if a.isDigit ∧ b.isDigit then .ok (Text.digitsValue [a, b], rest) else .error .invalid
    | _ => .error .invalid

/-- Minutes of an offset: two digits, the first of them below six. -/
def scanOffsetMinutes : Scan Nat := fun cs => do
  let (n, cs) ← scanTwoDigits cs
  if n < 60 then return (n, cs) else throw .outOfRange

/-- Seconds east of UTC: `Z`, or a sign, hours and minutes with any colons and white space between
them. -/
def scanOffset : Scan Int := fun cs =>
  let magnitude : Scan Nat := fun cs => do
    let (hours, cs) ← scanTwoDigits cs
    let (minutes, cs) ← scanOffsetMinutes (cs.dropWhile fun c => c == ':' || Text.isBlank c)
    return (hours * 3600 + minutes * 60, cs)
  match cs with
  | [] => .error .tooShort
  | c :: rest =>
    if c = 'Z' ∨ c = 'z' then .ok (0, rest)
    else if c = '+' then (magnitude rest).map fun (n, cs) => ((n : Int), cs)
    else if c = '-' ∨ c = '\u2212' then (magnitude rest).map fun (n, cs) => (-(n : Int), cs)
    else .error .invalid

/-- The word `UTC` in any case, or an offset, after white space. -/
def scanZone : Scan Int := fun cs =>
  match skipBlanks cs with
  | a :: b :: c :: rest =>
    if a.toLower = 'u' ∧ b.toLower = 't' ∧ c.toLower = 'c' then .ok (0, rest)
    else scanOffset (a :: b :: c :: rest)
  | cs => scanOffset cs

/-- The mark between date and time. -/
def scanTimeMark : Scan Unit := fun cs =>
  match cs with
  | [] => .error .tooShort
  | c :: rest => if c = 'T' ∨ c = 't' ∨ c = ' ' then .ok ((), rest) else .error .invalid

/-- The years that a date can have. -/
def isDateYear (year : Int) : Bool := -262143 ≤ year && year ≤ 262142

/-- The moment of a local date and time at an offset. Second sixty is the leap second after second
fifty-nine. -/
def moment (date : Date) (time : ClockTime) (offset : Int) : Except TimestampError Timestamp :=
  if ¬(date.Valid ∧ isDateYear date.year) then .error .outOfRange
  else if ¬(-86400 < offset ∧ offset < 86400) then .error .outOfRange
  else
    let leap := time.second = 60
    let second := if leap then 59 else time.second
    let nanos := if leap then time.nanos + 1000000000 else time.nanos
    let seconds :=
      date.dayNumber * 86400 + (time.hour * 3600 + time.minute * 60 + second : Nat) - offset
    match Timestamp.ofUnix? seconds nanos with
    | some t => .ok t
    | none => .error .impossible

/-- Reads a timestamp. -/
def Timestamp.parse (s : String) : Except TimestampError Timestamp := do
  let (date, cs) ← scanDate s.toList
  let ((), cs) ← scanTimeMark cs
  let (time, cs) ← scanClockTime cs
  let (offset, cs) ← scanZone cs
  if (skipBlanks cs).isEmpty then moment date time offset else throw .tooLong

end TenantGateway.Calendar
