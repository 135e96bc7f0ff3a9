import TenantGateway.Decimal.Shortest
import TenantGateway.Toml.DateTime
import TenantGateway.Toml.Value

/-!
Values that stand without quotes or brackets: booleans, integers, floating point numbers, dates and
times.
-/

namespace TenantGateway.Toml

/-- The digits of a numeral without its underscores, each of which stands between two digits. -/
def digitRun? (isDigit : Char → Bool) : List Char → Option (List Char)
  | [] => none
  | [c] => if isDigit c then some [c] else none
  | c :: '_' :: rest =>
    if isDigit c then (digitRun? isDigit rest).map (c :: ·) else none
  | c :: rest => if isDigit c then (digitRun? isDigit rest).map (c :: ·) else none

/-- The sign in front of a numeral; negative when true. -/
def splitSign : List Char → Bool × List Char
  | '-' :: rest => (true, rest)
  | '+' :: rest => (false, rest)
  | cs => (false, cs)

/-- The digits of a decimal whole number: no zeros in front. -/
def wholeDigits? (cs : List Char) : Option (List Char) :=
  (digitRun? Char.isDigit cs).filter fun digits => digits == ['0'] || digits.head? != some '0'

def valueInBase (base : Nat) (digits : List Char) : Nat :=
  digits.foldl (fun n c => n * base + (Text.hexValue? c).getD 0) 0

def isOctal (c : Char) : Bool := '0' ≤ c && c ≤ '7'

def isBinary (c : Char) : Bool := c == '0' || c == '1'

/-- Integers have at most 128 bits. -/
def isHeld (n : Int) : Bool := -(Nat.pow 2 127 : Nat) ≤ n && n < (Nat.pow 2 128 : Nat)

def integer? (cs : List Char) : Option Int :=
  let n? : Option Int :=
    match cs with
    | '0' :: 'x' :: rest =>
      (digitRun? (fun c => (Text.hexValue? c).isSome) rest).map fun d => (valueInBase 16 d : Nat)
    | '0' :: 'o' :: rest => (digitRun? isOctal rest).map fun d => (valueInBase 8 d : Nat)
    | '0' :: 'b' :: rest => (digitRun? isBinary rest).map fun d => (valueInBase 2 d : Nat)
    | cs =>
      let (negative, cs) := splitSign cs
      (wholeDigits? cs).map fun d =>
        if negative then -(Text.digitsValue d : Int) else (Text.digitsValue d : Int)
  n?.filter isHeld

/-- The double nearest to `digits * 10 ^ exponent`, unless it is too large for one. -/
def double? (digits : Nat) (exponent : Int) : Option Float :=
  let lead := exponent + (Nat.toDigits 10 digits).length
  if digits = 0 ∨ lead < -400 then some 0.0
  else if 400 < lead then none
  else
    let x := Float.ofScientific digits (exponent < 0) exponent.natAbs
    if x.isInf then none else some x

/-- A decimal numeral with a point, an exponent or both; or one of the words `inf` and `nan`. -/
def float? (cs : List Char) : Option Float :=
  let (negative, cs) := splitSign cs
  let signed (x : Float) : Float := if negative then -x else x
  if cs = ['i', 'n', 'f'] then some (signed (1.0 / 0.0))
  else if cs = ['n', 'a', 'n'] then some (0.0 / 0.0)
  else do
    let mantissa := cs.takeWhile fun c => c != 'e' && c != 'E'
    let (whole, fraction) := (mantissa.takeWhile (· != '.'), mantissa.dropWhile (· != '.'))
    let whole ← wholeDigits? whole
    let decimals ←
      match fraction with
      | [] => some []
      | _ :: rest => digitRun? Char.isDigit rest
    let exponent : Int ←
      match cs.drop mantissa.length with
      | [] => if fraction.isEmpty then none else some 0
      | _ :: rest =>
        let (negative, rest) := splitSign rest
        (digitRun? Char.isDigit rest).map fun d =>
          if negative then -(Text.digitsValue d : Int) else (Text.digitsValue d : Int)
    let x ← double? (Text.digitsValue (whole ++ decimals)) (exponent - decimals.length)
    return signed x

/-- The value that a bare word spells. -/
def scalar? (cs : List Char) : Option Value :=
  if cs = ['t', 'r', 'u', 'e'] then some (.boolean true)
  else if cs = ['f', 'a', 'l', 's', 'e'] then some (.boolean false)
  else
    match integer? cs with
    | some n => some (.integer n)
    | none =>
      match float? cs with
      | some x => some (.number (Decimal.pointText x))
      | none => if isDateTime cs then some (.time (String.ofList cs)) else none

/-- Characters of a bare word. -/
def isWordChar (c : Char) : Bool :=
  c.isAlphanum || c == '_' || c == '+' || c == '-' || c == '.' || c == ':'

/-- Scans a value that stands bare; between a date and a time there may be one space. -/
def scanScalar? (cs : List Char) : Option (Value × List Char) :=
  let word := cs.takeWhile isWordChar
  let rest := cs.drop word.length
  let (word, rest) :=
    match rest with
    | ' ' :: c :: tail =>
      if isDate word ∧ c.isDigit then
        let time := (c :: tail).takeWhile isWordChar
        (word ++ ' ' :: time, (c :: tail).drop time.length)
      else (word, rest)
    | _ => (word, rest)
  (scalar? word).map fun v => (v, rest)

end TenantGateway.Toml
