/-!
The shortest decimal that reads back as a given double, and its notations. A double is taken apart
into an exact multiple of a power of two; the search for digits is exact integer arithmetic.
-/

namespace TenantGateway.Decimal

/-- A positive number as digits times a power of ten. -/
structure Scaled where
  digits : Nat
  exponent : Int
  deriving DecidableEq, Repr

/-- The numbers that round to a double, as numerators over one denominator. The ends belong to it
when the double's significand is even. -/
structure Interval where
  low : Nat
  value : Nat
  high : Nat
  denominator : Nat
  closed : Bool

/-- The rounding interval of `significand * 2 ^ exponent`. Below a power of two the neighbouring
doubles lie closer. -/
def Interval.of (significand : Nat) (exponent : Int) (narrowBelow : Bool) : Interval :=
  let low := if narrowBelow then 4 * significand - 1 else 4 * significand - 2
  let scale := exponent - 2
  let up := Nat.pow 2 scale.toNat
  { low := low * up
    value := 4 * significand * up
    high := (4 * significand + 2) * up
    denominator := Nat.pow 2 (-scale).toNat
    closed := significand % 2 == 0 }

/-- Whether `n * 10 ^ e` lies in the interval. -/
def Interval.contains (i : Interval) (n : Nat) (e : Int) : Bool :=
  let x := n * Nat.pow 10 e.toNat * i.denominator
  let unit := Nat.pow 10 (-e).toNat
  if i.closed then i.low * unit ≤ x && x ≤ i.high * unit else i.low * unit < x && x < i.high * unit

/-- The exponent of the leading decimal digit of `value / denominator`. Below one it is the least
power of ten that is at least the inverse. -/
def leadingExponent (value denominator : Nat) : Int :=
  if denominator ≤ value then
    Int.ofNat ((Nat.toDigits 10 (value / denominator)).length - 1)
  else
    let quotient := (denominator + value - 1) / value
    let power := (Nat.toDigits 10 quotient).length - 1
    if Nat.pow 10 power == quotient then Int.negOfNat power else Int.negOfNat (power + 1)

/-- The two neighbours of the value on the grid of multiples of `10 ^ e`: the lower one, and whether
the value lies nearer the upper one, a tie going to the even neighbour. -/
def gridNeighbour (i : Interval) (e : Int) : Nat × Bool :=
  let num := i.value * Nat.pow 10 (-e).toNat
  let den := i.denominator * Nat.pow 10 e.toNat
  let below := num / den
  let twice := 2 * (num % den)
  (below, den < twice || (den == twice && below % 2 == 1))

/-- Tries grids of more and more digits; the first with a neighbour in the interval wins. -/
def searchDigits (i : Interval) (lead : Int) : Nat → Nat → Scaled
  | 0, count => { digits := (gridNeighbour i (lead - count)).1, exponent := lead - count }
  | fuel + 1, count =>
    let e := lead - count
    let (below, upperNearer) := gridNeighbour i e
    let first := if upperNearer then below + 1 else below
    let second := if upperNearer then below else below + 1
    if 0 < first && i.contains first e then { digits := first, exponent := e }
    else if 0 < second && i.contains second e then { digits := second, exponent := e }
    else searchDigits i lead fuel (count + 1)

/-- Moves zeros at the end of the digits into the exponent. -/
def Scaled.normalize (s : Scaled) : Scaled :=
  let zeros := ((Nat.toDigits 10 s.digits).reverse.takeWhile (· == '0')).length
  { digits := s.digits / Nat.pow 10 zeros, exponent := s.exponent + zeros }

/-- A double taken apart. -/
inductive Parts where
  | zero (negative : Bool)
  | finite (negative : Bool) (magnitude : Scaled)
  | infinite (negative : Bool)
  | notANumber

/-- Sign and shortest digits of a double. -/
def Parts.ofFloat (x : Float) : Parts :=
  let bits := x.toBits.toNat
  let negative := 0x8000000000000000 ≤ bits
  let biased : Nat := bits / 0x10000000000000 % 2048
  let fraction : Nat := bits % 0x10000000000000
  if biased == 2047 then
    if fraction == 0 then .infinite negative else .notANumber
  else if biased == 0 && fraction == 0 then .zero negative
  else
    let significand := if biased == 0 then fraction else fraction + 0x10000000000000
    let exponent : Int := (if biased == 0 then 1 else Int.ofNat biased) - 1075
    let i := Interval.of significand exponent (fraction == 0 && 1 < biased)
    .finite negative (searchDigits i (leadingExponent i.value i.denominator) 17 0).normalize

/-- Digits without an exponent: zeros fill the places before or after them, and a whole number has
no point. -/
def Scaled.plain (s : Scaled) : List Char :=
  let digits := Nat.toDigits 10 s.digits
  if 0 ≤ s.exponent then digits ++ List.replicate s.exponent.toNat '0'
  else
    let places := (-s.exponent).toNat
    if places < digits.length then
      digits.take (digits.length - places) ++ '.' :: digits.drop (digits.length - places)
    else '0' :: '.' :: List.replicate (places - digits.length) '0' ++ digits

/-- One digit before the point, the others after it, and the exponent with its sign. -/
def Scaled.scientific (s : Scaled) : List Char :=
  let digits := Nat.toDigits 10 s.digits
  let exponent := s.exponent + digits.length - 1
  let fraction := if digits.length ≤ 1 then [] else '.' :: digits.drop 1
  let sign := if exponent < 0 then '-' else '+'
  digits.take 1 ++ fraction ++ 'e' :: sign :: Nat.toDigits 10 exponent.natAbs

/-- Ends a whole number with one decimal. -/
def withPoint (cs : List Char) : List Char :=
  if cs.contains '.' then cs else cs ++ ['.', '0']

def signed (negative : Bool) (cs : List Char) : String :=
  String.ofList (if negative then '-' :: cs else cs)

/-- Plain notation of any double. -/
def plainText (x : Float) : String :=
  match Parts.ofFloat x with
  | .zero negative => signed negative ['0']
  | .finite negative s => signed negative s.plain
  | .infinite negative => signed negative ['i', 'n', 'f']
  | .notANumber => "NaN"

/-- Plain notation with at least one decimal. -/
def pointText (x : Float) : String :=
  match Parts.ofFloat x with
  | .zero negative => signed negative ['0', '.', '0']
  | .finite negative s => signed negative (withPoint s.plain)
  | .infinite negative => signed negative ['i', 'n', 'f']
  | .notANumber => "NaN"

/-- Plain notation for leading exponents from -5 to 15, scientific notation otherwise. -/
def mixedText (x : Float) : String :=
  match Parts.ofFloat x with
  | .finite negative s =>
    let lead := s.exponent + (Nat.toDigits 10 s.digits).length - 1
    signed negative (if -5 ≤ lead ∧ lead ≤ 15 then withPoint s.plain else s.scientific)
  | .zero negative => signed negative ['0', '.', '0']
  | .infinite negative => signed negative ['i', 'n', 'f']
  | .notANumber => "NaN"

end TenantGateway.Decimal
