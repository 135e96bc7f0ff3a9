import TenantGateway.Json.Event
import TenantGateway.Decode.Fault

/-!
The value of a JSON numeral. A whole number that fits a 64-bit word is exact; every other numeral is
a double, computed from at most nineteen or twenty leading digits and a power of ten.
-/

namespace TenantGateway.Json

inductive Number where
  | integer (n : Int)
  | real (x : Float)

/-- Appends digits to a significand while it fits an unsigned 64-bit word; gives the significand
and the number of digits that were appended. -/
def appendDigits (significand : Nat) : List Char → Nat × Nat
  | [] => (significand, 0)
  | c :: rest =>
    let next := significand * 10 + (c.toNat - 48)
    if next < UInt64.size then
      let (last, count) := appendDigits next rest
      (last, count + 1)
    else (significand, 0)

/-- `x * 10 ^ exponent`, in steps of at most 308 places; overflow has no value. -/
def scaleByTen (x : Float) (exponent : Int) : Nat → Option Float
  | 0 => some x
  | fuel + 1 =>
    if exponent.natAbs ≤ 308 then
      let power := Float.ofScientific 1 false exponent.natAbs
      if 0 ≤ exponent then
        let y := x * power
        if y.isInf then none else some y
      else some (x / power)
    else if x == 0 then some x
    else if 0 ≤ exponent then none
    else scaleByTen (x / Float.ofScientific 1 false 308) (exponent + 308) fuel

def Numeral.real? (n : Numeral) (significand : Nat) (exponent : Int) : Option Float := do
  let x ← scaleByTen (UInt64.ofNat significand).toFloat exponent 12
  return if n.negative then -x else x

/-- The value of a numeral, if it is in range. -/
def Numeral.value? (n : Numeral) : Option Number := do
  let (head, headCount) := appendDigits 0 n.whole
  let dropped := n.whole.length - headCount
  match n.fraction, n.exponent with
  | none, none =>
    if dropped == 0 then
      if !n.negative then return .integer head
      else if head == 0 || 0x8000000000000000 < head then
        return .real (-(UInt64.ofNat head).toFloat)
      else return .integer (-head)
    else return .real (← n.real? head dropped)
  | fraction, exponent =>
    let (significand, count) := appendDigits head (fraction.getD [])
    let places : Int := dropped - count
    match exponent with
    | none => return .real (← n.real? significand places)
    | some (negative, digits) =>
      let e : Nat := digits.foldl (fun e c => min 0x80000000 (e * 10 + (c.toNat - 48))) 0
      if 0x80000000 ≤ e then
        if significand ≠ 0 ∧ ¬negative then none
        else return .real (if n.negative then -0.0 else 0.0)
      else
        let shift := if negative then -Int.ofNat e else Int.ofNat e
        return .real (← n.real? significand (places + shift))

def Number.found : Number → Decode.Found
  | .integer n => .integer n
  | .real x => .number (Decimal.mixedText x)

end TenantGateway.Json
