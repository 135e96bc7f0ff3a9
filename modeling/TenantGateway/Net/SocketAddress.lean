import TenantGateway.Text.Numeral

/-!
Addresses of sockets: reading their texts, and writing them in one canonical form.
-/

namespace TenantGateway.Net

inductive IpAddress where
  | v4 (octets : List Nat)
  | v6 (groups : List Nat)
  deriving DecidableEq, Repr

/-- An address with a port; the scope tells interfaces of a machine apart. -/
structure SocketAddress where
  ip : IpAddress
  port : Nat
  scope : Nat
  deriving DecidableEq, Repr

/-- A run of digits in a base, at most `maxDigits` of them, with a value of at most `bound`. -/
def takeNumber? (base maxDigits bound : Nat) (leadingZero : Bool) (cs : List Char) :
    Option (Nat × List Char) :=
  let value? (c : Char) : Option Nat :=
    let d :=
      if '0' ≤ c ∧ c ≤ '9' then c.toNat - 48
      else if 'a' ≤ c ∧ c ≤ 'f' then c.toNat - 87
      else if 'A' ≤ c ∧ c ≤ 'F' then c.toNat - 55
      else base
    if d < base then some d else none
  let digits := cs.takeWhile fun c => (value? c).isSome
  let n := digits.foldl (fun n c => n * base + (value? c).getD 0) 0
  if digits.isEmpty ∨ maxDigits < digits.length ∨ bound < n then none
  else if ¬leadingZero ∧ 1 < digits.length ∧ digits.head? = some '0' then none
  else some (n, cs.drop digits.length)

def takeChar? (c : Char) : List Char → Option (List Char)
  | [] => none
  | d :: rest => if d = c then some rest else none

/-- Four decimal octets without leading zeros, separated by points. -/
def takeV4? (cs : List Char) : Option (List Nat × List Char) := do
  let octet := takeNumber? 10 3 255 false
  let (a, cs) ← octet cs
  let (b, cs) ← octet (← takeChar? '.' cs)
  let (c, cs) ← octet (← takeChar? '.' cs)
  let (d, cs) ← octet (← takeChar? '.' cs)
  return ([a, b, c, d], cs)

/-- The two groups that four octets stand for. -/
def groupsOfOctets : List Nat → List Nat
  | [a, b, c, d] => [a * 256 + b, c * 256 + d]
  | _ => []

/-- Up to `limit` groups separated by colons, the last two of them possibly as four octets; the flag
tells whether they were. -/
def takeGroups (first : Bool) : Nat → List Char → List Nat × Bool × List Char
  | 0, cs => ([], false, cs)
  | limit + 1, cs =>
    match (if first then some cs else takeChar? ':' cs) with
    | none => ([], false, cs)
    | some inner =>
      match (if limit = 0 then none else takeV4? inner) with
      | some (octets, rest) => (groupsOfOctets octets, true, rest)
      | none =>
        match takeNumber? 16 4 65535 true inner with
        | none => ([], false, cs)
        | some (g, rest) =>
          let (groups, octets, rest) := takeGroups false limit rest
          (g :: groups, octets, rest)

/-- Eight groups; a double colon stands for one or more groups of zero. -/
def takeV6? (cs : List Char) : Option (List Nat × List Char) := do
  let (head, octets, rest) := takeGroups true 8 cs
  if head.length = 8 then return (head, rest)
  if octets then none
  let rest ← takeChar? ':' rest
  let rest ← takeChar? ':' rest
  let (tail, _, rest) := takeGroups true (7 - head.length) rest
  return (head ++ List.replicate (8 - head.length - tail.length) 0 ++ tail, rest)

def takePort? (cs : List Char) : Option (Nat × List Char) := do
  takeNumber? 10 cs.length 65535 true (← takeChar? ':' cs)

namespace SocketAddress

/-- What is said of a text that is no address. -/
def refusal : String := "invalid socket address syntax"

/-- Reads an address and port; a version 6 address stands in brackets. -/
def parse? (s : String) : Option SocketAddress :=
  match s.toList with
  | '[' :: cs => do
    let (groups, cs) ← takeV6? cs
    let (scope, cs) ←
      match cs with
      | '%' :: cs => takeNumber? 10 cs.length (UInt32.size - 1) true cs
      | cs => some (0, cs)
    let (port, rest) ← takePort? (← takeChar? ']' cs)
    if rest.isEmpty then return { ip := .v6 groups, port, scope } else none
  | cs => do
    let (octets, cs) ← takeV4? cs
    let (port, rest) ← takePort? cs
    if rest.isEmpty then return { ip := .v4 octets, port, scope := 0 } else none

end SocketAddress

/-- Start and length of the first longest run of zeros. -/
def longestZeros (groups : List Nat) : Nat × Nat :=
  let runs := (List.range groups.length).map fun i =>
    (i, ((groups.drop i).takeWhile (· == 0)).length)
  runs.foldl (fun best run => if best.2 < run.2 then run else best) (0, 0)

def hexGroups (groups : List Nat) : String :=
  ":".intercalate (groups.map fun g => String.ofList (Nat.toDigits 16 g))

namespace IpAddress

/-- Canonical text: version 6 with its longest run of zeros left out, and as octets where it maps a
version 4 address. -/
def text : IpAddress → String
  | .v4 octets => ".".intercalate (octets.map toString)
  | .v6 groups =>
    match groups with
    | [0, 0, 0, 0, 0, 0xFFFF, high, low] =>
      "::ffff:" ++ ".".intercalate
        ([high / 256, high % 256, low / 256, low % 256].map toString)
    | _ =>
      let (start, length) := longestZeros groups
      if 1 < length then
        hexGroups (groups.take start) ++ "::" ++ hexGroups (groups.drop (start + length))
      else hexGroups groups

end IpAddress

def SocketAddress.text (a : SocketAddress) : String :=
  match a.ip with
  | .v4 _ => a.ip.text ++ ":" ++ toString a.port
  | .v6 _ =>
    let scope := if a.scope = 0 then "" else "%" ++ toString a.scope
    "[" ++ a.ip.text ++ scope ++ "]:" ++ toString a.port

end TenantGateway.Net
