import TenantGateway.Toml.Document

/-!
Reading domain values out of a TOML document. Members are looked at in the order of the document and
unknown ones are passed over; the first fault decides, and only then is a member missed. Where a
table is wanted, an array may give the members in order.
-/

namespace TenantGateway.Toml

open Decode (Fault)

/-- Why a text does not give the value that is wanted of it. -/
inductive ReadError where
  /-- The text is not TOML. -/
  | malformed
  | fault (f : Fault)
  deriving DecidableEq, Repr

def ReadError.message : ReadError → String
  | .malformed => "<syntax>"
  | .fault f => f.message

namespace Value

def asText (v : Value) (expected : String) : Except Fault String :=
  match v with
  | .text s => .ok s
  | v => .error (.invalidType v.found expected)

def asBool (v : Value) : Except Fault Bool :=
  match v with
  | .boolean b => .ok b
  | v => .error (.invalidType v.found "a boolean")

/-- An unsigned integer of at most `bound`; `expected` names the kind of integer. -/
def asWord (v : Value) (bound : Nat) (expected : String) : Except Fault Nat :=
  match v with
  | .integer n => Decode.unsigned bound expected n
  | v => .error (.invalidType v.found expected)

def asWord64 (v : Value) : Except Fault UInt64 :=
  (v.asWord (UInt64.size - 1) "u64").map UInt64.ofNat

/-- An unsigned integer that counts things in memory. -/
def asSize (v : Value) : Except Fault UInt64 :=
  (v.asWord (UInt64.size - 1) "usize").map UInt64.ofNat

def asItems (v : Value) : Except Fault (List Value) :=
  match v with
  | .array items => .ok items
  | v => .error (.invalidType v.found "a sequence")

end Value

/-- Where the members of a record stand: in a table, or in an array of some length. -/
inductive Layout where
  | table
  | array (length : Nat)
  deriving DecidableEq, Repr

/-- A record type as diagnostics speak of it, with the names of its members in order. -/
structure Record where
  title : String
  names : List String
  deriving DecidableEq, Repr

namespace Record

/-- The number of items in a phrase. -/
def countPhrase (n : Nat) : String :=
  if n = 1 then "1 element" else toString n ++ " elements"

/-- Reads the members into a draft. -/
def read {σ : Type} (r : Record) (member : String → Value → σ → Except Fault σ) (draft : σ)
    (v : Value) : Except Fault (Layout × σ) :=
  match v with
  | .table members =>
    (members.foldlM (fun draft (name, v) => member name v draft) draft).map (.table, ·)
  | .time _ => .ok (.table, draft)
  | .array items =>
    ((r.names.zip items).foldlM (fun draft (name, v) => member name v draft) draft).map
      (.array items.length, ·)
  | v => .error (.invalidType v.found r.title)

/-- A member that has to be there. -/
def require {α : Type} (r : Record) (layout : Layout) (name : String) (o : Option α) :
    Except Fault α :=
  match o, layout with
  | some a, _ => .ok a
  | none, .table => .error (.missingField name)
  | none, .array length =>
    .error (.invalidLength length (r.title ++ " with " ++ countPhrase r.names.length))

end Record

/-- The name in a value that has to be one of some words. -/
def choiceOf (choices : List String) (v : Value) : Except Fault String :=
  match v with
  | .text s => if choices.contains s then .ok s else .error (.unknownVariant s choices)
  | v => .error (.invalidType v.found "variant identifier")

/-- Whether an integer fits neither a signed nor an unsigned 64-bit word. -/
def isHuge (n : Int) : Bool := n < -0x8000000000000000 || 0x10000000000000000 ≤ n

/-- Splits a value that says by its member `kind` which of several forms it has, into that word and
the other members. In an array the word comes first. -/
def tagged (title : String) (choices : List String) (v : Value) : Except Fault (String × Value) :=
  if v.anyInteger isHuge then .error (.refused "integer out of range")
  else match v with
  | .table members =>
    match members.lookup "kind" with
    | some kind => do
      let kind ← choiceOf choices kind
      return (kind, .table (members.filter fun f => f.1 != "kind"))
    | none => .error (.missingField "kind")
  | .array (kind :: rest) => do return (← choiceOf choices kind, .array rest)
  | .array [] | .time _ => .error (.missingField "kind")
  | v => .error (.invalidType v.found title)

/-- Checks that a form with `count` members has no items left over. -/
def noneLeft (count : Nat) (v : Value) : Except Fault Unit :=
  match v with
  | .array items =>
    if items.length ≤ count then .ok ()
    else .error (.invalidLength items.length (Record.countPhrase count ++ " in sequence"))
  | _ => .ok ()

/-- Reads a form with one member, a text. -/
def singleText (title name expected : String) (v : Value) : Except Fault String := do
  let form : Record := { title, names := [name] }
  let (layout, text) ← form.read (fun member v draft =>
    if member == name then return some (← v.asText expected) else return draft) none v
  let text ← form.require layout name text
  noneLeft 1 v
  return text

/-- A word that stands alone, or is the only key of a table over nothing. -/
def plainChoice (choices : List String) (v : Value) : Except Fault String :=
  match v with
  | .text s => choiceOf choices (.text s)
  | .table [] => .error (.refused "wanted exactly 1 element, found 0 elements")
  | .table [(s, content)] => do
    let s ← choiceOf choices (.text s)
    match content with
    | .table [] | .array [] => return s
    | .table _ => .error (.refused "expected empty table")
    | .array _ => .error (.refused "expected empty array")
    | .text _ => .error (.refused "expected table, found string")
    | .integer _ => .error (.refused "expected table, found integer")
    | .number _ => .error (.refused "expected table, found float")
    | .boolean _ => .error (.refused "expected table, found boolean")
    | .time _ => .error (.refused "expected table, found datetime")
  | .table _ => .error (.refused "wanted exactly 1 element, more than 1 element")
  | _ => .error (.refused "wanted string or table")

/-- Whether an integer needs more than a signed 64-bit word. -/
def isWide (n : Int) : Bool := n < -0x8000000000000000 || 0x8000000000000000 ≤ n

/-- Reads a document. One that does not give the value wanted and holds an integer outside the
signed 64-bit range counts as malformed. -/
def decode {α : Type} (read : Value → Except Fault α) (s : String) : Except ReadError α :=
  match parse? s with
  | none => .error .malformed
  | some v =>
    match read v with
    | .ok a => .ok a
    | .error f => .error (if v.anyInteger isWide then .malformed else .fault f)

end TenantGateway.Toml
