import TenantGateway.Decode.Fault

/-!
Values of a TOML document. Members keep the order in which the document gives them.
-/

namespace TenantGateway.Toml

inductive Value where
  | text (s : String)
  | integer (n : Int)
  /-- A floating point number, as its shortest decimals. -/
  | number (digits : String)
  | boolean (b : Bool)
  /-- A date, a time of day or both, as it is written. -/
  | time (written : String)
  | array (items : List Value)
  | table (members : List (String × Value))
  deriving Repr, Inhabited

namespace Value

/-- What the value is, for a diagnostic; a date or time counts as a map. -/
def found : Value → Decode.Found
  | .text s => .text s
  | .integer n => .integer n
  | .number digits => .number digits
  | .boolean b => .boolean b
  | .time _ => .map
  | .array _ => .sequence
  | .table _ => .map

mutual

/-- Whether some integer in the value satisfies `p`. -/
def anyInteger (p : Int → Bool) : Value → Bool
  | .integer n => p n
  | .array items => anyIntegerItem p items
  | .table members => anyIntegerMember p members
  | _ => false

def anyIntegerItem (p : Int → Bool) : List Value → Bool
  | [] => false
  | item :: rest => item.anyInteger p || anyIntegerItem p rest

def anyIntegerMember (p : Int → Bool) : List (String × Value) → Bool
  | [] => false
  | (_, value) :: rest => value.anyInteger p || anyIntegerMember p rest

end

end Value

end TenantGateway.Toml
