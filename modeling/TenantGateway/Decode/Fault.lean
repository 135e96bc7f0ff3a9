import TenantGateway.Text.Quoted
import TenantGateway.Decimal.Shortest

/-!
Why a document does not describe the value that is wanted of it, whatever its format.
-/

namespace TenantGateway.Decode

/-- What stands in a document where something else was wanted. -/
inductive Found where
  | null
  | boolean (b : Bool)
  | integer (n : Int)
  | number (digits : String)
  | text (s : String)
  | sequence
  | map
  deriving DecidableEq, Repr

def Found.describe : Found → String
  | .null => "null"
  | .boolean b => "boolean `" ++ (if b then "true" else "false") ++ "`"
  | .integer n => "integer `" ++ toString n ++ "`"
  | .number digits => "floating point `" ++ digits ++ "`"
  | .text s => "string " ++ Text.quoted s
  | .sequence => "sequence"
  | .map => "map"

inductive Fault where
  | invalidType (found : Found) (expected : String)
  | invalidValue (found : Found) (expected : String)
  | invalidLength (length : Nat) (expected : String)
  | missingField (name : String)
  | duplicateField (name : String)
  | unknownVariant (found : String) (choices : List String)
  /-- A text that its own format refuses, in that format's words. -/
  | refused (reason : String)
  deriving DecidableEq, Repr

/-- The choices as a phrase. -/
def choicePhrase (choices : List String) : String :=
  match choices.map fun c => "`" ++ c ++ "`" with
  | [] => "there are no variants"
  | [a] => "expected " ++ a
  | [a, b] => "expected " ++ a ++ " or " ++ b
  | many => "expected one of " ++ String.intercalate ", " many

def Fault.message : Fault → String
  | .invalidType found expected =>
    "invalid type: " ++ found.describe ++ ", expected " ++ expected
  | .invalidValue found expected =>
    "invalid value: " ++ found.describe ++ ", expected " ++ expected
  | .invalidLength length expected =>
    "invalid length " ++ toString length ++ ", expected " ++ expected
  | .missingField name => "missing field `" ++ name ++ "`"
  | .duplicateField name => "duplicate field `" ++ name ++ "`"
  | .unknownVariant found choices =>
    "unknown variant `" ++ found ++ "`, " ++ choicePhrase choices
  | .refused reason => reason

/-- An unsigned integer with a largest value; `expected` names the kind of integer. -/
def unsigned (bound : Nat) (expected : String) (n : Int) : Except Fault Nat :=
  if 0 ≤ n ∧ n ≤ bound then .ok n.toNat
  else .error (.invalidValue (.integer n) expected)

end TenantGateway.Decode
