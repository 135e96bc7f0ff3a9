/-!
Letter case of the ASCII alphabet; every other character is left alone.
-/

namespace TenantGateway.Text

def lowercaseAscii (s : String) : String :=
  String.ofList (s.toList.map Char.toLower)

/-- Equality up to the case of ASCII letters. -/
def equalsIgnoringCase (s t : String) : Bool :=
  lowercaseAscii s == lowercaseAscii t

/-- The lower-case hexadecimal digits of a byte, high half first. -/
def hexByte (b : UInt8) : List Char :=
  [Nat.digitChar (b.toNat / 16), Nat.digitChar (b.toNat % 16)]

end TenantGateway.Text
