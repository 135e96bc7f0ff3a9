import TenantGateway.Text.Ascii

/-!
JSON values as the gateway writes them, and their compact text. Quotes, backslashes and control
characters are escaped; every other character stands for itself.
-/

namespace TenantGateway

/-- A JSON value with integers for numbers. Members keep their order. -/
inductive Json where
  | null
  | bool (b : Bool)
  | integer (n : Int)
  | text (s : String)
  | array (items : List Json)
  | object (members : List (String × Json))

namespace Json

/-- How one character is written in a JSON text. -/
def escapeChar (c : Char) : List Char :=
  if c = '"' then ['\\', '"']
  else if c = '\\' then ['\\', '\\']
  else if c.toNat = 8 then ['\\', 'b']
  else if c.toNat = 9 then ['\\', 't']
  else if c.toNat = 10 then ['\\', 'n']
  else if c.toNat = 12 then ['\\', 'f']
  else if c.toNat = 13 then ['\\', 'r']
  else if c.toNat < 32 then
    ['\\', 'u', '0', '0'] ++ Text.hexByte (UInt8.ofNat c.toNat)
  else [c]

def quotedChars (s : String) : List Char :=
  '"' :: s.toList.flatMap escapeChar ++ ['"']

def boolChars (b : Bool) : List Char :=
  (if b then "true" else "false").toList

mutual

def chars : Json → List Char
  | .null => "null".toList
  | .bool b => boolChars b
  | .integer n => (toString n).toList
  | .text s => quotedChars s
  | .array items => '[' :: itemChars items ++ [']']
  | .object members => '\x7b' :: memberChars members ++ ['\x7d']

def itemChars : List Json → List Char
  | [] => []
  | [item] => item.chars
  | item :: rest => item.chars ++ ',' :: itemChars rest

def memberChars : List (String × Json) → List Char
  | [] => []
  | [(name, value)] => quotedChars name ++ ':' :: value.chars
  | (name, value) :: rest => quotedChars name ++ ':' :: value.chars ++ ',' :: memberChars rest

end

/-- Compact text. -/
def render (j : Json) : String := String.ofList j.chars

def word (n : UInt64) : Json := .integer n.toNat

end Json

end TenantGateway
