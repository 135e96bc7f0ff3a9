import TenantGateway.Text.Numeral

/-!
The four kinds of TOML strings. A basic string stands between double quotes and knows escapes, a
literal one between single quotes and knows none; three quotes on either side allow several lines.
Each scanner starts behind the opening quotes and gives the characters and what follows the closing
ones.
-/

namespace TenantGateway.Toml

/-- Control characters other than the tab. -/
def isControl (c : Char) : Bool := (c.toNat < 0x20 && c != '\t') || c.toNat == 0x7F

def isSpace (c : Char) : Bool := c == ' ' || c == '\t'

/-- The character with a code given in hexadecimal digits. -/
def hexChar? (digits : List Char) : Option Char := do
  let n ← digits.foldlM (fun n c => (Text.hexValue? c).map (n * 16 + ·)) 0
  if h : n.isValidChar then some (Char.ofNatAux n h) else none

/-- The character that a one-letter escape stands for. -/
def escape? : Char → Option Char
  | 'b' => some '\x08'
  | 't' => some '\t'
  | 'n' => some '\n'
  | 'f' => some '\x0c'
  | 'r' => some '\r'
  | 'e' => some '\x1b'
  | '"' => some '"'
  | '\\' => some '\\'
  | _ => none

abbrev Scanned := Option (List Char × List Char)

/-- Puts a character in front of what is scanned next, if there is one. -/
def keep (c : Option Char) (next : Scanned) : Scanned := do
  let c ← c
  let (cs, rest) ← next
  return (c :: cs, rest)

/-- Scans a basic string on one line. -/
def scanBasic : List Char → Scanned
  | [] => none
  | '"' :: rest => some ([], rest)
  | '\\' :: 'x' :: a :: b :: rest => keep (hexChar? [a, b]) (scanBasic rest)
  | '\\' :: 'u' :: a :: b :: c :: d :: rest => keep (hexChar? [a, b, c, d]) (scanBasic rest)
  | '\\' :: 'U' :: a :: b :: c :: d :: e :: f :: g :: h :: rest =>
    keep (hexChar? [a, b, c, d, e, f, g, h]) (scanBasic rest)
  | '\\' :: c :: rest => keep (escape? c) (scanBasic rest)
  | c :: rest => if isControl c ∨ c = '\\' then none else keep (some c) (scanBasic rest)

/-- Scans a literal string on one line. -/
def scanLiteral : List Char → Scanned
  | [] => none
  | '\'' :: rest => some ([], rest)
  | c :: rest => if isControl c then none else keep (some c) (scanLiteral rest)

/-- Whether a text goes on with a new line after blanks. -/
def breaksLine (cs : List Char) : Bool :=
  match cs.dropWhile isSpace with
  | '\n' :: _ => true
  | '\r' :: '\n' :: _ => true
  | _ => false

/-- Scans a basic string over several lines. Up to two quotes may stand right before the closing
three. After a backslash at the end of a line, white space is skipped: `skipping` says that a scan
is there. -/
def scanBasicLines (skipping : Bool) : List Char → Scanned
  | [] => none
  | '"' :: '"' :: '"' :: '"' :: '"' :: rest => some (['"', '"'], rest)
  | '"' :: '"' :: '"' :: '"' :: rest => some (['"'], rest)
  | '"' :: '"' :: '"' :: rest => some ([], rest)
  | '\r' :: '\n' :: rest =>
    if skipping then scanBasicLines true rest
    else keep (some '\r') (keep (some '\n') (scanBasicLines false rest))
  | '\n' :: rest =>
    if skipping then scanBasicLines true rest else keep (some '\n') (scanBasicLines false rest)
  | '\\' :: 'x' :: a :: b :: rest => keep (hexChar? [a, b]) (scanBasicLines false rest)
  | '\\' :: 'u' :: a :: b :: c :: d :: rest =>
    keep (hexChar? [a, b, c, d]) (scanBasicLines false rest)
  | '\\' :: 'U' :: a :: b :: c :: d :: e :: f :: g :: h :: rest =>
    keep (hexChar? [a, b, c, d, e, f, g, h]) (scanBasicLines false rest)
  | '\\' :: c :: rest =>
    if breaksLine (c :: rest) then scanBasicLines true (c :: rest)
    else keep (escape? c) (scanBasicLines false rest)
  | c :: rest =>
    if skipping ∧ isSpace c then scanBasicLines true rest
    else if isControl c ∨ c = '\\' then none
    else keep (some c) (scanBasicLines false rest)

/-- Scans a literal string over several lines. -/
def scanLiteralLines : List Char → Scanned
  | [] => none
  | '\'' :: '\'' :: '\'' :: '\'' :: '\'' :: rest => some (['\'', '\''], rest)
  | '\'' :: '\'' :: '\'' :: '\'' :: rest => some (['\''], rest)
  | '\'' :: '\'' :: '\'' :: rest => some ([], rest)
  | '\r' :: '\n' :: rest => keep (some '\r') (keep (some '\n') (scanLiteralLines rest))
  | c :: rest =>
    if isControl c ∧ c ≠ '\n' then none else keep (some c) (scanLiteralLines rest)

/-- A line break right behind the opening quotes does not count. -/
def dropFirstBreak : List Char → List Char
  | '\n' :: rest => rest
  | '\r' :: '\n' :: rest => rest
  | cs => cs

/-- Scans any string on one line, from its opening quote. -/
def scanLine? : List Char → Scanned
  | '"' :: rest => scanBasic rest
  | '\'' :: rest => scanLiteral rest
  | _ => none

/-- Scans any string, from its opening quote. -/
def scanQuotation? : List Char → Scanned
  | '"' :: '"' :: '"' :: rest => scanBasicLines false (dropFirstBreak rest)
  | '\'' :: '\'' :: '\'' :: rest => scanLiteralLines (dropFirstBreak rest)
  | cs => scanLine? cs

end TenantGateway.Toml
