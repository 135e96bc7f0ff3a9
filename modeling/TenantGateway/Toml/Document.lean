import TenantGateway.Toml.Quotation
import TenantGateway.Toml.Scalar
import TenantGateway.Toml.Table

/-!
TOML documents (version 1.1 of the format): keys with values, headers of tables, comments. Inline
tables may extend over several lines and end with a comma.
-/

namespace TenantGateway.Toml

/-- Skips blanks, line breaks and comments. A comment holds no control characters. -/
def skipGap (inComment : Bool) : List Char → Option (List Char)
  | [] => some []
  | '\n' :: rest => skipGap false rest
  | '\r' :: '\n' :: rest => skipGap false rest
  | c :: rest =>
    if inComment then
      if isControl c then none else skipGap true rest
    else if isSpace c then skipGap false rest
    else if c = '#' then skipGap true rest
    else some (c :: rest)

def skipSpace (cs : List Char) : List Char := cs.dropWhile isSpace

/-- Checks that nothing but a comment follows on the line. -/
def endLine (cs : List Char) : Option (List Char) :=
  match skipSpace cs with
  | [] => some []
  | '\n' :: rest => some rest
  | '\r' :: '\n' :: rest => some rest
  | '#' :: rest => some ('#' :: rest)
  | _ => none

/-- Characters of a key that stands bare. -/
def isKeyChar (c : Char) : Bool := c.isAlphanum || c == '_' || c == '-'

/-- Scans one part of a key. -/
def scanKeyPart? (cs : List Char) : Option (String × List Char) :=
  let word := cs.takeWhile isKeyChar
  if word.isEmpty then (scanLine? cs).map fun (word, rest) => (String.ofList word, rest)
  else some (String.ofList word, cs.drop word.length)

/-- Scans a key with its dots; gives the parts before the last, the last, and what follows. -/
def scanKey? : Nat → List Char → Option (List String × String × List Char)
  | 0, _ => none
  | fuel + 1, cs => do
    let (part, rest) ← scanKeyPart? cs
    match skipSpace rest with
    | '.' :: rest =>
      let (path, key, rest) ← scanKey? fuel (skipSpace rest)
      return (part :: path, key, rest)
    | rest => return ([], part, rest)

mutual

/-- Scans a value. Each step takes at least one character, so that a text's length suffices as fuel;
`depth` bounds how far arrays and inline tables nest. -/
def scanValue? (depth : Nat) : Nat → List Char → Option (Value × List Char)
  | 0, _ => none
  | fuel + 1, cs =>
    match cs with
    | '"' :: _ | '\'' :: _ =>
      (scanQuotation? cs).map fun (s, rest) => (.text (String.ofList s), rest)
    | '[' :: rest =>
      if depth = 0 then none
      else (scanItems? (depth - 1) fuel rest).map fun (items, rest) => (.array items, rest)
    | '\x7b' :: rest =>
      if depth = 0 then none
      else (scanMembers? (depth - 1) fuel [] rest).map fun (m, rest) =>
        (.table (finishMembers m), rest)
    | cs => scanScalar? cs

/-- Scans the items of an array up to its end. -/
def scanItems? (depth : Nat) : Nat → List Char → Option (List Value × List Char)
  | 0, _ => none
  | fuel + 1, cs => do
    match ← skipGap false cs with
    | ']' :: rest => return ([], rest)
    | cs =>
      let (item, cs) ← scanValue? depth fuel cs
      match ← skipGap false cs with
      | ',' :: rest =>
        let (items, rest) ← scanItems? depth fuel rest
        return (item :: items, rest)
      | ']' :: rest => return ([item], rest)
      | _ => none

/-- Scans the members of an inline table up to its end, and adds them to those before. -/
def scanMembers? (depth : Nat) : Nat → Members → List Char → Option (Members × List Char)
  | 0, _, _ => none
  | fuel + 1, m, cs => do
    match ← skipGap false cs with
    | '\x7d' :: rest => return (m, rest)
    | cs =>
      let (path, key, cs) ← scanKey? fuel cs
      match cs with
      | '=' :: rest =>
        let (value, cs) ← scanValue? depth fuel (skipSpace rest)
        let m ← m.assign { path, key, value }
        match ← skipGap false cs with
        | ',' :: rest => scanMembers? depth fuel m rest
        | '\x7d' :: rest => return (m, rest)
        | _ => none
      | _ => none

end

/-- How far arrays and inline tables may nest. -/
def maxDepth : Nat := 80

/-- What a line of a document says. -/
inductive Statement where
  | heading (h : Heading)
  | assignment (a : Assignment)

/-- Scans the statement that starts here. -/
def scanStatement? (fuel : Nat) : List Char → Option (Statement × List Char)
  | '[' :: '[' :: rest => do
    let (path, key, rest) ← scanKey? fuel (skipSpace rest)
    match rest with
    | ']' :: ']' :: rest => return (.heading { path, key, isItem := true }, rest)
    | _ => none
  | '[' :: rest => do
    let (path, key, rest) ← scanKey? fuel (skipSpace rest)
    match rest with
    | ']' :: rest => return (.heading { path, key, isItem := false }, rest)
    | _ => none
  | cs => do
    let (path, key, rest) ← scanKey? fuel cs
    match rest with
    | '=' :: rest =>
      let (value, rest) ← scanValue? maxDepth fuel (skipSpace rest)
      return (.assignment { path, key, value }, rest)
    | _ => none

/-- Scans all statements up to the end of the text. -/
def scanStatements? : Nat → List Char → Option (List Statement)
  | 0, _ => none
  | fuel + 1, cs => do
    match ← skipGap false cs with
    | [] => return []
    | cs =>
      let (statement, rest) ← scanStatement? fuel cs
      let rest ← endLine rest
      return statement :: (← scanStatements? fuel rest)

/-- Puts each assignment below the header that precedes it; `latest` holds the assignments since
then, the latest first. -/
def sections (heading : Option Heading) (latest : List Assignment) :
    List Statement → List Section
  | [] => [{ heading, assignments := latest.reverse }]
  | .assignment a :: rest => sections heading (a :: latest) rest
  | .heading h :: rest =>
    { heading, assignments := latest.reverse } :: sections (some h) [] rest

/-- A byte order mark at the start of a text does not count. -/
def dropByteOrderMark : List Char → List Char
  | '\uFEFF' :: rest => rest
  | cs => cs

/-- Reads a document; there is no value where the text is malformed. -/
def parse? (s : String) : Option Value := do
  let cs := dropByteOrderMark s.toList
  let statements ← scanStatements? (cs.length + 2) cs
  let members ← (sections none [] statements).foldlM Members.attach []
  return .table (finishMembers members)

end TenantGateway.Toml
