import TenantGateway.Text.Numeral
import TenantGateway.Text.Ascii

/-!
Uniform resource identifiers as requests and services use them: an absolute one with scheme,
authority, path and query, an authority alone, or a path alone. Fragments are dropped.
-/

namespace TenantGateway.Net

/-- Why a text is no identifier. -/
inductive UriError where
  | empty
  | tooLong
  | invalidCharacter
  | invalidAuthority
  | invalidFormat
  | schemeTooLong
  deriving DecidableEq, Repr

def UriError.message : UriError → String
  | .empty => "empty string"
  | .tooLong => "uri too long"
  | .invalidCharacter => "invalid uri character"
  | .invalidAuthority => "invalid authority"
  | .invalidFormat => "invalid format"
  | .schemeTooLong => "scheme too long"

structure Uri where
  scheme : Option String
  authority : Option String
  path : String
  query : Option String
  deriving DecidableEq, Repr

/-- Characters of a scheme. -/
def isSchemeChar (c : Char) : Bool :=
  c.isAlphanum || c == '+' || c == '.' || c == '-' || c == '~'

/-- The scheme that a text starts with, and what follows its two slashes. -/
def splitScheme (cs : List Char) : Except UriError (Option String × List Char) :=
  let known (name : String) : Bool :=
    ((cs.take (name.length + 3)).map Char.toLower) == name.toList ++ [':', '/', '/']
  if known "http" then .ok (some "http", cs.drop 7)
  else if known "https" then .ok (some "https", cs.drop 8)
  else
    let name := cs.takeWhile isSchemeChar
    match cs.drop name.length with
    | ':' :: '/' :: '/' :: rest =>
      if name.isEmpty then .ok (none, cs)
      else if 64 < name.length then .error .schemeTooLong
      else .ok (some (String.ofList name), rest)
    | _ => .ok (none, cs)

/-- Characters that an authority may hold. -/
def isAuthorityChar (c : Char) : Bool :=
  c.isAlphanum || "!#$&'()*+,-./:;=?@[]_~%".toList.contains c

/-- Marks of an authority's scan: colons and percent signs count from the last `]` or `@`. -/
structure AuthorityMarks where
  colons : Nat
  opened : Bool
  closed : Bool
  percent : Bool
  deriving DecidableEq, Repr

def AuthorityMarks.none : AuthorityMarks := ⟨0, false, false, false⟩

/-- Scans an authority up to the first slash, question mark or number sign; gives it and the
rest. -/
def scanAuthority (m : AuthorityMarks) (last : Option Char) :
    List Char → Except UriError (List Char × List Char)
  | [] => finish []
  | c :: rest =>
    if c = '/' ∨ c = '?' ∨ c = '#' then finish (c :: rest)
    else if c = ':' then
      if 8 ≤ m.colons then .error .invalidAuthority
      else keep c (scanAuthority { m with colons := m.colons + 1 } (some c) rest)
    else if c = '[' then
      if m.percent ∨ m.opened then .error .invalidAuthority
      else keep c (scanAuthority { m with opened := true } (some c) rest)
    else if c = ']' then
      if ¬m.opened ∨ m.closed then .error .invalidAuthority
      else keep c (scanAuthority { m with closed := true, colons := 0, percent := false }
        (some c) rest)
    else if c = '@' then
      keep c (scanAuthority { m with colons := 0, percent := false } (some c) rest)
    else if c = '%' then keep c (scanAuthority { m with percent := true } (some c) rest)
    else if isAuthorityChar c then keep c (scanAuthority m (some c) rest)
    else .error .invalidCharacter
where
  /-- What has been scanned is whole if brackets match and nothing dangles. -/
  finish (rest : List Char) : Except UriError (List Char × List Char) :=
    if m.opened ≠ m.closed ∨ 1 < m.colons ∨ last = some '@' ∨ m.percent then
      .error .invalidAuthority
    else .ok ([], rest)
  keep (c : Char) (r : Except UriError (List Char × List Char)) :
      Except UriError (List Char × List Char) :=
    r.map fun (authority, rest) => (c :: authority, rest)

/-- Characters of a path. -/
def isPathChar (c : Char) : Bool :=
  let n := c.toNat
  n == 0x21 || n == 0x22 || (0x24 ≤ n && n ≤ 0x3B) || n == 0x3D || (0x40 ≤ n && n ≤ 0x5F) ||
    (0x61 ≤ n && n ≤ 0x7E) || 0x80 ≤ n

/-- Characters of a query. -/
def isQueryChar (c : Char) : Bool :=
  let n := c.toNat
  n == 0x21 || (0x24 ≤ n && n ≤ 0x3B) || n == 0x3D || (0x3F ≤ n && n ≤ 0x7E) || 0x80 ≤ n

/-- Splits path and query; a fragment is dropped. -/
def splitPathQuery (cs : List Char) : Except UriError (String × Option String) :=
  let path := cs.takeWhile fun c => c != '?' && c != '#'
  let after := cs.drop path.length
  if ¬path.all isPathChar then .error .invalidCharacter
  else
    match after with
    | '?' :: rest =>
      let query := rest.takeWhile (· != '#')
      if query.all isQueryChar then .ok (String.ofList path, some (String.ofList query))
      else .error .invalidCharacter
    | _ => .ok (String.ofList path, none)

namespace Uri

/-- The longest text in bytes. -/
def maxLength : Nat := 65534

/-- A path and query without authority. -/
def ofPath (cs : List Char) : Except UriError Uri :=
  (splitPathQuery cs).map fun (path, query) => { scheme := none, authority := none, path, query }

/-- An identifier with a scheme, or an authority alone. -/
def ofFull (cs : List Char) : Except UriError Uri := do
  let (scheme, cs) ← splitScheme cs
  if cs.isEmpty then throw .empty
  let (authority, rest) ← scanAuthority .none none cs
  match scheme with
  | none =>
    if rest.isEmpty then
      let authority := some (String.ofList authority)
      return { scheme := none, authority, path := "", query := none }
    else throw .invalidFormat
  | some scheme =>
    if authority.isEmpty then throw .invalidFormat
    else
      let (path, query) ← splitPathQuery rest
      return {
        scheme := some scheme
        authority := some (String.ofList authority)
        path := if path.isEmpty then "/" else path
        query }

def parse (s : String) : Except UriError Uri :=
  if maxLength < s.utf8ByteSize then .error .tooLong
  else
    match s.toList with
    | [] => .error .empty
    | ['*'] => .ok { scheme := none, authority := none, path := "*", query := none }
    | [c] => if c = '/' then ofPath [c] else (ofFull [c]).mapError fun
      | .invalidFormat => .invalidCharacter
      | e => e
    | '/' :: rest => ofPath ('/' :: rest)
    | cs => ofFull cs

/-- Path and query as a request line carries them. -/
def pathAndQuery (u : Uri) : String :=
  u.path ++ u.query.elim "" fun q => "?" ++ q

def text (u : Uri) : String :=
  (u.scheme.elim "" (· ++ "://")) ++ u.authority.getD "" ++ u.pathAndQuery

/-- The authority behind the last `@`. -/
def hostPort (authority : String) : List Char :=
  (authority.toList.reverse.takeWhile (· != '@')).reverse

/-- The host; a bracketed address keeps its brackets. -/
def host? (u : Uri) : Option String :=
  u.authority.map fun authority =>
    match hostPort authority with
    | '[' :: rest => String.ofList ('[' :: rest.takeWhile (· != ']') ++ [']'])
    | cs => String.ofList (cs.takeWhile (· != ':'))

/-- The number behind the last colon of the authority. -/
def port? (u : Uri) : Option Nat := do
  let cs := (← u.authority).toList
  if cs.contains ':' then
    (Text.readUnsigned 65535 (String.ofList (cs.reverse.takeWhile (· != ':')).reverse)).toOption
  else none

end Uri

end TenantGateway.Net
