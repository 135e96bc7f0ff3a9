import TenantGateway.Simulation.Wire

/-!
How the transport reads requests off a connection. Input that is no request is answered by the
transport itself, with a status of its own.
-/

namespace TenantGateway.Simulation

open Net (Request HttpVersion Uri)

/-- Why no request can be read. -/
inductive ReadingStop where
  /-- The input is the beginning of a request. -/
  | unfinished
  /-- The input is no request; the status tells the client. -/
  | refused (status : UInt16)
  deriving DecidableEq, Repr

def ReadingStop.malformed : ReadingStop := .refused 400

namespace Reading

/-- Characters of a method or of a field's name. -/
def isTokenChar (c : Char) : Bool := c.isAlphanum || "!#$%&'*+-.^_|~\x60".toList.contains c

/-- Characters of a target on a request line. -/
def isTargetChar (c : Char) : Bool := 0x21 ≤ c.toNat && c.toNat != 0x7F

/-- Characters of a field's value. -/
def isValueChar (c : Char) : Bool := c == '\t' || (0x20 ≤ c.toNat && c.toNat != 0x7F)

/-- A run of characters of a class up to the mark that has to follow it, and what is behind it. -/
def takeUpTo (mark : Char) (isMember : Char → Bool) (cs : List Char) :
    Except ReadingStop (String × List Char) :=
  let run := cs.takeWhile isMember
  match cs.drop run.length with
  | [] => .error .unfinished
  | c :: rest =>
    if c = mark ∧ ¬run.isEmpty then .ok (String.ofList run, rest) else .error .malformed

/-- The input behind the end of a line. -/
def lineEnd : List Char → Except ReadingStop (List Char)
  | '\n' :: rest | '\r' :: '\n' :: rest => .ok rest
  | [] | ['\r'] => .error .unfinished
  | _ => .error .malformed

/-- Skips the empty lines before a request. -/
def skipEmptyLines : List Char → Except ReadingStop (List Char)
  | '\n' :: rest => skipEmptyLines rest
  | '\r' :: '\n' :: rest => skipEmptyLines rest
  | '\r' :: cs => lineEnd ('\r' :: cs)
  | cs => .ok cs

/-- The version that a request line ends with. -/
def version (cs : List Char) : Except ReadingStop (HttpVersion × List Char) :=
  let name := "HTTP/1.".toList
  match name.isPrefixOf cs, cs.drop 7 with
  | true, '0' :: rest => .ok (.http10, rest)
  | true, '1' :: rest => .ok (.http11, rest)
  | true, [] => .error .unfinished
  | true, _ => .error .malformed
  | false, _ => .error (if cs.isPrefixOf name then .unfinished else .malformed)

/-- The most fields that a request may have. -/
def maxFields : Nat := 100

/-- The fields up to the empty line, at most `n`, and what follows it. -/
def fields : Nat → List Char → Except ReadingStop (Headers × List Char)
  | n, cs =>
    match lineEnd cs with
    | .ok rest => .ok ([], rest)
    | .error .unfinished => .error .unfinished
    | .error (.refused _) =>
      match n with
      | 0 => .error (.refused 431)
      | n + 1 => do
        let (name, rest) ← takeUpTo ':' isTokenChar cs
        let value := rest.takeWhile isValueChar
        let rest ← lineEnd (rest.drop value.length)
        let (h, rest) ← fields n rest
        return ((Text.lowercaseAscii name, Wire.trimValue (String.ofList value)) :: h, rest)

/-- How the fields tell where the body ends. -/
inductive Framing where
  | length (bytes : Nat)
  | chunked
  deriving DecidableEq, Repr

def framing (version : HttpVersion) (h : Headers) : Except ReadingStop Framing :=
  match h.getAll "transfer-encoding", h.getAll "content-length" with
  | [], [] => .ok (.length 0)
  | [], first :: others =>
    if others.all (· == first) ∧ first.toList.all Char.isDigit then
      match Text.readUnsigned (UInt64.size - 1) first with
      | .ok bytes => .ok (.length bytes)
      | .error _ => .error .malformed
    else .error .malformed
  | encodings, _ =>
    if version = .http11 ∧ encodings.getLast?.any fun e => Wire.lastOption e == "chunked" then
      .ok .chunked
    else .error .malformed

/-- The characters of the next bytes, and what is behind them, if so many are there. -/
def takeBytes? : List Char → Nat → Option (List Char × List Char)
  | cs, 0 => some ([], cs)
  | [], _ => none
  | c :: cs, n => (takeBytes? cs (n - c.utf8Size)).map fun (taken, rest) => (c :: taken, rest)

/-- What follows a body in at most `n` chunks, if it ends. -/
def afterChunks? : Nat → List Char → Option (List Char)
  | 0, _ => none
  | n + 1, cs => do
    let digits := cs.takeWhile fun c => (Text.hexValue? c).isSome
    let size := digits.foldl (fun size c => size * 16 + (Text.hexValue? c).getD 0) 0
    if digits.isEmpty then none
    else
      let rest ← (lineEnd ((cs.drop digits.length).dropWhile (· != '\r'))).toOption
      let (_, rest) ← takeBytes? rest size
      let rest ← (lineEnd rest).toOption
      if size = 0 then return rest else afterChunks? n rest

/-- What of a body has arrived. -/
inductive Extent where
  /-- All of it, in one piece. -/
  | whole
  /-- All of it, in chunks. -/
  | chunks
  /-- Only a part of it. -/
  | beginning
  deriving DecidableEq, Repr

/-- The body at the head of an input: what it is, as far as its length is told beforehand, what has
arrived of it, and what is behind it. -/
def body (f : Framing) (cs : List Char) : String × Extent × List Char :=
  match f with
  | .length bytes =>
    match takeBytes? cs bytes with
    | some (taken, rest) => (String.ofList taken, .whole, rest)
    | none => (String.ofList cs, .beginning, [])
  | .chunked =>
    match afterChunks? cs.length cs with
    | some rest => ("", .chunks, rest)
    | none => ("", .beginning, [])

def target (s : String) : Except ReadingStop Uri :=
  (Uri.parse s).mapError fun
    | .tooLong => .refused 414
    | _ => .malformed

/-- The next request of an input, what of its body has arrived, and what is behind it. -/
def next (cs : List Char) : Except ReadingStop (Request × Extent × List Char) := do
  let cs ← skipEmptyLines cs
  if cs.isEmpty then throw .unfinished
  let (method, cs) ← takeUpTo ' ' isTokenChar cs
  let (place, cs) ← takeUpTo ' ' isTargetChar cs
  let (version, cs) ← version cs
  let cs ← lineEnd cs
  let (headers, cs) ← fields maxFields cs
  let target ← target place
  let (body, extent, cs) := body (← framing version headers) cs
  return ({ method, target, version, headers, body }, extent, cs)

end Reading

end TenantGateway.Simulation
