import TenantGateway.Text.Ascii
import TenantGateway.Text.Blank
import TenantGateway.Text.Numeral
import TenantGateway.Text.Split

/-!
Which log events are written. A filter is a list of directives, each of which sets a threshold for
the targets that start with its own; the longest such start decides.
-/

namespace TenantGateway.Log

/-- How grave an event is, the gravest first. -/
inductive Level where
  | error
  | warn
  | info
  | debug
  | trace
  deriving DecidableEq, Repr

namespace Level

/-- How far down the scale a level lies. -/
def rank : Level → Nat
  | .error => 1
  | .warn => 2
  | .info => 3
  | .debug => 4
  | .trace => 5

def name : Level → String
  | .error => "ERROR"
  | .warn => "WARN"
  | .info => "INFO"
  | .debug => "DEBUG"
  | .trace => "TRACE"

def all : List Level := [.error, .warn, .info, .debug, .trace]

end Level

/-- The least grave level that passes, or none at all. -/
abbrev Threshold := Option Level

namespace Threshold

def admitsLevel (t : Threshold) (l : Level) : Bool := t.elim false fun least => l.rank ≤ least.rank

/-- Reads a threshold: its name in any case, or its rank; a blank text is the gravest level. -/
def read? (s : String) : Option Threshold :=
  match Text.readUnsigned (UInt64.size - 1) s with
  | .ok 0 => some none
  | .ok n => (Level.all.find? (·.rank == n)).map some
  | .error _ =>
    if s.isEmpty then some (some .error)
    else if Text.equalsIgnoringCase s "off" then some none
    else (Level.all.find? fun l => Text.equalsIgnoringCase s l.name).map some

end Threshold

/-- A threshold for the targets that start with a text, or for all targets; only for events that
have a certain field, or only for what happens in certain spans. -/
structure Directive where
  target : Option String
  field : Option String
  inSpan : Bool
  threshold : Threshold
  deriving DecidableEq, Repr

inductive DirectiveError where
  | malformed
  | unknownLevel
  deriving DecidableEq, Repr

def DirectiveError.message : DirectiveError → String
  | .malformed => "invalid filter directive"
  | .unknownLevel =>
    "error parsing level filter: expected one of \"off\", \"error\", \"warn\", \"info\", " ++
      "\"debug\", \"trace\", or a number 0-5"

namespace Directive

/-- Characters that a directive can begin with. -/
def isStart (c : Char) : Bool := c.isAlphanum || 0x80 ≤ c.toNat || "-:_".toList.contains c

/-- A span in brackets: the field that it asks for if it asks for nothing else, and what follows
the brackets. -/
def scanSpan? (cs : List Char) : Option (Option String × List Char) :=
  let name := cs.takeWhile fun c => c != ']' && c != '\x7b'
  match cs.drop name.length with
  | ']' :: rest => some (none, rest)
  | '\x7b' :: rest =>
    let field := rest.takeWhile (· != '\x7d')
    match field, rest.drop field.length with
    | _ :: _, '\x7d' :: ']' :: rest =>
      let plain := name.isEmpty && !field.contains '='
      some (if plain then some (String.ofList field) else none, rest)
    | _, _ => none
  | _ => none

/-- The threshold behind an equals sign; none that is named is the least grave one. -/
def readLevel (cs : List Char) : Except DirectiveError Threshold :=
  if cs.isEmpty then .ok (some .trace)
  else
    match Threshold.read? (String.ofList cs) with
    | some t => .ok t
    | none => .error .unknownLevel

/-- Reads a directive. Blanks in front are skipped in looking for the marks, whose places are then
counted from the start of the whole text. -/
def parse (s : String) : Except DirectiveError Directive :=
  let whole := s.toList
  let cs := Text.trimChars whole
  let head := cs.takeWhile fun c => c != '=' && c != '['
  let spanned (target : Option String) (rest : List Char) : Except DirectiveError Directive :=
    match scanSpan? rest with
    | some (field, []) =>
      .ok { target, field, inSpan := field.isNone, threshold := some .trace }
    | some (field, '=' :: level) => do
      let threshold ← readLevel (whole.drop (cs.length - level.length))
      return { target, field, inSpan := field.isNone, threshold }
    | _ => .error .malformed
  match cs, cs.drop head.length with
  | [], _ => .error .malformed
  | '[' :: rest, _ => spanned none rest
  | c :: _, mark =>
    if ¬isStart c then .error .malformed
    else
      match mark with
      | [] =>
        match Threshold.read? s with
        | some threshold => .ok { target := none, field := none, inSpan := false, threshold }
        | none =>
          .ok { target := some s, field := none, inSpan := false, threshold := some .trace }
      | '=' :: _ => do
        let threshold ← readLevel (whole.drop (head.length + 1))
        let target := some (String.ofList (whole.take head.length))
        return { target, field := none, inSpan := false, threshold }
      | _ :: rest => spanned (some (String.ofList (whole.take head.length))) rest

/-- Whether a directive is about the events of a target that have certain fields. -/
def isAbout (d : Directive) (target : String) (fields : List String) : Bool :=
  ¬d.inSpan ∧ (d.target.elim true fun start => start.toList.isPrefixOf target.toList) ∧
    d.field.all fields.contains

/-- How special a directive is: one for all targets is the least so, and of two for targets of one
length that without a field. -/
def weight (d : Directive) : Nat :=
  2 * (d.target.elim 0 fun start => start.utf8ByteSize + 1) + if d.field.isSome then 1 else 0

end Directive

structure Filter where
  directives : List Directive
  deriving DecidableEq, Repr

namespace Filter

/-- The directives of a text, which commas separate. -/
def parts (s : String) : List String :=
  ((Text.splitAtEach ',' s.toList).filter (¬·.isEmpty)).map String.ofList

/-- Reads a filter all of whose directives have to be right. Without any, nothing is written. -/
def parse (s : String) : Except DirectiveError Filter :=
  ((parts s).mapM Directive.parse).map Filter.mk

/-- Reads a filter and leaves out what is wrong in it, which is given with the reasons. Without any
directive, errors are written. -/
def parseLeniently (s : String) : List (String × DirectiveError) × Filter :=
  let read := (parts s).map fun part => (part, Directive.parse part)
  let faults := read.filterMap fun
    | (part, .error e) => some (part, e)
    | _ => none
  let directives := read.filterMap fun (_, r) => r.toOption
  let fallback : Directive :=
    { target := none, field := none, inSpan := false, threshold := some .error }
  (faults, { directives := if directives.isEmpty then [fallback] else directives })

/-- The directive that decides about events: the most special one, and the last of these. -/
def deciding? (f : Filter) (target : String) (fields : List String) : Option Directive :=
  (f.directives.filter (·.isAbout target fields)).foldl (fun best d =>
    match best with
    | some other => if d.weight < other.weight then best else some d
    | none => some d) none

/-- Whether an event of a target and level, with certain fields, is written. -/
def passes (f : Filter) (target : String) (fields : List String) (l : Level) : Bool :=
  (f.deciding? target fields).elim false fun d => Threshold.admitsLevel d.threshold l

end Filter

end TenantGateway.Log
