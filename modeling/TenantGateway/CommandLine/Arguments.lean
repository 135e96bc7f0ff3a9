import TenantGateway.Text.Similarity
import TenantGateway.Text.Split

/-!
The arguments of the command: an option that names the settings file, and two flags that ask for a
text. The option's value is attached to it or follows it; it is settled once the next option is met
or the arguments end.
-/

namespace TenantGateway.CommandLine

inductive Parameter where
  | config
  | help
  | version
  deriving DecidableEq, Repr

namespace Parameter

def name : Parameter → String
  | .config => "config"
  | .help => "help"
  | .version => "version"

def letter : Parameter → Char
  | .config => 'c'
  | .help => 'h'
  | .version => 'V'

def all : List Parameter := [.config, .help, .version]

/-- The parameter as usage texts show it. -/
def shown : Parameter → String
  | .config => "--config <FILE>"
  | p => "--" ++ p.name

end Parameter

/-- Why arguments make no sense. -/
inductive UsageError where
  | valueMissing
  /-- The option is given a second time. -/
  | repeated
  /-- An argument that is not known, the parameter that it resembles, and those that seem to be
  wanted. -/
  | unexpected (argument : String) (similar : Option Parameter) (wanted : List Parameter)
  /-- A value for a flag that takes none. -/
  | unexpectedValue (value : String) (flag : Parameter) (wanted : List Parameter)
  deriving DecidableEq, Repr

/-- What the arguments ask for. -/
inductive Request where
  | help
  | version
  /-- A gateway; the path of its settings where one is given. -/
  | start (path : Option String)
  deriving DecidableEq, Repr

/-- Why the remaining arguments are not read. -/
inductive Stop where
  | asked (r : Request)
  | failed (e : UsageError)
  deriving DecidableEq, Repr

/-- What has been read: the option's settled value, and an option that is still open, with the value
that has followed it. -/
structure Progress where
  settled : Option String
  pending : Option (Option String)
  deriving DecidableEq, Repr

namespace Progress

def empty : Progress := { settled := none, pending := none }

/-- Settles a value. -/
def settleValue (p : Progress) (value : String) : Except UsageError Progress :=
  if p.settled.isSome then .error .repeated
  else if value.isEmpty then .error .valueMissing
  else .ok { settled := some value, pending := none }

/-- Settles the option that is open. -/
def settle (p : Progress) : Except UsageError Progress :=
  match p.pending with
  | none => .ok p
  | some none => .error .valueMissing
  | some (some value) => p.settleValue value

/-- The parameters with a settled value. -/
def used (p : Progress) : List Parameter := if p.settled.isSome then [.config] else []

/-- Opens the option, or settles it with an attached value. -/
def takeOption (p : Progress) (attached : Option String) : Except Stop Progress :=
  (do
    let p ← p.settle
    match attached with
    | some value => p.settleValue value
    | none => return { p with pending := some none }).mapError .failed

/-- Ends the reading at a flag, unless an open option has no value. -/
def takeFlag (p : Progress) (r : Request) : Except Stop Progress :=
  match p.settle with
  | .ok _ => .error (.asked r)
  | .error e => .error (.failed e)

/-- An argument that begins with two hyphens: a name, and a value where one is attached. -/
def takeLong (p : Progress) (name : String) (attached : Option String) : Except Stop Progress :=
  match Parameter.all.find? (·.name == name), attached with
  | some .config, _ => p.takeOption attached
  | some .help, none => p.takeFlag .help
  | some .version, none => p.takeFlag .version
  | some flag, some value => .error (.failed (.unexpectedValue value flag (p.used ++ [flag])))
  | none, _ =>
    let used := (p.settle.toOption.getD p).used
    let similar := (Text.mostSimilar? (Parameter.all.map (·.name)) name).bind fun s =>
      Parameter.all.find? (·.name == s)
    let wanted := used ++ similar.toList.filter fun s => ¬used.contains s
    .error (.failed (.unexpected ("--" ++ name) similar wanted))

/-- An argument that begins with one hyphen: a letter, and what is attached to it. -/
def takeShort (p : Progress) (letter : Char) (attached : List Char) : Except Stop Progress :=
  match Parameter.all.find? (·.letter == letter) with
  | some .config =>
    match attached with
    | [] => p.takeOption none
    | '=' :: value => p.takeOption (some (String.ofList value))
    | value => p.takeOption (some (String.ofList value))
  | some .help => p.takeFlag .help
  | some .version => p.takeFlag .version
  | none => .error (.failed (.unexpected (String.ofList ['-', letter]) none []))

/-- An argument that is no option: the value of the open one. -/
def takePlain (p : Progress) (argument : String) : Except Stop Progress :=
  match p.pending with
  | some none => .ok { p with pending := some (some argument) }
  | _ => .error (.failed (.unexpected argument none []))

def takeArgument (p : Progress) (argument : String) : Except Stop Progress :=
  match argument.toList with
  | '-' :: '-' :: cs =>
    let (name, value) := Text.splitAtFirst '=' cs
    p.takeLong (String.ofList name) (value.map String.ofList)
  | '-' :: letter :: attached => p.takeShort letter attached
  | _ => p.takePlain argument

/-- Reads arguments; nothing is allowed behind two hyphens that stand alone. -/
def takeAll (p : Progress) : List String → Except Stop Progress
  | [] => p.settle.mapError .failed
  | "--" :: argument :: _ => .error (.failed (.unexpected argument none []))
  | ["--"] => p.settle.mapError .failed
  | argument :: rest => do (← p.takeArgument argument).takeAll rest

end Progress

/-- What a command line asks for. -/
def Request.ofArguments (arguments : List String) : Except UsageError Request :=
  match Progress.empty.takeAll arguments with
  | .ok p => .ok (.start p.settled)
  | .error (.asked r) => .ok r
  | .error (.failed e) => .error e

end TenantGateway.CommandLine
