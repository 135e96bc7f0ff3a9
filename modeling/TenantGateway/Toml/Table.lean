import TenantGateway.Toml.Value

/-!
How the tables of a document grow. A key is given once, and a table has one header at most; headers
and dotted keys may bring about the tables above them, and may pass through such tables later on.
-/

namespace TenantGateway.Toml

/-- How a table has come about. -/
inductive Origin where
  /-- Named on the way in the header of a table below. -/
  | implied
  /-- Named on the way in a dotted key. -/
  | dotted
  /-- Opened by a header of its own. -/
  | opened
  deriving DecidableEq, Repr

/-- What a key of an unfinished document stands for. An array of tables has its latest table
first. -/
inductive Node where
  | value (v : Value)
  | table (origin : Origin) (members : List (String × Node))
  | tables (items : List (List (String × Node)))

abbrev Members := List (String × Node)

namespace Members

def replace (m : Members) (key : String) (node : Node) : Members :=
  m.map fun f => if f.1 == key then (key, node) else f

def erase (m : Members) (key : String) : Members := m.filter fun f => f.1 != key

/-- Changes the table at a path. Tables that are missing on the way come about as `reach` says; a
dotted key does not pass through a table that has a header. -/
def update (reach : Origin) (f : Origin → Members → Option Members) :
    List String → Origin → Members → Option Members
  | [], origin, m => f origin m
  | key :: path, _, m =>
    match m.lookup key with
    | none => (update reach f path reach []).map fun sub => m ++ [(key, .table reach sub)]
    | some (.table origin sub) =>
      if reach = .dotted ∧ origin = .opened then none
      else (update reach f path origin sub).map fun sub => m.replace key (.table origin sub)
    | some (.tables (latest :: earlier)) =>
      (update reach f path .opened latest).map fun latest =>
        m.replace key (.tables (latest :: earlier))
    | some _ => none

end Members

/-- A key, dotted or not, with its value. -/
structure Assignment where
  path : List String
  key : String
  value : Value

/-- A header: of a table, or of one more table of an array. -/
structure Heading where
  path : List String
  key : String
  isItem : Bool

/-- A header with the assignments below it; the first section of a document has no header. -/
structure Section where
  heading : Option Heading
  assignments : List Assignment

namespace Members

/-- Adds one key. A dotted key ends in a table that dotted keys have brought about. -/
def assign (m : Members) (a : Assignment) : Option Members :=
  m.update .dotted (fun origin sub =>
    if (a.path.isEmpty ∨ origin = .dotted) ∧ (sub.lookup a.key).isNone then
      some (sub ++ [(a.key, .value a.value)])
    else none) a.path .opened

def assignAll (m : Members) (assignments : List Assignment) : Option Members :=
  assignments.foldlM assign m

/-- Adds a section. A header may open a table that was only implied before. -/
def attach (m : Members) (s : Section) : Option Members :=
  match s.heading with
  | none => m.assignAll s.assignments
  | some h =>
    m.update .implied (fun _ sub =>
      match sub.lookup h.key, h.isItem with
      | none, false =>
        (assignAll [] s.assignments).map fun t => sub ++ [(h.key, .table .opened t)]
      | none, true => (assignAll [] s.assignments).map fun t => sub ++ [(h.key, .tables [t])]
      | some (.table .implied old), false =>
        (assignAll old s.assignments).map fun t => sub.erase h.key ++ [(h.key, .table .opened t)]
      | some (.tables items), true =>
        (assignAll [] s.assignments).map fun t => sub.replace h.key (.tables (t :: items))
      | _, _ => none) h.path .opened

end Members

mutual

/-- The value that a node has once the document is complete. -/
def Node.finish : Node → Value
  | .value v => v
  | .table _ members => .table (finishMembers members)
  | .tables items => .array (finishItems items).reverse

def finishMembers : List (String × Node) → List (String × Value)
  | [] => []
  | (key, node) :: rest => (key, node.finish) :: finishMembers rest

def finishItems : List (List (String × Node)) → List Value
  | [] => []
  | item :: rest => .table (finishMembers item) :: finishItems rest

end

end TenantGateway.Toml
