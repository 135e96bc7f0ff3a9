import TenantGateway.Text.Split

/-!
Reading files below a directory: a path leads to a file, to a directory, or nowhere.
-/

namespace TenantGateway.Simulation

/-- Files with their places, and the places of directories that hold none. -/
structure Files where
  files : List (List String × String)
  directories : List (List String)

namespace Files

/-- The segments of a path. -/
def segments (path : String) : List String := (Text.splitAtEach '/' path.toList).map String.ofList

def ofList (files : List (String × String)) (directories : List String) : Files :=
  { files := files.map fun (path, text) => (segments path, text)
    directories := directories.map segments }

def isDirectory (f : Files) (place : List String) : Bool :=
  place.isEmpty || f.directories.any (place.isPrefixOf ·) ||
    f.files.any fun (p, _) => place.isPrefixOf p && place != p

def missing : String := "No such file or directory (os error 2)"

/-- Follows a path from a place on, one segment after the other. -/
def follow (f : Files) : List String → List String → Except String String
  | place, [] =>
    if f.isDirectory place then .error "Is a directory (os error 21)"
    else ((f.files.find? (·.1 == place)).map fun (_, text) => .ok text).getD (.error missing)
  | place, segment :: rest =>
    if f.isDirectory place then
      if segment == "" || segment == "." then follow f place rest
      else if segment == ".." then
        if place.isEmpty then .error missing else follow f place.dropLast rest
      else follow f (place ++ [segment]) rest
    else if (f.files.find? (·.1 == place)).isSome then .error "Not a directory (os error 20)"
    else .error missing

/-- Reads the file at a path. There is nothing outside the directory. -/
def read (f : Files) (path : String) : Except String String :=
  match segments path with
  | "" :: _ :: _ => .error missing
  | place => f.follow [] place

end Files

end TenantGateway.Simulation
