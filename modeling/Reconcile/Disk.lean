import Reconcile.FollowerDb

/-!
# Files

The files, directories and follower databases that a run can see, by their paths: from the root, or
from the directory of the run. A database is a directory, and so is whatever a path to something
leads through.
-/

namespace Reconcile

/-- Why a file cannot be read or created. -/
inductive FileError where
  | notFound
  | alreadyExists
  | notDirectory
  | isDirectory
  deriving DecidableEq, Repr

/-- The wording of a file error, with its number. -/
def FileError.message : FileError → String
  | .notFound => "No such file or directory (os error 2)"
  | .alreadyExists => "File exists (os error 17)"
  | .notDirectory => "Not a directory (os error 20)"
  | .isDirectory => "Is a directory (os error 21)"

/-- Files, directories and databases by their paths. -/
structure Disk where
  files : List (String × List UInt8)
  directories : List String
  databases : List (String × FollowerDb)
  deriving Repr

namespace Disk

/-- A place: the names that lead to it. That of the root comes first on the way from there. -/
abbrev Place := List String

/-- The name of the root. -/
def rootName : String :=
  "/"

/-- The place that a name leads to from another. An empty name and a single dot lead nowhere, and
two dots lead back. -/
def Place.follow (place : Place) (name : String) : Place :=
  if name = "" ∨ name = "." then place
  else if name = ".." then place.dropLast
  else place ++ [name]

/-- Where a path starts. -/
def startOf (path : String) : Place :=
  if path.startsWith "/" then [rootName] else []

/-- The place of a path. -/
def placeOf (path : String) : Place :=
  (path.splitOn "/").foldl Place.follow (startOf path)

/-- What stands at a place. -/
inductive Entry where
  | file (content : List UInt8)
  | directory
  deriving DecidableEq, Repr

/-- The paths of all that is there. -/
def paths (disk : Disk) : List String :=
  disk.files.map (·.1) ++ disk.directories ++ disk.databases.map (·.1)

/-- What stands at a place, if anything does. -/
def entry? (disk : Disk) (place : Place) : Option Entry :=
  match disk.files.find? fun file => placeOf file.1 == place with
  | some file => some (.file file.2)
  | none =>
    if place.isEmpty ∨ disk.paths.any (fun path => place.isPrefixOf (placeOf path)) then
      some .directory
    else none

/-- Follows names from a place, each of which has to stand in a directory. -/
def walk (disk : Disk) (place : Place) : List String → Except FileError Place
  | [] => .ok place
  | name :: names =>
    match disk.entry? place with
    | some .directory => walk disk (place.follow name) names
    | some (.file _) => .error .notDirectory
    | none => .error .notFound

/-- The place that a path leads to. The empty path leads nowhere. -/
def locate (disk : Disk) (path : String) : Except FileError Place :=
  if path.isEmpty then .error .notFound
  else disk.walk (startOf path) (path.splitOn "/")

/-- What a file holds. -/
def read (disk : Disk) (path : String) : Except FileError (List UInt8) := do
  match disk.entry? (← disk.locate path) with
  | some (.file content) => .ok content
  | some .directory => .error .isDirectory
  | none => .error .notFound

/-- A path without the slashes at its end. -/
def withoutSlashes (path : String) : String :=
  String.ofList (path.toList.reverse.dropWhile (· = '/')).reverse

/-- Whether a file can be created, where nothing may stand yet. A path with a slash at its end is
that of a directory. -/
def canCreate (disk : Disk) (path : String) : Except FileError Unit := do
  let place ← disk.locate (withoutSlashes path)
  if path.endsWith "/" then .error .isDirectory
  else if (disk.entry? place).isSome then .error .alreadyExists
  else .ok ()

/-- The database at a path; one that does not exist is empty. -/
def database (disk : Disk) (path : String) : FollowerDb :=
  match disk.databases.find? fun db => placeOf db.1 == placeOf path with
  | some db => db.2
  | none => .empty

end Disk

end Reconcile
