import Outbox.Store.Database
import Outbox.Text.Split

/-!
# The disk

A tree of directories and files. A path is text; its parts are separated by slashes, one dot names
the directory itself and two dots the one above. A file holds a database or other content.
-/
namespace Outbox

inductive FileContent where
  | other (text : String)
  | database (db : Database)

inductive DiskEntry where
  | directory
  | file (content : FileContent)

/-- Entries by their full path from the root, one for each path. -/
structure Disk where
  entries : List (List String × DiskEntry)

/-- Why a path leads nowhere. -/
inductive PathFault where
  | notFound
  | notDirectory
  | alreadyExists
  deriving DecidableEq, Repr

namespace PathFault

def message : PathFault → String
  | .notFound => "No such file or directory (os error 2)"
  | .notDirectory => "Not a directory (os error 20)"
  | .alreadyExists => "File exists (os error 17)"

end PathFault

namespace Disk

/-- A disk with one directory at the top. -/
def withRoot (root : String) : Disk := ⟨[([root], .directory)]⟩

/-- The parts of a path. -/
def parts (path : String) : List String :=
  ((Text.splitOn '/' path.toList).map String.ofList).filter fun p => p != "" && p != "."

def entryAt? (d : Disk) (path : List String) : Option DiskEntry := d.entries.lookup path

def isDirectory (d : Disk) (path : List String) : Bool :=
  match path, d.entryAt? path with
  | [], _ => true
  | _, some .directory => true
  | _, _ => false

def put (d : Disk) (path : List String) (e : DiskEntry) : Disk :=
  ⟨(path, e) :: d.entries.filter (·.1 != path)⟩

/-- The full path that a text leads to. Every part but the last must be a directory. -/
def resolveParts (d : Disk) : List String → List String → Except PathFault (List String)
  | here, [] => .ok here
  | here, p :: rest =>
    if d.isDirectory here then
      d.resolveParts (if p = ".." then here.dropLast else here ++ [p]) rest
    else
      match d.entryAt? here with
      | some _ => .error .notDirectory
      | none => .error .notFound

def resolve (d : Disk) (path : String) : Except PathFault (List String) :=
  d.resolveParts [] (parts path)

/-- Whether anything is at a path. -/
def holds (d : Disk) (path : String) : Bool :=
  match d.resolve path with
  | .ok full => full.isEmpty || (d.entryAt? full).isSome
  | .error _ => false

/-- Makes one directory. -/
def makeDirectory (d : Disk) (parts : List String) : Except PathFault Disk := do
  let full ← d.resolveParts [] parts
  if full.isEmpty || (d.entryAt? full).isSome then
    if d.isDirectory full then pure d else .error .alreadyExists
  else pure (d.put full .directory)

/-- Makes a directory, given by its parts from the last one on. Those above it are made when they
are missing; any other fault stops at once. -/
def makeDirectoriesUp (d : Disk) : List String → Except PathFault Disk
  | [] => .ok d
  | last :: above =>
    match d.makeDirectory (last :: above).reverse with
    | .error .notFound => do
      let d ← d.makeDirectoriesUp above
      d.makeDirectory (last :: above).reverse
    | result => result

/-- Makes a directory and those above it that are missing. -/
def makeDirectories (d : Disk) (parts : List String) : Except PathFault Disk :=
  d.makeDirectoriesUp parts.reverse

/-- Writes a file, in the place of one that was there; the directory that holds it must be there,
and a directory is not replaced. -/
def write? (d : Disk) (path text : String) : Option Disk :=
  match d.resolve path with
  | .error _ => none
  | .ok full =>
    if d.isDirectory full || path.endsWith "/" then none
    else some (d.put full (.file (.other text)))

/-- The path of the directory that holds a path. -/
def parent (path : String) : String :=
  let trimmed (cs : List Char) : List Char := cs.dropWhile (· == '/')
  let cs := (trimmed path.toList.reverse).dropWhile (· ≠ '/')
  String.ofList (trimmed cs).reverse

/-- The database in a file. -/
def database? (d : Disk) (path : List String) : Option Database :=
  match d.entryAt? path with
  | some (.file (.database db)) => some db
  | _ => none

def putDatabase (d : Disk) (path : List String) (db : Database) : Disk :=
  d.put path (.file (.database db))

/-- Opens a file for a database: a missing or empty file becomes an empty database. The result
says whether the content can be one. -/
def openDatabase (d : Disk) (path : String) : Except Unit (Disk × List String × Bool) :=
  match d.resolve path with
  | .error _ => .error ()
  | .ok full =>
    if d.isDirectory full || path.endsWith "/" then .error ()
    else
      match d.entryAt? full with
      | none => .ok (d.putDatabase full .empty, full, true)
      | some (.file (.database _)) => .ok (d, full, true)
      | some (.file (.other text)) =>
        if text.isEmpty then .ok (d.putDatabase full .empty, full, true) else .ok (d, full, false)
      | some .directory => .error ()

end Disk

end Outbox
