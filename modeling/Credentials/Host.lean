import Credentials.FilePath
import Credentials.Source.Environment

/-!
# Hosts

A host is what the library sees of the machine that it runs on: for every path what is found there,
and the variables of the environment. `FileTree` is a host's files held in memory; a walk through it
takes the segments of a path one by one and needs a directory wherever a segment follows. Above the
root of the tree nothing is known but that there are directories. Names and paths have a greatest
length, and the walk finds out about a name when it gets there.
-/

namespace Credentials

open Text

/-- What is found at a path. -/
inductive Found where
  | file (content : ByteArray)
  | directory
  | missing
  /-- The path leads on from a file. -/
  | notADirectory
  /-- No file can have this path. -/
  | malformed
  /-- The path, or a name on it, is longer than any can be. -/
  | tooLong

/-- What is seen of a machine. -/
structure Host where
  find : String → Found
  environment : Environment

/-- Files by their steps from the root; an entry without content is a directory. -/
abbrev FileTree := List (List (List Char) × Option ByteArray)

namespace FileTree

/-- The tree of named files. -/
def ofList (files : List (String × Option ByteArray)) : FileTree :=
  files.map fun p => (FilePath.steps p.1, p.2)

/-- What stands at a place: the last entry for it, or a directory if an entry lies below. -/
def stands (t : FileTree) (place : List (List Char)) : Found :=
  match t.reverse.find? (·.1 == place) with
  | some (_, some content) => .file content
  | some (_, none) => .directory
  | none => if place.isEmpty || t.any (fun p => place.isPrefixOf p.1) then .directory else .missing

/-- The step to the parent directory. -/
def parentStep : List Char := ['.', '.']

/-- How many bytes characters take. -/
def byteLength (cs : List Char) : Nat := (String.ofList cs).utf8ByteSize

/-- The most bytes that a name may have. -/
def longestName : Nat := 255

/-- The most bytes that a path may have. -/
def longestPath : Nat := 4095

/-- A walk along segments from a place; no place is one above the root. -/
def walk (t : FileTree) : Option (List (List Char)) → List (List Char) → Found
  | none, [] => .directory
  | none, s :: r =>
    if !FilePath.isStep s || s == parentStep then t.walk none r
    else if longestName < byteLength s then .tooLong
    else .missing
  | some place, [] => t.stands place
  | some place, s :: r =>
    match t.stands place with
    | .directory =>
      if !FilePath.isStep s then t.walk (some place) r
      else if s = parentStep then t.walk (if place.isEmpty then none else some place.dropLast) r
      else if longestName < byteLength s then .tooLong
      else t.walk (some (place ++ [s])) r
    | .file _ => .notADirectory
    | found => found

/-- What is found at a path. -/
def find (t : FileTree) (path : String) : Found :=
  if path.isEmpty then .missing
  else if path.toList.contains (Char.ofNat 0) then .malformed
  else if longestPath < byteLength path.toList then .tooLong
  else t.walk (if path.toList.head? = some FilePath.separator then none else some [])
    (FilePath.segments path)

end FileTree

/-- The host with files in memory. -/
def Host.ofFiles (files : List (String × Option ByteArray)) (environment : Environment) : Host :=
  ⟨(FileTree.ofList files).find, environment⟩

end Credentials
