import Sierra.Command

/-!
# Files in memory

A folder of files by their paths, as a place to run the command in. Folders between are there when a
file lies below them.
-/

namespace Sierra

set_option autoImplicit false

structure Folder where
  /-- Each file with the names on the way to it. Of two files with one way the first one counts. -/
  files : List (List String × ByteArray)

namespace Folder

/-- The names in a path, with nothing between two slashes that follow each other. -/
def names (path : String) : List String :=
  (path.toList.splitOn '/').map String.ofList

def wayOf (path : String) : List String :=
  (names path).filter (fun name => name ≠ "" ∧ name ≠ ".")

/-- The folder with the given files. A file that is given again replaces the one before it. -/
def ofFiles (files : List (String × ByteArray)) : Folder :=
  ⟨(files.map (fun file => (wayOf file.1, file.2))).reverse⟩

def file? (folder : Folder) (way : List String) : Option ByteArray :=
  (folder.files.find? (fun file => file.1 = way)).map (·.2)

def hasFolder (folder : Folder) (way : List String) : Bool :=
  way.isEmpty || folder.files.any (fun file => way.isPrefixOf file.1 && file.1 ≠ way)

/-- Where a path stands: in the folder behind some names, or outside of it. -/
inductive Place where
  | within (way : List String)
  | outside
  deriving DecidableEq, Repr

def maximumName : Nat := 255

def maximumPath : Nat := 4095

/-- Where names lead from a place. A file leads nowhere; an empty name and a dot stay, two dots lead
back. Outside there are folders on the way up and nothing else. -/
def follow (folder : Folder) (place : Place) : List String → Except ReadFault Place
  | [] => .ok place
  | name :: more =>
    match place with
    | .outside =>
      if name = "" ∨ name = "." ∨ name = ".." then
        folder.follow .outside more
      else if maximumName < name.utf8ByteSize then
        .error .nameTooLong
      else
        .error .notFound
    | .within way =>
      if (folder.file? way).isSome then
        .error .notFolder
      else if !folder.hasFolder way then
        .error .notFound
      else if name = "" ∨ name = "." then
        folder.follow (.within way) more
      else if name = ".." then
        folder.follow (if way.isEmpty then .outside else .within way.dropLast) more
      else if maximumName < name.utf8ByteSize then
        .error .nameTooLong
      else
        folder.follow (.within (way ++ [name])) more

/-- The content of the file that a path leads to; a path that begins with a slash begins outside. -/
def read (folder : Folder) (path : String) : Except ReadFault ByteArray := do
  if maximumPath < path.utf8ByteSize then
    throw .nameTooLong
  let origin := if path.toList.head? = some '/' then Place.outside else .within []
  match ← folder.follow origin (names path) with
  | .outside => throw .isFolder
  | .within way =>
    match folder.file? way with
    | some bytes => return bytes
    | none => throw (if folder.hasFolder way then .isFolder else .notFound)

end Folder

end Sierra
