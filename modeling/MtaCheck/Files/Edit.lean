import MtaCheck.Files.Resolve

/-!
# Changing a tree of files

Directories, files and links are made and removed by path: these operations set up
the disk that a command line is run on.  An operation tells whether it was carried
out to its end; what it has done before it failed remains.
-/

namespace MtaCheck.FileTree

/-- Changes the directory at a place. -/
def change (tree : FileTree) (place : Place)
    (edit : List (String × Entry) → List (String × Entry)) : FileTree :=
  { tree with root := tree.root.change edit place }

/-- The directory that names lead to. -/
def directory? (tree : FileTree) (start : Place) (names : List String) : Option Place :=
  match tree.root.walk linkLimit start names with
  | .ok (.entry place) =>
      if (tree.root.at? place).any (·.isDirectory) then some place else none
  | _ => none

/-- Whether a name can be given to an entry. -/
def isProper (name : String) : Bool :=
  name != "." && name != ".." && name.utf8ByteSize ≤ nameLimit

/-- Puts a new entry under the last of the names, if that is free. -/
def create? (tree : FileTree) (start : Place) (names : List String) (entry : Entry) :
    Option FileTree := do
  let name ← names.getLast?
  let directory ← tree.directory? start names.dropLast
  if isProper name && (tree.root.at? (directory ++ [name])).isNone then
    some (tree.change directory (Entry.putChild name entry))
  else none

/-! ## Directories -/

/-- Makes the directories along names, where they are missing.  The first list
holds the names that have been passed. -/
def makeAlong (tree : FileTree) (start : Place) : List String → List String → FileTree × Bool
  | _, [] => (tree, true)
  | passed, name :: rest =>
      let names := passed ++ [name]
      if (tree.directory? start names).isSome then makeAlong tree start names rest
      else match tree.create? start names (.directory []) with
        | some tree => makeAlong tree start names rest
        | none => (tree, false)

/-- Makes a directory and those above it. -/
def makeDirectory (tree : FileTree) (path : Path) : FileTree × Bool :=
  if path.text.isEmpty then (tree, true)
  else match path.fault? with
    | some _ => (tree, false)
    | none => makeAlong tree (tree.start path) [] path.names

/-! ## Files and links -/

/-- Writes a file, in place of another one if need be. -/
def putFile (tree : FileTree) (path : Path) (content : List UInt8) : FileTree × Bool :=
  let store (directory : Place) (name : String) :=
    (tree.change directory (Entry.putChild name (.file content)), true)
  match tree.resolve path with
  | .error _ => (tree, false)
  | .ok (.vacancy directory name) => store directory name
  | .ok (.entry place) =>
      match tree.root.at? place, place.getLast? with
      | some (.file _), some name => store place.dropLast name
      | _, _ => (tree, false)

/-- The names of a path without dots at its end. -/
def ownNames (path : Path) : List String :=
  (path.names.reverse.dropWhile (· == ".")).reverse

/-- Writes a file and makes the directories above it. -/
def write (tree : FileTree) (path : Path) (content : List UInt8) : FileTree × Bool :=
  match path.fault? with
  | some _ => (tree, false)
  | none =>
      match makeAlong tree (tree.start path) [] (ownNames path).dropLast with
      | (tree, true) => tree.putFile path content
      | (tree, false) => (tree, false)

/-- Makes a symbolic link. -/
def makeLink (tree : FileTree) (path target : Path) : FileTree × Bool :=
  if path.fault?.isSome || target.fault?.isSome || path.endsInSlash then (tree, false)
  else match tree.create? (tree.start path) path.names (.link target) with
    | some tree => (tree, true)
    | none => (tree, false)

/-! ## Removing -/

/-- Removes a file, a link or a directory with all it holds.  A directory that is
named by dots only loses what it holds. -/
def remove (tree : FileTree) (path : Path) : FileTree × Bool :=
  let start := tree.start path
  match path.fault?, path.names.getLast? with
  | some _, _ | _, none => (tree, false)
  | none, some name =>
      if name == "." || name == ".." then
        match tree.directory? start path.names with
        | some place => (tree.change place fun _ => [], false)
        | none => (tree, false)
      else match tree.directory? start path.names.dropLast with
        | none => (tree, false)
        | some directory =>
            match tree.root.at? (directory ++ [name]) with
            | none => (tree, false)
            | some entry =>
                if path.endsInSlash && !entry.isDirectory then (tree, false)
                else (tree.change directory fun entries => entries.filter (·.1 != name), true)

end MtaCheck.FileTree
