import MtaCheck.Files.Path

/-!
# Trees of files

A file system is a tree of directories with files and symbolic links in it.  A
`Place` names an entry by the names on the way down from the root, so that
different places are different entries.
-/

namespace MtaCheck

/-- An entry of a directory. -/
inductive Entry
  | file (content : List UInt8)
  | directory (entries : List (String × Entry))
  | link (target : Path)

/-- The names on the way from the root to an entry. -/
abbrev Place := List String

namespace Entry

/-- Whether an entry is a directory. -/
def isDirectory : Entry → Bool
  | .directory _ => true
  | _ => false

/-- The entry with a name in a directory. -/
def child? (name : String) : Entry → Option Entry
  | .directory entries => entries.lookup name
  | _ => none

/-- The entry at a place below. -/
def at? : Entry → Place → Option Entry
  | entry, [] => some entry
  | entry, name :: names => (entry.child? name).bind (·.at? names)

/-- Puts an entry under a name, in place of what was there. -/
def putChild (name : String) (new : Entry) : List (String × Entry) → List (String × Entry)
  | [] => [(name, new)]
  | (other, entry) :: entries =>
      if other == name then (name, new) :: entries else (other, entry) :: putChild name new entries

/-- Changes the directory at a place below. -/
def change (edit : List (String × Entry) → List (String × Entry)) : Place → Entry → Entry
  | [], .directory entries => .directory (edit entries)
  | name :: names, .directory entries =>
      .directory (entries.map fun (other, entry) =>
        (other, if other == name then change edit names entry else entry))
  | _, entry => entry

end Entry

/-- A file system with a working directory, from which relative paths begin. -/
structure FileTree where
  root : Entry
  working : Place

end MtaCheck
