import MtaCheck.Files.Tree

/-!
# Where a path leads

A path is followed name by name.  Every name but the last has to be a directory;
symbolic links are replaced by their targets, at most `linkLimit` of them for one
path.  The name of one dot stays where it is, two dots go up, and the root is above
itself.
-/

namespace MtaCheck

/-- Why a path leads nowhere, or not to a file. -/
inductive FileError
  | notFound
  | notDirectory
  | isDirectory
  | tooManyLinks
  | nameTooLong
  /-- The path contains the character that ends paths. -/
  | nulCharacter
  /-- Any other failure, in the words of the system. -/
  | other (text : String)
deriving DecidableEq

/-- The text of a file error. -/
def FileError.message : FileError → String
  | .notFound => "No such file or directory (os error 2)"
  | .notDirectory => "Not a directory (os error 20)"
  | .isDirectory => "Is a directory (os error 21)"
  | .tooManyLinks => "Too many levels of symbolic links (os error 40)"
  | .nameTooLong => "File name too long (os error 36)"
  | .nulCharacter => "file name contained an unexpected NUL byte"
  | .other text => text

/-! ## Limits -/

/-- How many symbolic links are followed for one path. -/
def linkLimit : Nat := 40

/-- How many octets a name may have. -/
def nameLimit : Nat := 255

/-- How many octets a path may have. -/
def pathLimit : Nat := 4095

/-- What is wrong with a path, wherever it leads. -/
def Path.fault? (path : Path) : Option FileError :=
  if path.text.toList.contains '\x00' then some .nulCharacter
  else if path.text.isEmpty then some .notFound
  else if path.text.utf8ByteSize > pathLimit then some .nameTooLong
  else none

/-! ## Walking -/

/-- What stands at the end of a path: an entry, or a free name in a directory. -/
inductive Landing
  | entry (place : Place)
  | vacancy (directory : Place) (name : String)

/-- The names of a path to walk along.  A slash at the end asks for a directory, as
a dot behind it does. -/
def Path.steps (path : Path) : List String :=
  path.names ++ if path.endsInSlash then ["."] else []

namespace Entry

/-- Walks along names from a place on; `follow` walks on where a link leads. -/
def walkFrom (root : Entry) (follow : Place → List String → Except FileError Landing) :
    Place → List String → Except FileError Landing
  | place, [] => .ok (.entry place)
  | place, name :: rest =>
      match root.at? place with
      | none => .error .notFound
      | some here =>
          if !here.isDirectory then .error .notDirectory
          else if name == "." then walkFrom root follow place rest
          else if name == ".." then walkFrom root follow place.dropLast rest
          else if name.utf8ByteSize > nameLimit then .error .nameTooLong
          else match here.child? name with
            | none => if rest.isEmpty then .ok (.vacancy place name) else .error .notFound
            | some (.link target) =>
                follow (if target.isAbsolute then [] else place) (target.steps ++ rest)
            | some _ => walkFrom root follow (place ++ [name]) rest

/-- Walks along names from a place on, over a number of links at most. -/
def walk (root : Entry) : Nat → Place → List String → Except FileError Landing
  | 0 => walkFrom root fun _ _ => .error .tooManyLinks
  | links + 1 => walkFrom root (walk root links)

end Entry

namespace FileTree

/-- Where a path begins. -/
def start (tree : FileTree) (path : Path) : Place := if path.isAbsolute then [] else tree.working

/-- Where a path leads. -/
def resolve (tree : FileTree) (path : Path) : Except FileError Landing :=
  match path.fault? with
  | some error => .error error
  | none => tree.root.walk linkLimit (tree.start path) path.steps

/-- The entry that a path leads to. -/
def find (tree : FileTree) (path : Path) : Except FileError Entry :=
  match tree.resolve path with
  | .error error => .error error
  | .ok (.vacancy _ _) => .error .notFound
  | .ok (.entry place) => (tree.root.at? place).elim (.error .notFound) .ok

end FileTree

/-! ## What programs ask -/

/-- What a program may ask about a file system. -/
structure Disk where
  read : Path → Except FileError (List UInt8)
  isDirectory : Path → Bool

namespace FileTree

/-- The content of the file that a path leads to. -/
def read (tree : FileTree) (path : Path) : Except FileError (List UInt8) :=
  match tree.find path with
  | .error error => .error error
  | .ok (.file content) => .ok content
  | .ok _ => .error .isDirectory

/-- Whether a path leads to a directory. -/
def isDirectory (tree : FileTree) (path : Path) : Bool :=
  match tree.find path with
  | .ok entry => entry.isDirectory
  | .error _ => false

/-- A tree of files as programs see it. -/
def disk (tree : FileTree) : Disk := ⟨tree.read, tree.isDirectory⟩

end FileTree

end MtaCheck
