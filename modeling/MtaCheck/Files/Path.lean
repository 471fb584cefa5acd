/-!
# Paths

A path is a text in which slashes separate names.  It is kept as it is written:
joining two paths only puts a slash between them, and nothing is simplified.

The paths of a file system are octets, and those that are no text in UTF-8 are not
modelled: neither a project in such a directory, nor arguments that are such octets.
-/

namespace MtaCheck

/-- A path of the file system that is a text. -/
structure Path where
  text : String
deriving DecidableEq, Inhabited

namespace Path

/-- Whether a path begins at the root of the file system. -/
def isAbsolute (path : Path) : Bool := path.text.toList.head? == some '/'

/-- Whether a path ends with a slash. -/
def endsInSlash (path : Path) : Bool := path.text.toList.getLast? == some '/'

/-- A path seen from another one.  An absolute path stands for itself. -/
def join (base path : Path) : Path :=
  if path.isAbsolute || base.text.isEmpty then path
  else if base.endsInSlash then ⟨base.text ++ path.text⟩
  else ⟨base.text ++ "/" ++ path.text⟩

/-- The names between the slashes of a text, the last name first in work. -/
def splitNames : List Char → List Char → List (List Char)
  | [], name => [name.reverse]
  | char :: rest, name =>
      if char == '/' then name.reverse :: splitNames rest [] else splitNames rest (char :: name)

/-- The names of a path in their order. -/
def names (path : Path) : List String :=
  ((splitNames path.text.toList []).filter (!·.isEmpty)).map String.ofList

end Path

end MtaCheck
