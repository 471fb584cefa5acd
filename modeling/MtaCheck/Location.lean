/-!
# Places inside a document

A `Location` is the list of names and indices that lead from the root of a
document to a node.  An index is written in brackets and joins the name in front
of it; the root and the names directly below it are shown with the word `root`.
-/

namespace MtaCheck

/-- A place inside a document: the names and bracketed indices that lead there
from the root. -/
structure Location where
  segments : List String
deriving DecidableEq, Inhabited

namespace Location

/-- The place of the document itself. -/
def root : Location := ⟨[]⟩

/-- The word for the root. -/
def rootName : String := "root"

/-- The segment for an index. -/
def indexSegment (index : Nat) : String := "[" ++ toString index ++ "]"

/-- The place of the property `name` below. -/
def child (location : Location) (name : String) : Location := ⟨location.segments ++ [name]⟩

/-- The place of the element `index` below. -/
def index (location : Location) (index : Nat) : Location := location.child (indexSegment index)

/-- The place above; the root is above itself. -/
def parent (location : Location) : Location := ⟨location.segments.dropLast⟩

/-- The last segment, none at the root. -/
def leaf? (location : Location) : Option String := location.segments.getLast?

/-- Joins an index to the name in front of it: the dot before an opening bracket
is dropped. -/
def joinIndices : List Char → List Char
  | '.' :: '[' :: rest => '[' :: joinIndices rest
  | char :: rest => char :: joinIndices rest
  | [] => []

/-- The segments with dots between them, below the word for the root where there
are fewer than two. -/
def dotted : List String → String
  | [] => rootName
  | [segment] => rootName ++ "." ++ segment
  | segments => ".".intercalate segments

/-- The text of a location. -/
def display (location : Location) : String :=
  String.ofList (joinIndices (dotted location.segments).toList)

end Location

end MtaCheck
