import MtaCheck.Yaml.Parse

/-!
# Nodes

A node is a document, or a part of it, as checks see it: a map, a sequence, a
scalar, or nothing.  Tags are seen through, and a null is the same as nothing at
all.  Looking for something that is not there leads to the missing node and is no
error.
-/

namespace MtaCheck

open Yaml (Value Number)

/-- A scalar that is not null. -/
inductive Leaf
  | truth (value : Bool)
  | number (value : Number)
  | text (value : String)

/-- A part of a document, or the lack of one. -/
inductive Node
  | map (entries : List (Value × Value))
  | sequence (items : List Value)
  | scalar (leaf : Leaf)
  | missing

/-- The kinds of nodes. -/
inductive NodeKind
  | map
  | sequence
  | scalar
  | missing
deriving DecidableEq

/-- The name of a kind. -/
def NodeKind.name : NodeKind → String
  | .map => "map"
  | .sequence => "sequence"
  | .scalar => "scalar"
  | .missing => "missing"

/-- A node of another kind than the one asked for. -/
structure KindError where
  expected : String
  found : NodeKind

/-- The text of a kind error. -/
def KindError.message (error : KindError) : String :=
  s!"expected a {error.expected} node, found a {error.found.name} node"

/-- The literal form of a scalar: a text as it is, a truth value by its name, a
number in its shortest form. -/
def Leaf.literal : Leaf → String
  | .truth value => toString value
  | .number value => value.literal
  | .text value => value

namespace Node

/-- The node that a value is. -/
def ofValue : Value → Node
  | .null => .missing
  | .truth value => .scalar (.truth value)
  | .number value => .scalar (.number value)
  | .text value => .scalar (.text value)
  | .sequence items => .sequence items
  | .mapping entries => .map entries
  | .tagged _ value => ofValue value

/-- The kind of a node. -/
def kind : Node → NodeKind
  | .map _ => .map
  | .sequence _ => .sequence
  | .scalar _ => .scalar
  | .missing => .missing

/-- Whether there is anything. -/
def isFound : Node → Bool
  | .missing => false
  | _ => true

/-- Whether the node is a map. -/
def isMap : Node → Bool
  | .map _ => true
  | _ => false

/-- Whether the node is a sequence. -/
def isSequence : Node → Bool
  | .sequence _ => true
  | _ => false

/-- The literal form of a scalar. -/
def literal? : Node → Option String
  | .scalar leaf => some leaf.literal
  | _ => none

/-! ## Going down -/

/-- The literal form of a key. -/
def keyLiteral? (key : Value) : Option String := (ofValue key).literal?

/-- The value of the entry whose key is the text `key` without a tag. -/
def entryOfText? (key : String) (entries : List (Value × Value)) : Option Value :=
  (entries.find? fun entry => entry.1.same (.text key)).map (·.2)

/-- The value of the first entry whose key has the literal form `key`. -/
def entryOfLiteral? (key : String) (entries : List (Value × Value)) : Option Value :=
  (entries.find? fun entry => keyLiteral? entry.1 == some key).map (·.2)

/-- The property `key` of a map.  An entry whose key is that text comes before
entries whose key only has that literal form. -/
def get (node : Node) (key : String) : Node :=
  match node with
  | .map entries =>
      ((entryOfText? key entries <|> entryOfLiteral? key entries).map ofValue).getD .missing
  | _ => .missing

/-- The element of a sequence at an index. -/
def at? (node : Node) (index : Nat) : Node :=
  match node with
  | .sequence items => (items[index]?.map ofValue).getD .missing
  | _ => .missing

/-- The entries of a map in their order, by literal form.  Keys without one are
listed under the empty text. -/
def entries : Node → List (String × Node)
  | .map entries => entries.map fun entry => ((keyLiteral? entry.1).getD "", ofValue entry.2)
  | _ => []

/-- The elements of a sequence in their order. -/
def elements : Node → List Node
  | .sequence items => items.map ofValue
  | _ => []

/-! ## Asking for a kind -/

/-- The error of a node that is not what was asked for. -/
def mismatch (node : Node) (expected : String) : KindError := ⟨expected, node.kind⟩

/-- The entries of a map; nothing has none. -/
def asMap : Node → Except KindError (Option (List (Value × Value)))
  | .map entries => .ok (some entries)
  | .missing => .ok none
  | node => .error (node.mismatch "map")

/-- The items of a sequence; nothing has none. -/
def asSequence : Node → Except KindError (Option (List Value))
  | .sequence items => .ok (some items)
  | .missing => .ok none
  | node => .error (node.mismatch "sequence")

/-- A truth value; nothing has none. -/
def asTruth : Node → Except KindError (Option Bool)
  | .scalar (.truth value) => .ok (some value)
  | .missing => .ok none
  | node => .error (node.mismatch "boolean")

/-- A text; nothing has none. -/
def asText : Node → Except KindError (Option String)
  | .scalar (.text value) => .ok (some value)
  | .missing => .ok none
  | node => .error (node.mismatch "string")

end Node

end MtaCheck
