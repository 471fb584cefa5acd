import MtaCheck.Yaml.Reading

/-!
# The value of a document

`Value.ofDocument` reads a document as a tree of values, and `parse` does so for a
text.  References are replaced by the values they stand for, tags that belong to
the document are kept, and no two keys of a mapping may be equal.
-/

namespace MtaCheck.Yaml

namespace Value

/-- The value of a scalar. -/
def ofScalar (scalar : Scalar) (tagged : Bool) : Except Complaint Value := do
  match ← scalar.meaning tagged with
  | .null => return .null
  | .truth value => return .truth value
  | .number value => return .number value
  | .wide value => throw (.wrongType (.wide value) "any YAML value")
  | .text => return .text scalar.text

/-- Puts a value under its tag, unless that has been done already. -/
def withTag (tagged : Bool) (tag : Option TagOctets) (value : Bool → Read Value) :
    Read Value := do
  match if tagged then none else localTag? tag with
  | some name => return .tagged name (← value true)
  | none => value tagged

/-- Reads one entry of a mapping behind the entries before it, newest first. -/
def readEntry (read : Bool → Trail → Read Value) (tagged : Bool) (mark : Mark) (trail : Trail)
    (key : Option String) (entries : List (Value × Value)) : Read (List (Value × Value)) := do
  let keyValue ← read tagged trail
  if let some key := equalKey? keyValue entries then
    Read.refuse (.duplicateKey key) mark trail
  let value ← read false (Read.valueTrail trail key)
  return (keyValue, value) :: entries

/-- Reads the value that begins with the given item.  What a reference stands for
is no reference itself. -/
def readContent (document : Document) (below : Option (Bool → Trail → Read Value))
    (tagged : Bool) (trail : Trail) (item : Item) (mark : Mark) : Read Value :=
  match item with
  | .scalar scalar =>
      withTag tagged scalar.tag fun tagged =>
        match ofScalar scalar tagged with
        | .ok value => pure value
        | .error complaint => Read.refuse complaint mark trail
  | .sequenceStart tag =>
      withTag tagged tag fun _ => Read.inside below mark fun read => do
        let items ← Read.items document (fun index => read false (.element trail index))
          document.items.size 0
        return .sequence items
  | .mappingStart tag =>
      withTag tagged tag fun tagged => Read.inside below mark fun read => do
        let entries ← Read.entries document (readEntry read tagged mark trail)
          document.items.size []
        return .mapping entries.reverse
  | .reference _ | .sequenceEnd | .mappingEnd | .nothing => return .null

/-- Reads the next value; `below` reads the values inside of it, if the depth
allows any. -/
def readNext (document : Document) (below : Option (Bool → Trail → Read Value))
    (tagged : Bool) (trail : Trail) : Read Value :=
  Read.content document trail (readContent document below tagged)

/-- Reads a value whose collections may be nested `depth` deep. -/
def read (document : Document) : Nat → Bool → Trail → Read Value
  | 0 => readNext document none
  | depth + 1 => readNext document (some (read document depth))

/-- The value that a document holds. -/
def ofDocument (document : Document) : Except ReadError Value :=
  Read.run document (read document depthLimit false .root)

end Value

/-- The value that a text spells. -/
def parse (octets : List UInt8) : Except ReadError Value :=
  Value.ofDocument (.ofOctets octets)

end MtaCheck.Yaml
