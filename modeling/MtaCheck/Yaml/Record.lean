import MtaCheck.Yaml.Reading

/-!
# Reading what is expected

Readers of documents whose shape is known: texts, sequences, and records, which are
mappings with known fields.  A scalar is taken as it is written, whatever it means.
What is empty counts as an empty sequence and as a record without fields.
-/

namespace MtaCheck.Yaml

/-- What a meaning is, in the words of messages. -/
def Meaning.found (text : String) : Meaning → Found
  | .null => .null
  | .truth value => .truth value
  | .number (.whole value) => .whole value
  | .number (.floating value) => .floating value
  | .wide value => .wide value
  | .text => .text text

/-- The complaint about an item that is not what was expected. -/
def Item.complaint (expected : String) : Item → Complaint
  | .scalar written =>
      match written.meaning false with
      | .ok meaning => .wrongType (meaning.found written.text) expected
      | .error complaint => complaint
  | .mappingStart _ | .mappingEnd => .wrongType .mapping expected
  | .sequenceStart _ | .sequenceEnd | .reference _ | .nothing => .wrongType .sequence expected

/-- Whether there is nothing at all: no text, or a scalar without any character. -/
def Item.isEmpty : Item → Bool
  | .nothing => true
  | .scalar written => written.text.isEmpty && written.style == .plain
  | _ => false

namespace Read

/-- Reads a text. -/
def text (document : Document) (expected : String) (trail : Trail) : Read String :=
  content document trail fun trail item mark =>
    match item with
    | .scalar scalar => return scalar.text
    | .nothing => throw .endOfDocument
    | item => refuse (item.complaint expected) mark trail

/-- Reads a sequence; `readItem` reads an item. -/
def sequence {α : Type} (document : Document) (trail : Trail) (readItem : Trail → Read α) :
    Read (List α) :=
  content document trail fun trail item mark =>
    match item with
    | .sequenceStart _ =>
        items document (fun index => readItem (.element trail index)) document.items.size 0
    | item =>
        if item.isEmpty then return []
        else refuse (item.complaint "a sequence") mark trail

/-- Reads a record.  What has been read so far is handed from field to field;
`readField` is given a way to complain about the record, the name of the field and
the way to its value. -/
def record {σ : Type} (document : Document) (expected : String) (trail : Trail) (empty : σ)
    (readField : (Complaint → Read σ) → String → Trail → σ → Read σ) : Read σ :=
  content document trail fun trail item mark =>
    match item with
    | .mappingStart _ =>
        let readEntry (key : Option String) (state : σ) : Read σ := do
          let name ← text document "field identifier" trail
          readField (refuse · mark trail) name (valueTrail trail key) state
        entries document readEntry document.items.size empty
    | item =>
        if item.isEmpty then return empty
        else refuse (item.complaint expected) mark trail

/-- Reads a field that may occur once. -/
def once {σ α : Type} (complain : Complaint → Read σ) (name : String) (found : Option α)
    (read : Read α) (store : α → σ) : Read σ :=
  match found with
  | some _ => complain (.duplicateField name)
  | none => do return store (← read)

end Read

end MtaCheck.Yaml
