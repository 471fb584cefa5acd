import MtaCheck.Text.Quoted
import MtaCheck.Yaml.Document
import MtaCheck.Yaml.Value

/-!
# Why a document cannot be read

Reading a document fails if its text breaks off, or if what stands there is not
what the reader asks for.  An error of the second kind names the place in the
text and the way that leads to it through the document.
-/

namespace MtaCheck.Yaml

/-! ## The way to a value -/

/-- The way through a document to a value. -/
inductive Trail
  | root
  | element (parent : Trail) (index : Nat)
  | entry (parent : Trail) (key : String)
  | reference (parent : Trail)
  /-- The value of a key that is no text. -/
  | unnamed (parent : Trail)

mutual

/-- The words for a way. -/
def Trail.render : Trail → String
  | .root => "."
  | .element parent index => parent.render ++ "[" ++ toString index ++ "]"
  | .entry parent key => parent.renderParent ++ key
  | .reference parent => parent.render
  | .unnamed parent => parent.renderParent ++ "?"

/-- The words for a way in front of a key. -/
def Trail.renderParent : Trail → String
  | .root => ""
  | .element parent index => parent.render ++ "[" ++ toString index ++ "]" ++ "."
  | .entry parent key => parent.renderParent ++ key ++ "."
  | .reference parent => parent.render ++ "."
  | .unnamed parent => parent.renderParent ++ "?" ++ "."

end

/-! ## What was found -/

/-- What a reader found instead of what it asked for. -/
inductive Found
  | null
  | truth (value : Bool)
  | whole (value : Int)
  /-- A whole number of more than 64 bits. -/
  | wide (value : Int)
  | floating (value : Decimal.Binary64)
  | text (value : String)
  | sequence
  | mapping

/-- How messages show floating-point numbers: always positionally. -/
def Found.layout : Decimal.Layout := ⟨none, none, .up, "inf", "NaN"⟩

/-- The words for what was found. -/
def Found.describe : Found → String
  | .null => "unit value"
  | .truth value => s!"boolean `{value}`"
  | .whole value => s!"integer `{value}`"
  | .wide value => s!"integer `{value}` as " ++ (if value < 0 then "i128" else "u128")
  | .floating value => "floating point `" ++ Found.layout.text value ++ "`"
  | .text value => "string " ++ Text.quoted value
  | .sequence => "sequence"
  | .mapping => "map"

/-! ## The errors -/

/-- A value that a reader cannot take. -/
inductive Complaint
  | wrongType (found : Found) (expected : String)
  | wrongValue (text : String) (expected : String)
  | duplicateKey (key : Value)
  | duplicateField (name : String)

/-- The wording of a complaint. -/
def Complaint.message : Complaint → String
  | .wrongType found expected => "invalid type: " ++ found.describe ++ ", expected " ++ expected
  | .wrongValue text expected =>
      "invalid value: string " ++ Text.quoted text ++ ", expected " ++ expected
  | .duplicateKey key => "duplicate entry " ++ match key with
      | .null => "with null key"
      | .truth value => s!"with key `{value}`"
      | .number value => "with key " ++ value.literal
      | .text value => "with key " ++ Text.quoted value
      | .sequence _ | .mapping _ | .tagged _ _ => "in YAML map"
  | .duplicateField name => s!"duplicate field `{name}`"

/-- Why a document cannot be read. -/
inductive ReadError
  | refused (complaint : Complaint) (mark : Mark) (trail : Trail)
  | broken (cause : Break)
  | endOfDocument
  | recursionLimit (mark : Mark)
  | repetitionLimit
  | moreThanOneDocument

/-- The text of an error. -/
def ReadError.message : ReadError → String
  | .refused complaint mark trail =>
      let way := trail.render
      (if way == "." then "" else way ++ ": ") ++ complaint.message ++ mark.suffix
  | .broken (.malformed error) => error.message
  | .broken (.unknownAnchor mark) => "unknown anchor" ++ mark.suffix
  | .endOfDocument => "EOF while parsing a value"
  | .recursionLimit mark => "recursion limit exceeded" ++ mark.suffix
  | .repetitionLimit => "repetition limit exceeded"
  | .moreThanOneDocument =>
      "deserializing from YAML containing more than one document is not supported"

end MtaCheck.Yaml
