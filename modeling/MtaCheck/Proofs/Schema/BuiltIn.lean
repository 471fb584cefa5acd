import Mathlib.Data.List.Forall2
import MtaCheck.Proofs.Schema.Acceptance
import MtaCheck.Proofs.Schema.Versions
import MtaCheck.Proofs.Schema.Writing
import MtaCheck.Proofs.Yaml.Decoding
import MtaCheck.Schema.BuiltIn

/-!
# The schema of deployment descriptors, read

The text of the built-in schema spells the schema `Schema.descriptor`
(`ofText_descriptorSchemaText`), so it is valid, and its checks are those of that schema
(`CompiledSchema.descriptor_eq`).

Only two things have to be computed for this: the value that the text spells, which is what
`Schema.descriptor` is written as, and what the three regular expressions are read as.  All
computations start from characters, since it is slow to take a text apart.
-/

namespace MtaCheck

open Yaml (Document Value)

/-! ## The schema -/

namespace Schema

/-- A property that says nothing about its value. -/
def free : Schema := .leaf ⟨.any, none, none⟩

/-- A value of any kind that has to be there. -/
def present : Schema := .leaf ⟨.any, none, some true⟩

/-- A scalar that has to be there and to match. -/
def matching (regex : Regex) : Schema := .leaf ⟨.any, some regex, some true⟩

/-- A truth value that may be missing, whether the schema says so or not. -/
def flag (required : Option Bool) : Schema := .leaf ⟨.boolean, none, required⟩

/-- Something that a module provides. -/
def providedThing : Schema := .map [("name", .matching nameRegex), ("public", .flag (some false))]

/-- How a module is built. -/
def buildParameters : Schema :=
  .map [("builder", .free), ("ignore", .sequence .present),
    ("supported-platforms", .sequence (.leaf ⟨.oneOf ["CF", "NEO", "XSA"], none, none⟩)),
    ("requires", .sequence (.map [("name", .present), ("target-path", .free)]))]

/-- A module. -/
def descriptorModule : Schema :=
  .map [("name", .matching nameRegex), ("type", .present), ("description", .free),
    ("path", .free),
    ("requires", .sequence (.map [("name", .present), ("group", .free), ("list", .free)])),
    ("provides", .sequence providedThing), ("build-parameters", buildParameters)]

/-- A resource. -/
def descriptorResource : Schema :=
  .map [("name", .matching nameRegex), ("type", .free), ("description", .free),
    ("optional", .flag none), ("active", .flag none),
    ("requires", .sequence (.map [("name", .present)]))]

/-- The schema of deployment descriptors. -/
def descriptor : Schema :=
  .map [("_schema-version", .matching schemaVersionRegex), ("ID", .matching nameRegex),
    ("description", .free), ("version", .matching versionRegex), ("provider", .free),
    ("copyright", .free), ("modules", .sequence descriptorModule),
    ("resources", .sequence descriptorResource)]

end Schema

/-! ## Its regular expressions -/

deriving instance DecidableEq for Regex.CharSet
deriving instance DecidableEq for Regex.Look
deriving instance DecidableEq for Regex.Pattern

namespace Regex

/-- Whether the text of a regular expression is read as its pattern. -/
def isReadable (regex : Regex) : Bool :=
  match ofSource regex.source with
  | .ok read => read.pattern == regex.pattern
  | .error _ => false

theorem ofSource_of_isReadable {regex : Regex} (hreadable : regex.isReadable = true) :
    ofSource regex.source = .ok regex := by
  rw [isReadable] at hreadable
  split at hreadable
  · rename_i read hread
    have hsource := source_eq_of_ofSource hread
    have hpattern := beq_iff_eq.mp hreadable
    cases read
    cases regex
    rw [hread]
    simp_all
  · cases hreadable

theorem isReadable_patterns :
    nameRegex.isReadable ∧ schemaVersionRegex.isReadable ∧ versionRegex.isReadable := by
  decide +kernel

end Regex

theorem Schema.readable_descriptor : Schema.descriptor.Readable := by
  obtain ⟨hname, hschemaVersion, hversion⟩ := Regex.isReadable_patterns
  simp only [descriptor, descriptorModule, descriptorResource, buildParameters, providedThing, free,
    present, matching, flag, Readable, EntriesReadable, Rules.Readable,
    Option.some.injEq, forall_eq', reduceCtorEq, false_implies, implies_true, and_true,
    Regex.ofSource_of_isReadable hname, Regex.ofSource_of_isReadable hschemaVersion,
    Regex.ofSource_of_isReadable hversion]

/-! ## Comparing values -/

namespace Yaml.Value

mutual

/-- Whether two values are the same, without tags and numbers and in the same order. -/
def identical : Value → Value → Bool
  | .null, .null => true
  | .truth value, .truth value' => value == value'
  | .text value, .text value' => value == value'
  | .sequence items, .sequence items' => identicalItems items items'
  | .mapping entries, .mapping entries' => identicalEntries entries entries'
  | _, _ => false

/-- Whether two lists of items are the same. -/
def identicalItems : List Value → List Value → Bool
  | [], [] => true
  | item :: items, item' :: items' => identical item item' && identicalItems items items'
  | _, _ => false

/-- Whether two lists of entries are the same. -/
def identicalEntries : List (Value × Value) → List (Value × Value) → Bool
  | [], [] => true
  | (key, value) :: entries, (key', value') :: entries' =>
      identical key key' && identical value value' && identicalEntries entries entries'
  | _, _ => false

end

mutual

theorem eq_of_identical : ∀ {value value' : Value}, identical value value' = true → value = value'
  | .null, .null, _ => rfl
  | .truth value, .truth value', hidentical | .text value, .text value', hidentical => by
      rw [identical, beq_iff_eq] at hidentical
      rw [hidentical]
  | .sequence items, .sequence items', hidentical => by
      rw [identical] at hidentical
      rw [eq_of_identicalItems hidentical]
  | .mapping entries, .mapping entries', hidentical => by
      rw [identical] at hidentical
      rw [eq_of_identicalEntries hidentical]

theorem eq_of_identicalItems : ∀ {items items' : List Value},
    identicalItems items items' = true → items = items'
  | [], [], _ => rfl
  | item :: items, item' :: items', hidentical => by
      rw [identicalItems, Bool.and_eq_true] at hidentical
      rw [eq_of_identical hidentical.1, eq_of_identicalItems hidentical.2]

theorem eq_of_identicalEntries : ∀ {entries entries' : List (Value × Value)},
    identicalEntries entries entries' = true → entries = entries'
  | [], [], _ => rfl
  | (key, value) :: entries, (key', value') :: entries', hidentical => by
      rw [identicalEntries, Bool.and_eq_true, Bool.and_eq_true] at hidentical
      rw [eq_of_identical hidentical.1.1, eq_of_identical hidentical.1.2, eq_of_identicalEntries hidentical.2]

end

end Yaml.Value

/-! ## Reading the text -/

/-- Whether a text is in ASCII and spells a value. -/
def spells (chars : List Char) (expected : Value) : Bool :=
  Yaml.isSimpleText chars && match Value.ofDocument (.ofCharacters chars) with
    | .ok value => value.identical expected
    | .error _ => false

theorem parse_eq_ok_of_spells {text : String} {expected : Value}
    (hspells : spells text.toList expected = true) :
    Yaml.parse text.toUTF8.toList = .ok expected := by
  rw [spells, Bool.and_eq_true] at hspells
  obtain ⟨htext, hidentical⟩ := hspells
  rw [Yaml.parse, Document.ofOctets_toUTF8 htext]
  -- the result is named, or else Lean would try to compute it
  generalize Value.ofDocument _ = result at hidentical ⊢
  cases result with
  | ok value => rw [Value.eq_of_identical hidentical]
  | error error => cases hidentical

/-- A line has these characters. -/
def HasChars (line : String) (chars : List Char) : Prop := line = .ofList chars

theorem toList_join_lines {lines : List String} {chars : List (List Char)}
    (hlines : List.Forall₂ HasChars lines chars) :
    (String.join (lines.map fun line => line ++ "\n")).toList = chars.flatMap (· ++ ['\n']) := by
  rw [String.toList_join]
  induction hlines with
  | nil => rfl
  | cons hline _ ih =>
      rw [HasChars] at hline
      rw [List.map_cons, List.flatMap_cons, List.flatMap_cons, ih, hline, String.toList_append,
        String.toList_ofList]
      rfl

-- the longest line is deeper than the default allows
set_option maxRecDepth 1000 in
theorem exists_chars_descriptorSchemaLines :
    ∃ chars, List.Forall₂ HasChars descriptorSchemaLines chars ∧
      spells (chars.flatMap (· ++ ['\n'])) Schema.descriptor.written = true := by
  apply Exists.intro
  apply And.intro
  · -- the characters are those of the lines
    simp only [descriptorSchemaLines]
    repeat
      apply List.Forall₂.cons
      · exact rfl
    exact .nil
  · decide +kernel

theorem parse_descriptorSchemaText :
    Yaml.parse descriptorSchemaText.toUTF8.toList = .ok Schema.descriptor.written := by
  obtain ⟨chars, hchars, hspells⟩ := exists_chars_descriptorSchemaLines
  refine parse_eq_ok_of_spells ?_
  rw [descriptorSchemaText, toList_join_lines hchars, hspells]

theorem Schema.ofText_of_parse {text : String} {value : Value}
    (hparse : Yaml.parse text.toUTF8.toList = .ok value) : ofText text = ofNode (.ofValue value) := by
  unfold ofText
  rw [hparse]

/-- **The text of the built-in schema spells it.** -/
theorem ofText_descriptorSchemaText : Schema.ofText descriptorSchemaText = .ok .descriptor :=
  (Schema.ofText_of_parse parse_descriptorSchemaText).trans
    (Schema.ofNode_written Schema.readable_descriptor)

theorem CompiledSchema.descriptor_eq :
    CompiledSchema.descriptor = ⟨Schema.descriptor.checks, []⟩ := by
  rw [CompiledSchema.descriptor, CompiledSchema.ofText, ofText_descriptorSchemaText,
    CompiledSchema.ofResult]

end MtaCheck
