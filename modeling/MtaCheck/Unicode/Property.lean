import MtaCheck.Unicode.CodeSet
import MtaCheck.Unicode.GeneralCategory
import MtaCheck.Unicode.Script
import MtaCheck.Unicode.ScriptExtension
import MtaCheck.Unicode.CaseProperty
import MtaCheck.Unicode.IdentifierProperty
import MtaCheck.Unicode.BinaryProperty
import MtaCheck.Unicode.CaseFolding

/-!
# Properties of characters by name

The names of properties and of their values are compared loosely: case, spaces,
hyphens and underscores do not count, nor does `is` in front.  A query names a
general category, a script or a property with two values; or it names one of the
properties with many values and one of the values.
-/

namespace MtaCheck.Unicode

/-! ## Loose names -/

/-- A name without what does not count in comparisons.  What is left of `isc` is
not taken for the abbreviation `c`. -/
def looseName (name : String) : String :=
  let characters := name.toList
  let startsWithIs := (characters.take 2).map Char.toLower == ['i', 's']
  let kept := (if startsWithIs then characters.drop 2 else characters).filter fun char =>
    char.toNat < 0x80 && char != ' ' && char != '_' && char != '-'
  let folded := kept.map Char.toLower
  String.ofList (if startsWithIs && folded == ['c'] then ['i', 's', 'c'] else folded)

/-- The value of the entry whose name is loosely equal to a loose name. -/
def findLoose {α : Type} (name : String) (entries : List (String × α)) : Option (String × α) :=
  entries.find? fun entry => looseName entry.1 == name

/-- The full name behind a loose one, among the given names and aliases. -/
def fullName? (name : String) (names : List String) (aliases : List (String × String)) :
    Option String :=
  match names.find? (looseName · == name) with
  | some full => some full
  | none => (findLoose name aliases).map (·.2)

/-! ## Categories -/

/-- The set of a general category. -/
def category (name : String) : CodeSet :=
  (generalCategories.lookup name).elim ⟨[]⟩ CodeSet.ofTable

/-- The set of a general category or a group of them, by its full name. -/
def categoryOrGroup (name : String) : CodeSet :=
  match categoryGroups.lookup name with
  | some members => .unions (members.map category)
  | none => category name

/-- The set that a loose name stands for as a general category.  Three more names
stand for ASCII, for all code points, and for those that are assigned. -/
def findCategory? (name : String) : Option CodeSet :=
  if name == "any" then some ⟨[(0, 0x10FFFF)]⟩
  else if name == "ascii" then some ⟨[(0, 0x7F)]⟩
  else if name == "assigned" then
    some (.unions ((generalCategories.filter (·.1 != "Unassigned")).map fun entry =>
      .ofTable entry.2))
  else
    (fullName? name (generalCategories.map (·.1) ++ categoryGroups.map (·.1)) categoryAliases).map
      categoryOrGroup

/-! ## Scripts -/

/-- The set of a script, by its full name. -/
def script (name : String) : CodeSet := (scripts.lookup name).elim ⟨[]⟩ CodeSet.ofTable

/-- The full name of the script behind a loose name. -/
def scriptName? (name : String) : Option String :=
  fullName? name (scripts.map (·.1)) scriptAliases

/-- The ranges of a set without those of another; both have disjoint ranges. -/
def withoutRange (removed : Nat × Nat) (ranges : List (Nat × Nat)) : List (Nat × Nat) :=
  ranges.flatMap fun (first, last) =>
    if removed.2 < first || last < removed.1 then [(first, last)]
    else
      (if first < removed.1 then [(first, removed.1 - 1)] else [])
        ++ (if removed.2 < last then [(removed.2 + 1, last)] else [])

/-- The characters used with a script, by its full name. -/
def scriptExtension (name : String) : CodeSet :=
  let removed := (scriptRestrictions.lookup name).elim ⟨[]⟩ CodeSet.ofTable
  let added := (scriptExtensions.lookup name).elim ⟨[]⟩ CodeSet.ofTable
  .union ⟨removed.ranges.foldl (fun ranges range => withoutRange range ranges)
    (script name).ranges⟩ added

/-! ## Properties -/

/-- The tables of the properties with two values. -/
def binaryProperties : List (String × List String) :=
  otherProperties ++ caseProperties ++ identifierProperties

/-- The set of a property with two values, by its full name. -/
def binaryProperty (name : String) : CodeSet :=
  (binaryProperties.lookup name).elim ⟨[]⟩ CodeSet.ofTable

/-- The full name of the property with two values behind a loose name. -/
def binaryPropertyName? (name : String) : Option String :=
  fullName? name (binaryProperties.map (·.1)) propertyAliases

/-- Loose names of properties that have other values than two. -/
def manyValuedNames : List String :=
  ["age", "bc", "bidiclass", "bidimirroringglyph", "bidipairedbracket", "bidipairedbrackettype",
    "blk", "block", "bmg", "bpb", "bpt", "canonicalcombiningclass", "casefolding", "ccc", "cf",
    "decompositionmapping", "decompositiontype", "dm", "dt", "ea", "eastasianwidth",
    "equivalentunifiedideograph", "fcnfkc", "fcnfkcclosure", "gc", "gcb", "generalcategory",
    "graphemeclusterbreak", "hangulsyllabletype", "hst", "indicpositionalcategory",
    "indicsyllabiccategory", "inpc", "insc", "isc", "isocomment", "jamoshortname", "jg",
    "joininggroup", "joiningtype", "jsn", "jt", "lb", "lc", "linebreak", "lowercasemapping", "na",
    "na1", "name", "namealias", "nfcqc", "nfcquickcheck", "nfdqc", "nfdquickcheck", "nfkccasefold",
    "nfkccf", "nfkcqc", "nfkcquickcheck", "nfkdqc", "nfkdquickcheck", "nt", "numerictype",
    "numericvalue", "nv", "sb", "sc", "scf", "script", "scriptextensions", "scx", "sentencebreak",
    "sfc", "simplecasefolding", "simplelowercasemapping", "simpletitlecasemapping",
    "simpleuppercasemapping", "slc", "stc", "suc", "tc", "titlecasemapping", "uc",
    "unicode1name", "uppercasemapping", "verticalorientation", "vo", "wb", "wordbreak"]

/-- Why a query has no answer. -/
inductive QueryError
  | unknownProperty
  | unknownValue
deriving DecidableEq

/-- Names of values that no character has: of the category of surrogates and of
the script of characters without one. -/
def emptyValues : List String := ["cs", "surrogate", "zzzz", "unknown"]

/-- The characters that a name stands for.  Properties come first, except for the
three names that are categories too; then categories, then scripts. -/
def charactersOf (name : String) : Except QueryError CodeSet :=
  let name := looseName name
  let ambiguous := ["cf", "sc", "lc"].contains name
  match (if ambiguous then none else binaryPropertyName? name) with
  | some property => .ok (binaryProperty property)
  | none =>
      if !ambiguous && manyValuedNames.contains name then .error .unknownProperty
      else match findCategory? name with
        | some set => .ok set
        | none =>
            match scriptName? name with
            | some full => .ok (script full)
            | none => .error (if emptyValues.contains name then .unknownValue else .unknownProperty)

/-- The characters that have a value of a property with many values.  Categories,
scripts and script extensions are known.  There are no tables of the ages of characters
and of the breaks between graphemes, sentences and words (`age`, `gcb`, `sb`, `wb`), so no
value of these is known. -/
def charactersWith (property value : String) : Except QueryError CodeSet :=
  let property := looseName property
  let value := looseName value
  if ["gc", "generalcategory"].contains property then
    (findCategory? value).elim (.error .unknownValue) .ok
  else if ["sc", "script"].contains property then
    (scriptName? value).elim (.error .unknownValue) fun name => .ok (script name)
  else if ["scx", "scriptextensions"].contains property then
    (scriptName? value).elim (.error .unknownValue) fun name => .ok (scriptExtension name)
  else if manyValuedNames.contains property || (binaryPropertyName? property).isSome then
    .error .unknownValue
  else .error .unknownProperty

/-! ## Classes with short names -/

/-- Decimal digits. -/
def decimalDigits : CodeSet := category "Decimal_Number"

/-- White space. -/
def whiteSpace : CodeSet := binaryProperty "White_Space"

/-- Characters of words. -/
def wordCharacters : CodeSet :=
  .unions [binaryProperty "Alphabetic", categoryOrGroup "Mark", decimalDigits,
    category "Connector_Punctuation", binaryProperty "Join_Control"]

/-! ## Case -/

/-- The code points of a case class. -/
def readClass : List Char → Nat → List Nat
  | [], number => [number]
  | '=' :: rest, number => number :: readClass rest 0
  | char :: rest, number => readClass rest (number * 16 + CodeSet.hexDigit char)

/-- The case classes as lists of code points. -/
def caseClassList : List (List Nat) :=
  caseClasses.flatMap fun line => (line.splitOn " ").map fun entry => readClass entry.toList 0

/-- The code points that are equal to a code point up to case, itself among
them. -/
def caseVariants (code : Nat) : List Nat :=
  (caseClassList.find? (·.contains code)).getD [code]

/-! ## Printing -/

/-- Whether a character is shown as it is between quotes.  Control characters,
unassigned and private ones, and spaces other than the common one are not. -/
def isPrintable (char : Char) : Bool :=
  if char.toNat < 0x7F then 0x20 ≤ char.toNat
  else
    !(["Control", "Format", "Private_Use", "Unassigned", "Line_Separator", "Paragraph_Separator",
      "Space_Separator"].any fun name => (category name).contains char.toNat)

/-- Whether a character extends the one before it. -/
def isGraphemeExtender (char : Char) : Bool :=
  0x300 ≤ char.toNat && (binaryProperty "Grapheme_Extend").contains char.toNat

end MtaCheck.Unicode
