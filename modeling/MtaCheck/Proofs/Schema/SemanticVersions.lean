import MtaCheck.Proofs.Schema.Descriptors

/-!
# Semantic versions

`IsSemanticVersion` is the grammar of semantic versions, all of whose characters are of ASCII.
The pattern of the built-in schema has `\d` in some places, which stands for the digits of all
scripts, so what it matches (`IsVersion`) is a little more: `isSemanticVersion_iff` says that
the semantic versions are the versions without a digit of another script.

`CompiledSchema.report_of_version` puts that into a descriptor in which everything but the
version is in order.
-/

namespace MtaCheck

open Check (reportUnless)
open Node (IsSequenceOf)
open Unicode (CodeSet)

/-! ## The grammar -/

/-- A numeric identifier: digits of ASCII, with no zero in front of others. -/
def IsNumericIdentifier (word : List Char) : Prop :=
  word ≠ [] ∧ (∀ char ∈ word, char.isDigit = true) ∧ (word.head? = some '0' → word = ['0'])

/-- An identifier of a prerelease: letters, digits and hyphens of ASCII, or a numeric
identifier if there are only digits. -/
def IsPrereleaseIdentifier (word : List Char) : Prop :=
  IsBuildWord word ∧ ((∀ char ∈ word, char.isDigit = true) → IsNumericIdentifier word)

/-- A semantic version: three numeric identifiers, a prerelease behind a hyphen and a build
behind a plus sign, each of which may be left out. -/
def IsSemanticVersion (text : String) : Prop :=
  ∃ major minor patch prerelease build,
    IsNumericIdentifier major ∧ IsNumericIdentifier minor ∧ IsNumericIdentifier patch ∧
      IsSuffix '-' IsPrereleaseIdentifier prerelease ∧ IsSuffix '+' IsBuildWord build ∧
        text.toList = dotted [major, minor, patch] ++ prerelease ++ build

/-! ## Digits of other scripts -/

/-- No digit is of another script than ASCII. -/
def HasAsciiDigits (chars : List Char) : Prop :=
  ∀ char ∈ chars, IsDecimalDigit char → char.isDigit = true

/-- The ranges that lines of a table spell, from the characters of the lines. -/
theorem ranges_ofTable {lines : List String} {chars : List (List Char)}
    (hlines : List.Forall₂ HasChars lines chars) :
    (CodeSet.ofTable lines).ranges = chars.flatMap fun line => CodeSet.readLine line none 0 := by
  have hlist : (lines.flatMap fun line => CodeSet.readLine line.toList none 0) =
      chars.flatMap fun line => CodeSet.readLine line none 0 := by
    induction hlines with
    | nil => rfl
    | cons hline _ ih =>
        rw [HasChars] at hline
        rw [List.flatMap_cons, List.flatMap_cons, ih, hline, String.toList_ofList]
  exact hlist

theorem exists_chars_decimalDigits :
    ∃ lines chars, Unicode.decimalDigits = .ofTable lines ∧ List.Forall₂ HasChars lines chars ∧
      (chars.flatMap fun line => CodeSet.readLine line none 0).head? = some (48, 57) ∧
        ∀ range ∈ (chars.flatMap fun line => CodeSet.readLine line none 0).tail,
          128 ≤ range.1 := by
  apply Exists.intro
  apply Exists.intro
  refine ⟨rfl, ?_⟩
  apply And.intro
  · -- the characters are those of the lines
    repeat
      apply List.Forall₂.cons
      · exact rfl
    exact .nil
  · decide +kernel

/-- The digits of ASCII come first in the table, and behind them stand those of no ASCII. -/
theorem ranges_decimalDigits :
    Unicode.decimalDigits.ranges.head? = some (48, 57) ∧
      ∀ range ∈ Unicode.decimalDigits.ranges.tail, 128 ≤ range.1 := by
  obtain ⟨lines, chars, hdigits, hlines, hranges⟩ := exists_chars_decimalDigits
  rw [hdigits, ranges_ofTable hlines]
  exact hranges

theorem contains_decimalDigits_ascii {code : Nat} (hascii : code < 128) :
    Unicode.decimalDigits.contains code = true ↔ 48 ≤ code ∧ code ≤ 57 := by
  obtain ⟨hhead, htail⟩ := ranges_decimalDigits
  rw [CodeSet.contains, ← List.cons_head?_tail hhead, List.any_cons]
  have hrest : Unicode.decimalDigits.ranges.tail.any
      (fun range => range.1 ≤ code && code ≤ range.2) = false := by
    rw [List.any_eq_false]
    intro range hrange
    have hfirst := htail range hrange
    simp only [Bool.and_eq_true, decide_eq_true_eq]
    omega
  simp [hrest]

/-- In ASCII there are no decimal digits but `0` to `9`. -/
theorem isDecimalDigit_iff_of_ascii {char : Char} (hascii : char.toNat < 128) :
    IsDecimalDigit char ↔ char.isDigit = true := by
  rw [IsDecimalDigit, contains_decimalDigits_ascii hascii, isDigit_iff_toNat]

theorem isDecimalDigit_of_isDigit {char : Char} (hdigit : char.isDigit = true) :
    IsDecimalDigit char := by
  have hrange := isDigit_iff_toNat.mp hdigit
  exact (isDecimalDigit_iff_of_ascii (by omega)).mpr hdigit

theorem toNat_of_isAlpha {char : Char} (halpha : char.isAlpha = true) :
    65 ≤ char.toNat ∧ char.toNat ≤ 90 ∨ 97 ≤ char.toNat ∧ char.toNat ≤ 122 := by
  rwa [isAlpha_iff, isUpper_iff_toNat, isLower_iff_toNat] at halpha

theorem isDigit_eq_false_of_letter {char : Char} (hletter : char.isAlpha = true ∨ char = '-') :
    char.isDigit = false := by
  rcases hletter with halpha | rfl
  · have hrange := toNat_of_isAlpha halpha
    rw [← Bool.not_eq_true, isDigit_iff_toNat]
    omega
  · rfl

theorem toNat_lt_of_word {char : Char} (hchar : char.isAlphanum = true ∨ char = '-') :
    char.toNat < 128 := by
  rcases hchar with halphanum | rfl
  · rw [Char.isAlphanum, Bool.or_eq_true, isDigit_iff_toNat] at halphanum
    rcases halphanum with halpha | hdigit
    · have hrange := toNat_of_isAlpha halpha
      omega
    · omega
  · decide

theorem hasAsciiDigits_append {first second : List Char} :
    HasAsciiDigits (first ++ second) ↔ HasAsciiDigits first ∧ HasAsciiDigits second := by
  simp only [HasAsciiDigits, List.mem_append, or_imp, forall_and]

/-- A character of ASCII is no digit of another script, so it can be left out. -/
theorem hasAsciiDigits_cons {char : Char} {chars : List Char} (hascii : char.toNat < 128) :
    HasAsciiDigits (char :: chars) ↔ HasAsciiDigits chars := by
  simp only [HasAsciiDigits, List.forall_mem_cons, isDecimalDigit_iff_of_ascii hascii, imp_self,
    true_and]

theorem hasAsciiDigits_dotted {words : List (List Char)} :
    HasAsciiDigits (dotted words) ↔ ∀ word ∈ words, HasAsciiDigits word := by
  induction words with
  | nil => simp [dotted, HasAsciiDigits]
  | cons word words ih =>
      rw [List.forall_mem_cons, ← ih]
      cases words with
      | nil => simp [dotted, HasAsciiDigits]
      | cons next rest =>
          have hdotted : dotted (word :: next :: rest) = word ++ '.' :: dotted (next :: rest) := by
            simp [dotted]
          rw [hdotted, hasAsciiDigits_append, hasAsciiDigits_cons (by decide)]

theorem hasAsciiDigits_of_isBuildWord {word : List Char} (hword : IsBuildWord word) :
    HasAsciiDigits word := by
  intro char hchar hdigit
  exact (isDecimalDigit_iff_of_ascii (toNat_lt_of_word (hword.2 char hchar))).mp hdigit

/-! ## Semantic versions among the versions -/

theorem isNumericIdentifier_iff {word : List Char} :
    IsNumericIdentifier word ↔ IsNumeral word ∧ HasAsciiDigits word := by
  constructor
  · rintro ⟨hne, hdigits, hzero⟩
    refine ⟨?_, fun char hchar _ => hdigits char hchar⟩
    obtain ⟨first, rest, rfl⟩ := List.exists_cons_of_ne_nil hne
    obtain ⟨hfirst, hrest⟩ := List.forall_mem_cons.mp hdigits
    by_cases hfirstZero : first = '0'
    · exact .inl (hzero (by rw [hfirstZero, List.head?_cons]))
    · exact .inr ⟨first, rest, rfl, hfirst, hfirstZero,
        fun char hchar => isDecimalDigit_of_isDigit (hrest char hchar)⟩
  · rintro ⟨rfl | ⟨first, rest, rfl, hfirst, hfirstZero, hrest⟩, hascii⟩
    · refine ⟨List.cons_ne_nil _ _, fun char hchar => ?_, fun _ => rfl⟩
      rw [List.mem_singleton.mp hchar]
      rfl
    · refine ⟨List.cons_ne_nil _ _, List.forall_mem_cons.mpr ⟨hfirst, fun char hchar => ?_⟩,
        fun hzero => absurd (Option.some_inj.mp hzero) hfirstZero⟩
      exact hascii char (List.mem_cons_of_mem _ hchar) (hrest char hchar)

/-- A word that is no number is split at its first character that is no digit. -/
theorem exists_first_nondigit {word : List Char}
    (hdigits : ¬∀ char ∈ word, char.isDigit = true) :
    ∃ front letter rest, word = front ++ letter :: rest ∧
      (∀ char ∈ front, char.isDigit = true) ∧ letter.isDigit = false := by
  have hsome : (word.find? fun char => !char.isDigit).isSome = true := by
    rw [List.find?_isSome]
    simpa using hdigits
  obtain ⟨letter, hfind⟩ := Option.isSome_iff_exists.mp hsome
  obtain ⟨hletter, front, rest, hsplit, hfront⟩ := List.find?_eq_some_iff_append.mp hfind
  exact ⟨front, letter, rest, hsplit, by simpa using hfront, by simpa using hletter⟩

theorem isPrereleaseIdentifier_iff {word : List Char} :
    IsPrereleaseIdentifier word ↔ IsPrereleaseWord word ∧ HasAsciiDigits word := by
  constructor
  · rintro ⟨hword, hnumeric⟩
    refine ⟨?_, hasAsciiDigits_of_isBuildWord hword⟩
    -- a word of digits is a numeral; any other one is split at its first character that is no digit
    by_cases hdigits : ∀ char ∈ word, char.isDigit = true
    · exact .inl (isNumericIdentifier_iff.mp (hnumeric hdigits)).1
    · obtain ⟨front, letter, rest, rfl, hfront, hletter⟩ := exists_first_nondigit hdigits
      refine .inr ⟨front, letter, rest, rfl, fun char hchar => ?_, ?_, fun char hchar => ?_⟩
      · exact isDecimalDigit_of_isDigit (hfront char hchar)
      · simpa [Char.isAlphanum, hletter] using hword.2 letter (by simp)
      · exact hword.2 char (by simp [hchar])
  · rintro ⟨hnumeral | ⟨digits, letter, rest, rfl, hdigits, hletter, hrest⟩, hascii⟩
    · have hnumeric := isNumericIdentifier_iff.mpr ⟨hnumeral, hascii⟩
      refine ⟨⟨hnumeric.1, fun char hchar => .inl ?_⟩, fun _ => hnumeric⟩
      simp [Char.isAlphanum, hnumeric.2.1 char hchar]
    · refine ⟨⟨by simp, fun char hchar => ?_⟩, fun hall => ?_⟩
      · rcases List.mem_append.mp hchar with hdigit | hchar
        · simp [Char.isAlphanum, hascii char (List.mem_append_left _ hdigit) (hdigits char hdigit)]
        · rcases List.mem_cons.mp hchar with rfl | hchar
          · exact hletter.imp_left fun halpha => by simp [Char.isAlphanum, halpha]
          · exact hrest char hchar
      · have hdigit := hall letter (by simp)
        rw [isDigit_eq_false_of_letter hletter] at hdigit
        cases hdigit

theorem isSuffix_iff {mark : Char} {isWord isWord' : List Char → Prop} (hmark : mark.toNat < 128)
    (hword : ∀ word, isWord word ↔ isWord' word ∧ HasAsciiDigits word) {suffix : List Char} :
    IsSuffix mark isWord suffix ↔ IsSuffix mark isWord' suffix ∧ HasAsciiDigits suffix := by
  constructor
  · rintro (rfl | ⟨words, hne, hwords, rfl⟩)
    · exact ⟨.inl rfl, by simp [HasAsciiDigits]⟩
    · rw [hasAsciiDigits_cons hmark, hasAsciiDigits_dotted]
      exact ⟨.inr ⟨words, hne, fun word hmem => ((hword word).mp (hwords word hmem)).1, rfl⟩,
        fun word hmem => ((hword word).mp (hwords word hmem)).2⟩
  · rintro ⟨rfl | ⟨words, hne, hwords, rfl⟩, hascii⟩
    · exact .inl rfl
    · rw [hasAsciiDigits_cons hmark, hasAsciiDigits_dotted] at hascii
      exact .inr ⟨words, hne,
        fun word hmem => (hword word).mpr ⟨hwords word hmem, hascii word hmem⟩, rfl⟩

/-- The semantic versions are the versions without a digit of another script. -/
theorem isSemanticVersion_iff {text : String} :
    IsSemanticVersion text ↔ IsVersion text ∧ HasAsciiDigits text.toList := by
  have hprerelease : ∀ {suffix}, IsSuffix '-' IsPrereleaseIdentifier suffix ↔
      IsSuffix '-' IsPrereleaseWord suffix ∧ HasAsciiDigits suffix :=
    isSuffix_iff (by decide) fun _ => isPrereleaseIdentifier_iff
  have hbuild : ∀ {suffix}, IsSuffix '+' IsBuildWord suffix ↔
      IsSuffix '+' IsBuildWord suffix ∧ HasAsciiDigits suffix :=
    isSuffix_iff (by decide) fun _ =>
      ⟨fun hword => ⟨hword, hasAsciiDigits_of_isBuildWord hword⟩, And.left⟩
  constructor
  · rintro ⟨major, minor, patch, prerelease, build, hmajor, hminor, hpatch, hpre, hplus, htext⟩
    rw [isNumericIdentifier_iff] at hmajor hminor hpatch
    rw [hprerelease] at hpre
    rw [hbuild] at hplus
    refine ⟨⟨major, minor, patch, prerelease, build, hmajor.1, hminor.1, hpatch.1, hpre.1,
      hplus.1, htext⟩, ?_⟩
    rw [htext, hasAsciiDigits_append, hasAsciiDigits_append, hasAsciiDigits_dotted]
    simp [hmajor.2, hminor.2, hpatch.2, hpre.2, hplus.2]
  · rintro ⟨⟨major, minor, patch, prerelease, build, hmajor, hminor, hpatch, hpre, hplus, htext⟩,
      hascii⟩
    rw [htext, hasAsciiDigits_append, hasAsciiDigits_append, hasAsciiDigits_dotted] at hascii
    simp only [List.forall_mem_cons, List.not_mem_nil, false_imp_iff, implies_true, and_true]
      at hascii
    obtain ⟨⟨⟨hmajor', hminor', hpatch'⟩, hpre'⟩, -⟩ := hascii
    exact ⟨major, minor, patch, prerelease, build, isNumericIdentifier_iff.mpr ⟨hmajor, hmajor'⟩,
      isNumericIdentifier_iff.mpr ⟨hminor, hminor'⟩, isNumericIdentifier_iff.mpr ⟨hpatch, hpatch'⟩,
      hprerelease.mpr ⟨hpre, hpre'⟩, hplus, htext⟩

/-! ## The version of a descriptor -/

/-- A deployment descriptor, whatever its version. -/
structure Node.IsDescriptorButVersion (node : Node) : Prop where
  isMap : node.isMap = true
  schemaVersion : (node.get "_schema-version").HasLiteral IsSchemaVersion
  id : (node.get "ID").HasLiteral IsName
  modules : (node.get "modules").MissingOr (IsSequenceOf IsModule)
  resources : (node.get "resources").MissingOr (IsSequenceOf IsResource)

/-- What is reported of a descriptor that may only be wrong in its version. -/
theorem Schema.issues_descriptor {document : Node} (hrest : document.IsDescriptorButVersion)
    (location : Location) :
    descriptor.issues document location =
      (matching versionRegex).issues (document.get "version") (location.child "version") := by
  have hsilent : ∀ {entry : Schema} {node : Node} {place : Location}, entry.Accepts node →
      entry.issues node place = [] := issues_eq_nil_iff.mpr
  have hschemaVersion := accepts_schemaVersion_iff.mpr hrest.schemaVersion
  have hid := accepts_name_iff.mpr hrest.id
  have hmodules := (accepts_sequence_iff_of accepts_descriptorModule_iff).mpr hrest.modules
  have hresources := (accepts_sequence_iff_of accepts_descriptorResource_iff).mpr hrest.resources
  have hmap : Demand.map.accepts document = true := Node.accepts_map_iff.mpr (.inr hrest.isMap)
  rw [descriptor, issues_map, hmap]
  simp only [List.flatMap_cons, List.flatMap_nil, hsilent hschemaVersion, hsilent hid,
    hsilent hmodules, hsilent hresources, hsilent accepts_free, reportUnless, if_true,
    List.nil_append, List.append_nil]

/-- A required scalar is only asked for its pattern. -/
theorem Schema.issues_matching_scalar (regex : Regex) (leaf : Leaf) (location : Location) :
    (matching regex).issues (.scalar leaf) location =
      reportUnless (regex.isMatch leaf.literal) location
        (.patternMismatch leaf.literal regex.source) := by
  rw [matching, issues_leaf]
  rfl

namespace CompiledSchema

theorem run_descriptor_of_version {document : Node} (hrest : document.IsDescriptorButVersion)
    {leaf : Leaf} (hversion : document.get "version" = .scalar leaf) :
    Check.run descriptor.checks document =
      reportUnless (versionRegex.isMatch leaf.literal) (Location.root.child "version")
        (.patternMismatch leaf.literal versionRegex.source) := by
  have hissues := Schema.issues_descriptor hrest .root
  rw [hversion, Schema.issues_matching_scalar] at hissues
  rw [descriptor_eq]
  exact hissues

/-- **The version of a descriptor is a semantic version, up to digits of other scripts.**  If
everything but the version is in order and the version is a scalar, then a version is accepted
in silence and anything else is reported once; and the semantic versions are those among the
versions whose digits are all of ASCII. -/
theorem report_of_version (document : Node) (hrest : document.IsDescriptorButVersion)
    (leaf : Leaf) (hversion : document.get "version" = .scalar leaf) :
    (Check.run descriptor.checks document = [] ↔ IsVersion leaf.literal) ∧
      (Check.run descriptor.checks document ≠ [] →
        Check.run descriptor.checks document =
          [.finding (Location.root.child "version")
            (.patternMismatch leaf.literal versionRegex.source)]) ∧
      (IsSemanticVersion leaf.literal ↔
        IsVersion leaf.literal ∧ HasAsciiDigits leaf.literal.toList) := by
  rw [run_descriptor_of_version hrest hversion]
  refine ⟨?_, fun hreported => ?_, isSemanticVersion_iff⟩
  · rw [Check.reportUnless_eq_nil_iff, isMatch_versionRegex_iff]
  · cases hmatch : versionRegex.isMatch leaf.literal with
    | true => simp [hmatch, reportUnless] at hreported
    | false => rfl

/-- A descriptor with the given version and nothing that may be left out. -/
def versionedDocument (version : String) : Node :=
  .ofValue (.mapping [(.text "_schema-version", .text "3.1"), (.text "ID", .text "demo"),
    (.text "version", .text version)])

theorem get_version_versionedDocument (version : String) :
    (versionedDocument version).get "version" = .scalar (.text version) := rfl

theorem isDescriptorButVersion_versionedDocument (version : String) :
    (versionedDocument version).IsDescriptorButVersion where
  isMap := rfl
  schemaVersion := ⟨.text "3.1", rfl, isMatch_schemaVersionRegex_iff.mp (by decide +kernel)⟩
  id := ⟨.text "demo", rfl, isMatch_nameRegex_iff.mp (by decide +kernel)⟩
  modules := .inl rfl
  resources := .inl rfl

/-- A version has two dots. -/
theorem report_of_two_numbers :
    (versionedDocument "1.0").IsDescriptorButVersion ∧
      (versionedDocument "1.0").get "version" = .scalar (.text "1.0") ∧
      Check.run descriptor.checks (versionedDocument "1.0") =
        [.finding (Location.root.child "version")
          (.patternMismatch "1.0" versionRegex.source)] ∧
      ¬IsSemanticVersion "1.0" := by
  have hrest := isDescriptorButVersion_versionedDocument "1.0"
  have hversion := get_version_versionedDocument "1.0"
  obtain ⟨haccepted, hreport, hsemantic⟩ :=
    report_of_version (versionedDocument "1.0") hrest (.text "1.0") hversion
  have hnone : ¬IsVersion "1.0" := by
    rintro ⟨major, minor, patch, prerelease, build, -, -, -, -, -, htext⟩
    have hdots := congrArg (List.count '.') htext
    have hone : List.count '.' "1.0".toList = 1 := by decide
    simp only [hone, dotted, List.intercalate, List.intersperse, List.flatten_cons,
      List.flatten_nil, List.count_append, List.count_singleton_self, List.append_nil] at hdots
    omega
  exact ⟨hrest, hversion, hreport fun hsilent => hnone (haccepted.mp hsilent),
    fun hsemver => hnone (hsemantic.mp hsemver).1⟩

/-- The built-in schema accepts a version with an Arabic digit in it, which is no semantic
version. -/
theorem accepts_arabic_digit :
    (versionedDocument "1\u0661.0.0").IsDescriptorButVersion ∧
      Check.run descriptor.checks (versionedDocument "1\u0661.0.0") = [] ∧
      ¬IsSemanticVersion "1\u0661.0.0" := by
  have hrest := isDescriptorButVersion_versionedDocument "1\u0661.0.0"
  have hdigit : IsDecimalDigit '\u0661' := by
    rw [IsDecimalDigit]
    decide +kernel
  refine ⟨hrest, ?_, fun hsemver => ?_⟩
  · rw [run_descriptor_of_version hrest (get_version_versionedDocument _),
      Check.reportUnless_eq_nil_iff, isMatch_versionRegex_iff]
    refine ⟨['1', '\u0661'], ['0'], ['0'], [], [], .inr ⟨'1', ['\u0661'], rfl, ?_⟩, .inl rfl,
      .inl rfl, .inl rfl, .inl rfl, by decide⟩
    exact ⟨by decide, by decide, by simpa using hdigit⟩
  · have hascii := (isSemanticVersion_iff.mp hsemver).2 '\u0661' (by decide) hdigit
    revert hascii
    decide

end CompiledSchema

end MtaCheck
