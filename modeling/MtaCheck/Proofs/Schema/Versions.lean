import MtaCheck.Proofs.Regex.Language
import MtaCheck.Regex

/-!
# Names and versions

The schema of deployment descriptors asks for three kinds of texts by patterns: names
(`IsName`), versions of the schema (`IsSchemaVersion`) and versions of an application
(`IsVersion`).  Here they are described without patterns, and `isMatch_nameRegex_iff`,
`isMatch_schemaVersionRegex_iff` and `isMatch_versionRegex_iff` say that the patterns match
just these texts.

The digits of a version are those of ASCII where the pattern has `[0-9]`, and of all scripts
where it has `\d`; the two are not the same.
-/

namespace MtaCheck

open Regex (CharSet Pattern)
open Regex.Pattern (concat choice anchored)

/-! ## The texts -/

/-- Words with a dot between them. -/
def dotted (words : List (List Char)) : List Char := ['.'].intercalate words

/-- A name: characters of ASCII that are letters, digits, `_`, `-` or `.`. -/
def IsName (text : String) : Prop :=
  text.toList ≠ [] ∧
    ∀ char ∈ text.toList, char.isAlphanum = true ∨ char = '_' ∨ char = '-' ∨ char = '.'

/-- A version of the schema: one to three groups of digits with dots between them. -/
def IsSchemaVersion (text : String) : Prop :=
  ∃ groups : List (List Char), groups ≠ [] ∧ groups.length ≤ 3 ∧
    (∀ group ∈ groups, group ≠ [] ∧ ∀ char ∈ group, char.isDigit = true) ∧
      text.toList = dotted groups

/-- A decimal digit of any script. -/
def IsDecimalDigit (char : Char) : Prop := Unicode.decimalDigits.contains char.toNat = true

/-- A number without needless zeros in front. -/
def IsNumeral (word : List Char) : Prop :=
  word = ['0'] ∨ ∃ first rest, word = first :: rest ∧ first.isDigit = true ∧ first ≠ '0' ∧
    ∀ char ∈ rest, IsDecimalDigit char

/-- A word of what may follow the hyphen of a version: a number, or something with a letter
or a hyphen in it and nothing but digits before that. -/
def IsPrereleaseWord (word : List Char) : Prop :=
  IsNumeral word ∨ ∃ digits letter rest, word = digits ++ letter :: rest ∧
    (∀ char ∈ digits, IsDecimalDigit char) ∧ (letter.isAlpha = true ∨ letter = '-') ∧
      ∀ char ∈ rest, char.isAlphanum = true ∨ char = '-'

/-- A word of what may follow the plus sign of a version. -/
def IsBuildWord (word : List Char) : Prop :=
  word ≠ [] ∧ ∀ char ∈ word, char.isAlphanum = true ∨ char = '-'

/-- What stands behind a mark: nothing, not even the mark, or words with dots between
them. -/
def IsSuffix (mark : Char) (isWord : List Char → Prop) (suffix : List Char) : Prop :=
  suffix = [] ∨ ∃ words, words ≠ [] ∧ (∀ word ∈ words, isWord word) ∧
    suffix = mark :: dotted words

/-- A version: three numbers with dots between them, then what follows a hyphen and what
follows a plus sign, each of which may be left out. -/
def IsVersion (text : String) : Prop :=
  ∃ major minor patch prerelease build,
    IsNumeral major ∧ IsNumeral minor ∧ IsNumeral patch ∧
      IsSuffix '-' IsPrereleaseWord prerelease ∧ IsSuffix '+' IsBuildWord build ∧
        text.toList = dotted [major, minor, patch] ++ prerelease ++ build

/-! ## The sets of their patterns -/

section Sets

variable {char : Char}

/-- The capital letters of ASCII. -/
def upperSet : CharSet := .ofRanges [(0x41, 0x5A)]

/-- The small letters of ASCII. -/
def lowerSet : CharSet := .ofRanges [(0x61, 0x7A)]

/-- The digits of ASCII. -/
def digitSet : CharSet := .ofRanges [(0x30, 0x39)]

theorem isUpper_iff_toNat : char.isUpper = true ↔ 0x41 ≤ char.toNat ∧ char.toNat ≤ 0x5A := by
  have hrange : char.isUpper = decide (char.val ≥ 'A'.val ∧ char.val ≤ 'Z'.val) := rfl
  simp [hrange, UInt32.le_iff_toNat_le]

theorem isLower_iff_toNat : char.isLower = true ↔ 0x61 ≤ char.toNat ∧ char.toNat ≤ 0x7A := by
  have hrange : char.isLower = (decide (char.val ≥ 'a'.val) && decide (char.val ≤ 'z'.val)) := rfl
  simp [hrange, UInt32.le_iff_toNat_le]

theorem isDigit_iff_toNat : char.isDigit = true ↔ 0x30 ≤ char.toNat ∧ char.toNat ≤ 0x39 := by
  simp [Char.isDigit, UInt32.le_iff_toNat_le]

theorem isAlpha_iff : char.isAlpha = true ↔ char.isUpper = true ∨ char.isLower = true := by
  have hcases : char.isAlpha = (char.isUpper || char.isLower) := rfl
  rw [hcases, Bool.or_eq_true]

theorem contains_upperSet : upperSet.contains char.toNat = true ↔ char.isUpper = true := by
  rw [upperSet, CharSet.contains_range, isUpper_iff_toNat]

theorem contains_lowerSet : lowerSet.contains char.toNat = true ↔ char.isLower = true := by
  rw [lowerSet, CharSet.contains_range, isLower_iff_toNat]

theorem contains_digitSet : digitSet.contains char.toNat = true ↔ char.isDigit = true := by
  rw [digitSet, CharSet.contains_range, isDigit_iff_toNat]

theorem contains_positive :
    (CharSet.ofRanges [(0x31, 0x39)]).contains char.toNat = true ↔
      char.isDigit = true ∧ char ≠ '0' := by
  rw [CharSet.contains_range, ← contains_digitSet, digitSet, CharSet.contains_range, ne_eq,
    ← Char.toNat_inj]
  have hzero : '0'.toNat = 0x30 := rfl
  omega

/-- The characters of names. -/
def nameSet : CharSet :=
  .unions [upperSet, lowerSet, digitSet, .singleton '_', .singleton '-', .singleton '.']

/-- The letters of ASCII and the hyphen. -/
def letterSet : CharSet := .unions [lowerSet, upperSet, .singleton '-']

/-- The letters and digits of ASCII and the hyphen. -/
def wordSet : CharSet := .unions [digitSet, lowerSet, upperSet, .singleton '-']

theorem contains_nameSet :
    nameSet.contains char.toNat = true ↔
      char.isAlphanum = true ∨ char = '_' ∨ char = '-' ∨ char = '.' := by
  rw [nameSet, CharSet.contains_unions]
  simp [contains_upperSet, contains_lowerSet, contains_digitSet, CharSet.contains_singleton,
    Char.isAlphanum, isAlpha_iff, or_assoc]

theorem contains_letterSet :
    letterSet.contains char.toNat = true ↔ char.isAlpha = true ∨ char = '-' := by
  rw [letterSet, CharSet.contains_unions]
  simp [contains_upperSet, contains_lowerSet, CharSet.contains_singleton, isAlpha_iff,
    or_left_comm, or_assoc]

theorem contains_wordSet :
    wordSet.contains char.toNat = true ↔ char.isAlphanum = true ∨ char = '-' := by
  rw [wordSet, CharSet.contains_unions]
  simp [contains_upperSet, contains_lowerSet, contains_digitSet, CharSet.contains_singleton,
    Char.isAlphanum, isAlpha_iff, or_comm, or_assoc]

end Sets

/-! ## The patterns -/

/-- The pattern of names. -/
def nameRegex : Regex where
  source := "^[A-Za-z0-9_\\-\\.]+$"
  pattern := anchored [.repeated (.chars nameSet) 1 none]

/-- A group of digits. -/
def digitsPattern : Pattern := .repeated (.chars digitSet) 1 none

/-- The pattern of versions of the schema. -/
def schemaVersionRegex : Regex where
  source := "^[0-9]+(\\.[0-9]+)\x7b0,2\x7d$"
  pattern := anchored [digitsPattern,
    .repeated (concat [.chars (.singleton '.'), digitsPattern]) 0 (some 2)]

/-- Decimal digits of all scripts. -/
def anyDigitsPattern : Pattern := .repeated (.chars (.codes Unicode.decimalDigits)) 0 none

/-- A number that begins with another digit than zero. -/
def positivePattern : Pattern := concat [.chars (.ofRanges [(0x31, 0x39)]), anyDigitsPattern]

/-- A number. -/
def numeralPattern : Pattern := choice [.chars (.singleton '0'), positivePattern]

/-- A word behind the hyphen. -/
def prereleasePattern : Pattern :=
  choice [.chars (.singleton '0'), positivePattern,
    concat [anyDigitsPattern, .chars letterSet, .repeated (.chars wordSet) 0 none]]

/-- A word behind the plus sign. -/
def buildPattern : Pattern := .repeated (.chars wordSet) 1 none

/-- What may follow behind a mark. -/
def suffixPattern (mark : Char) (word : Pattern) : Pattern :=
  .repeated (concat [.chars (.singleton mark), word,
    .repeated (concat [.chars (.singleton '.'), word]) 0 none]) 0 (some 1)

/-- The pattern of versions. -/
def versionRegex : Regex where
  source := "^(0|[1-9]\\d*)\\.(0|[1-9]\\d*)\\.(0|[1-9]\\d*)(-(0|[1-9]\\d*|\\d*[a-zA-Z-][0-9a-zA-Z-]*)(\\.(0|[1-9]\\d*|\\d*[a-zA-Z-][0-9a-zA-Z-]*))*)?(\\+[0-9a-zA-Z-]+(\\.[0-9a-zA-Z-]+)*)?$"
  pattern := anchored [numeralPattern, .chars (.singleton '.'), numeralPattern,
    .chars (.singleton '.'), numeralPattern, suffixPattern '-' prereleasePattern,
    suffixPattern '+' buildPattern]

/-! ## What they match -/

/-- **The pattern of names matches the names.** -/
theorem isMatch_nameRegex_iff {text : String} : nameRegex.isMatch text = true ↔ IsName text := by
  have hplain : ∀ part ∈ [Pattern.repeated (.chars nameSet) 1 none], part.IsPlain := by
    simp [Pattern.IsPlain]
  rw [Regex.isMatch, nameRegex, Pattern.isMatch_anchored_iff hplain, List.map_singleton,
    List.prod_singleton, Pattern.mem_language_chars_repeated, IsName,
    Nat.succ_le_iff, List.length_pos_iff]
  simp only [contains_nameSet]

theorem mem_digitsPattern {word : List Char} :
    word ∈ digitsPattern.language ↔ word ≠ [] ∧ ∀ char ∈ word, char.isDigit = true := by
  rw [digitsPattern, Pattern.mem_language_chars_repeated, Nat.succ_le_iff, List.length_pos_iff]
  simp only [contains_digitSet]

/-- **The pattern of versions of the schema matches just these.** -/
theorem isMatch_schemaVersionRegex_iff {text : String} :
    schemaVersionRegex.isMatch text = true ↔ IsSchemaVersion text := by
  have hplain : ∀ part ∈ [digitsPattern,
      .repeated (concat [.chars (.singleton '.'), digitsPattern]) 0 (some 2)], part.IsPlain := by
    simp [Pattern.IsPlain, digitsPattern, concat]
  rw [Regex.isMatch, schemaVersionRegex, Pattern.isMatch_anchored_iff hplain, List.map_cons,
    List.map_singleton, List.prod_cons, List.prod_singleton, Pattern.mem_language_separated]
  simp only [mem_digitsPattern, Option.mem_some, forall_eq', IsSchemaVersion, dotted]

theorem mem_anyDigitsPattern {word : List Char} :
    word ∈ anyDigitsPattern.language ↔ ∀ char ∈ word, IsDecimalDigit char := by
  rw [anyDigitsPattern, Pattern.mem_language_chars_repeated]
  simp [IsDecimalDigit, CharSet.contains]

theorem mem_numeralPattern {word : List Char} :
    word ∈ numeralPattern.language ↔ IsNumeral word := by
  have hpositive : word ∈ positivePattern.language ↔
      ∃ first rest, word = first :: rest ∧ first.isDigit = true ∧ first ≠ '0' ∧
        ∀ char ∈ rest, IsDecimalDigit char := by
    constructor
    · rintro ⟨_, ⟨first, hfirst, rfl⟩, rest, hrest, rfl⟩
      obtain ⟨hdigit, hzero⟩ := contains_positive.mp hfirst
      exact ⟨first, rest, rfl, hdigit, hzero, mem_anyDigitsPattern.mp hrest⟩
    · rintro ⟨first, rest, rfl, hdigit, hzero, hrest⟩
      exact Language.append_mem_mul (a := [first])
        ⟨first, contains_positive.mpr ⟨hdigit, hzero⟩, rfl⟩ (mem_anyDigitsPattern.mpr hrest)
  rw [IsNumeral, ← hpositive, ← Pattern.mem_language_separator]
  rfl

theorem mem_prereleasePattern {word : List Char} :
    word ∈ prereleasePattern.language ↔ IsPrereleaseWord word := by
  have hletters : word ∈ (concat [anyDigitsPattern, .chars letterSet,
      .repeated (.chars wordSet) 0 none]).language ↔
        ∃ digits letter rest, word = digits ++ letter :: rest ∧
          (∀ char ∈ digits, IsDecimalDigit char) ∧ (letter.isAlpha = true ∨ letter = '-') ∧
            ∀ char ∈ rest, char.isAlphanum = true ∨ char = '-' := by
    constructor
    · rintro ⟨digits, hdigits, _, ⟨_, ⟨letter, hletter, rfl⟩, rest, hrest, rfl⟩, rfl⟩
      obtain ⟨-, hall⟩ := Pattern.mem_language_chars_repeated.mp hrest
      exact ⟨digits, letter, rest, rfl, mem_anyDigitsPattern.mp hdigits,
        contains_letterSet.mp hletter, fun char hchar => contains_wordSet.mp (hall char hchar)⟩
    · rintro ⟨digits, letter, rest, rfl, hdigits, hletter, hrest⟩
      exact Language.append_mem_mul (mem_anyDigitsPattern.mpr hdigits)
        (Language.append_mem_mul (a := [letter]) ⟨letter, contains_letterSet.mpr hletter, rfl⟩
          (Pattern.mem_language_chars_repeated.mpr
            ⟨Nat.zero_le _, fun char hchar => contains_wordSet.mpr (hrest char hchar)⟩))
  rw [IsPrereleaseWord, ← hletters, ← mem_numeralPattern]
  exact or_assoc.symm

theorem mem_buildPattern {word : List Char} :
    word ∈ buildPattern.language ↔ IsBuildWord word := by
  rw [buildPattern, Pattern.mem_language_chars_repeated, Nat.succ_le_iff, List.length_pos_iff]
  simp only [contains_wordSet, IsBuildWord]

theorem mem_suffixPattern {mark : Char} {word : Pattern} {isWord : List Char → Prop}
    (hword : ∀ {characters}, characters ∈ word.language ↔ isWord characters)
    {suffix : List Char} :
    suffix ∈ (suffixPattern mark word).language ↔ IsSuffix mark isWord suffix := by
  have hrow : suffix ∈ (concat [.chars (.singleton mark), word,
      .repeated (concat [.chars (.singleton '.'), word]) 0 none]).language ↔
        ∃ words, words ≠ [] ∧ (∀ word ∈ words, isWord word) ∧ suffix = mark :: dotted words := by
    constructor
    · rintro ⟨front, hfront, row, hrow, rfl⟩
      obtain ⟨words, hne, -, hwords, rfl⟩ := Pattern.mem_language_separated.mp hrow
      rw [Pattern.mem_language_separator.mp hfront]
      exact ⟨words, hne, fun word hmem => hword.mp (hwords word hmem), rfl⟩
    · rintro ⟨words, hne, hwords, rfl⟩
      exact Language.append_mem_mul (Pattern.mem_language_separator.mpr rfl)
        (Pattern.mem_language_separated.mpr
          ⟨words, hne, by simp, fun word hmem => hword.mpr (hwords word hmem), rfl⟩)
  rw [suffixPattern, Pattern.mem_language_optional, hrow, IsSuffix]

/-- **The pattern of versions matches the versions.** -/
theorem isMatch_versionRegex_iff {text : String} :
    versionRegex.isMatch text = true ↔ IsVersion text := by
  have hplain : ∀ part ∈ [numeralPattern, .chars (.singleton '.'), numeralPattern,
      .chars (.singleton '.'), numeralPattern, suffixPattern '-' prereleasePattern,
      suffixPattern '+' buildPattern], part.IsPlain := by
    simp [Pattern.IsPlain, numeralPattern, positivePattern, anyDigitsPattern, suffixPattern,
      prereleasePattern, buildPattern, concat, choice]
  -- an anchored pattern matches a text just if the text is in the product of the languages
  rw [Regex.isMatch, versionRegex, Pattern.isMatch_anchored_iff hplain]
  simp only [List.map_cons, List.map_nil, List.prod_cons, List.prod_nil, mul_one]
  constructor
  · rintro ⟨major, hmajor, _, ⟨dot, hdot, _, ⟨minor, hminor, _, ⟨dot', hdot', _,
      ⟨patch, hpatch, _, ⟨prerelease, hprerelease, build, hbuild, rfl⟩, rfl⟩, rfl⟩, rfl⟩, rfl⟩,
      htext⟩
    rw [Pattern.mem_language_separator.mp hdot, Pattern.mem_language_separator.mp hdot'] at htext
    refine ⟨major, minor, patch, prerelease, build, mem_numeralPattern.mp hmajor,
      mem_numeralPattern.mp hminor, mem_numeralPattern.mp hpatch,
      (mem_suffixPattern mem_prereleasePattern).mp hprerelease,
      (mem_suffixPattern mem_buildPattern).mp hbuild, ?_⟩
    simpa [dotted] using htext.symm
  · rintro ⟨major, minor, patch, prerelease, build, hmajor, hminor, hpatch, hprerelease, hbuild,
      htext⟩
    have hparts : text.toList =
        major ++ (['.'] ++ (minor ++ (['.'] ++ (patch ++ (prerelease ++ build))))) := by
      simpa [dotted] using htext
    have hdot : ['.'] ∈ (Pattern.chars (.singleton '.')).language :=
      Pattern.mem_language_separator.mpr rfl
    rw [hparts]
    exact Language.append_mem_mul (mem_numeralPattern.mpr hmajor) <|
      Language.append_mem_mul hdot <|
      Language.append_mem_mul (mem_numeralPattern.mpr hminor) <|
      Language.append_mem_mul hdot <|
      Language.append_mem_mul (mem_numeralPattern.mpr hpatch) <|
      Language.append_mem_mul ((mem_suffixPattern mem_prereleasePattern).mpr hprerelease)
        ((mem_suffixPattern mem_buildPattern).mpr hbuild)

end MtaCheck
