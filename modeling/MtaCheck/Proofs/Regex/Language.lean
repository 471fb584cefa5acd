import Mathlib.Computability.Language
import MtaCheck.Proofs.Regex.Matching

/-!
# The language of a pattern

A pattern without assertions leads across a stretch of the text just if that stretch is a
word of its language, wherever it stands (`leads_iff_mem_language`).  So a pattern between
`^` and `$` matches the words of its language and no other text: `isMatch_anchored_iff`.

The languages of the forms that occur most are given by lemmas of their own: characters of
a set (`mem_language_chars_repeated`), a pattern that may be left out
(`mem_language_optional`), and words with a separator between them
(`mem_language_separated`).
-/

namespace MtaCheck.Regex

open Computability

namespace Pattern

/-! ## Languages -/

/-- Whether there is no assertion in a pattern. -/
def IsPlain : Pattern → Prop
  | .empty | .chars _ => True
  | .look _ => False
  | .both first second | .either first second => first.IsPlain ∧ second.IsPlain
  | .repeated inner _ _ => inner.IsPlain

/-- The words that a pattern spells, if it has no assertions. -/
def language : Pattern → Language Char
  | .empty | .look _ => 1
  | .chars set => {word | ∃ char, set.contains char.toNat = true ∧ word = [char]}
  | .both first second => first.language * second.language
  | .either first second => first.language + second.language
  | .repeated inner least most =>
      {word | ∃ extra, (∀ bound ∈ most, extra ≤ bound - least) ∧
        word ∈ inner.language ^ (least + extra)}

/-! ## Words between two places -/

variable {text : List Char}

/-- A word stands between two places of a text. -/
def Between (text : List Char) (start stop : Nat) (word : List Char) : Prop :=
  start ≤ stop ∧ stop ≤ text.length ∧ text.drop start = word ++ text.drop stop

theorem between_nil_iff {start stop : Nat} (hstart : start ≤ text.length) :
    Between text start stop [] ↔ start = stop := by
  constructor
  · rintro ⟨hle, hstop, hdrop⟩
    have hlength := congrArg List.length hdrop
    simp only [List.nil_append, List.length_drop] at hlength
    omega
  · rintro rfl
    exact ⟨Nat.le_refl _, hstart, rfl⟩

theorem between_append_iff {start stop : Nat} {first second : List Char} :
    Between text start stop (first ++ second) ↔
      ∃ middle, Between text start middle first ∧ Between text middle stop second := by
  constructor
  · rintro ⟨hle, hstop, hdrop⟩
    have hlength := congrArg List.length hdrop
    simp only [List.length_drop, List.length_append] at hlength
    refine ⟨start + first.length, ⟨by omega, by omega, ?_⟩, by omega, hstop, ?_⟩
    all_goals
      rw [← List.drop_drop, hdrop, List.append_assoc, List.drop_left']
      rfl
  · rintro ⟨middle, ⟨hfirst, -, hdropFirst⟩, hsecond, hstop, hdropSecond⟩
    refine ⟨Nat.le_trans hfirst hsecond, hstop, ?_⟩
    rw [hdropFirst, hdropSecond, List.append_assoc]

theorem between_singleton_iff {start stop : Nat} {char : Char} :
    Between text start stop [char] ↔ text[start]? = some char ∧ start + 1 = stop := by
  constructor
  · rintro ⟨hle, hstop, hdrop⟩
    have hlength := congrArg List.length hdrop
    simp only [List.length_drop, List.length_append, List.length_singleton] at hlength
    have hhead := congrArg List.head? hdrop
    rw [List.head?_drop] at hhead
    exact ⟨hhead, by omega⟩
  · rintro ⟨hchar, rfl⟩
    obtain ⟨hstart, rfl⟩ := List.getElem?_eq_some_iff.mp hchar
    exact ⟨Nat.le_succ _, hstart, List.drop_eq_getElem_cons hstart⟩

theorem between_all_iff {word : List Char} : Between text 0 text.length word ↔ word = text := by
  rw [Between, List.drop_zero, List.drop_length, List.append_nil, eq_comm (a := text)]
  exact ⟨fun hbetween => hbetween.2.2, fun hword => ⟨Nat.zero_le _, Nat.le_refl _, hword⟩⟩

/-! ## Patterns lead across their words -/

/-- A product of languages leads where its factors lead one after the other. -/
theorem exists_mem_mul_iff {first second : Language Char} {start stop : Nat} :
    (∃ word ∈ first * second, Between text start stop word) ↔
      ∃ middle, (∃ word ∈ first, Between text start middle word) ∧
        ∃ word ∈ second, Between text middle stop word := by
  constructor
  · rintro ⟨_, ⟨front, hfront, back, hback, rfl⟩, hbetween⟩
    obtain ⟨middle, hfirst, hsecond⟩ := between_append_iff.mp hbetween
    exact ⟨middle, ⟨front, hfront, hfirst⟩, back, hback, hsecond⟩
  · rintro ⟨middle, ⟨front, hfront, hfirst⟩, back, hback, hsecond⟩
    exact ⟨front ++ back, Language.append_mem_mul hfront hback,
      between_append_iff.mpr ⟨middle, hfirst, hsecond⟩⟩

theorem walks_iff_mem_pow {leads : Nat → Nat → Prop} {words : Language Char}
    (hleads : ∀ {start stop}, start ≤ text.length →
      (leads start stop ↔ ∃ word ∈ words, Between text start stop word))
    (count : Nat) {start stop : Nat} (hstart : start ≤ text.length) :
    Walks leads count start stop ↔ ∃ word ∈ words ^ count, Between text start stop word := by
  induction count generalizing start with
  | zero => simp [Walks, Language.mem_one, between_nil_iff hstart]
  | succ count ih =>
      rw [pow_succ', exists_mem_mul_iff, Walks]
      refine exists_congr fun middle => ?_
      rw [hleads hstart]
      refine and_congr_right fun hfirst => ih ?_
      obtain ⟨word, -, hbetween⟩ := hfirst
      exact hbetween.2.1

/-- **A pattern without assertions leads across the words of its language.** -/
theorem leads_iff_mem_language (pattern : Pattern) (hplain : pattern.IsPlain) {start stop : Nat}
    (hstart : start ≤ text.length) :
    pattern.Leads text start stop ↔ ∃ word ∈ pattern.language, Between text start stop word := by
  -- the second part of a pattern begins where the first one ends, so both places are general
  induction pattern generalizing start stop with
  | empty => simp [Leads, language, Language.mem_one, between_nil_iff hstart]
  | chars set =>
      constructor
      · rintro ⟨⟨char, hchar, hset⟩, hstop⟩
        exact ⟨[char], ⟨char, hset, rfl⟩, between_singleton_iff.mpr ⟨hchar, hstop⟩⟩
      · rintro ⟨_, ⟨char, hset, rfl⟩, hbetween⟩
        obtain ⟨hchar, hstop⟩ := between_singleton_iff.mp hbetween
        exact ⟨⟨char, hchar, hset⟩, hstop⟩
  | look assertion => exact hplain.elim
  | both first second ihFirst ihSecond =>
      rw [language, exists_mem_mul_iff, Leads]
      refine exists_congr fun middle => ?_
      rw [ihFirst hplain.1 hstart]
      refine and_congr_right fun hfirst => ihSecond hplain.2 ?_
      obtain ⟨word, -, hbetween⟩ := hfirst
      exact hbetween.2.1
  | either first second ihFirst ihSecond =>
      rw [Leads, ihFirst hplain.1 hstart, ihSecond hplain.2 hstart, ← exists_or]
      refine exists_congr fun word => ?_
      rw [language, Language.mem_add, or_and_right]
  | repeated inner least most ih =>
      rw [Leads]
      have hwalks : ∀ extra, Walks (inner.Leads text) (least + extra) start stop ↔
          ∃ word ∈ inner.language ^ (least + extra), Between text start stop word :=
        fun extra => walks_iff_mem_pow (fun hstart => ih hplain hstart) (least + extra) hstart
      simp only [hwalks, language]
      constructor
      · rintro ⟨extra, hextra, word, hword, hbetween⟩
        exact ⟨word, ⟨extra, hextra, hword⟩, hbetween⟩
      · rintro ⟨word, ⟨extra, hextra, hword⟩, hbetween⟩
        exact ⟨extra, hextra, word, hword, hbetween⟩

/-! ## Patterns for a whole text -/

theorem leads_concat_cons (pattern : Pattern) (patterns : List Pattern) (start stop : Nat) :
    (concat (pattern :: patterns)).Leads text start stop ↔
      ∃ middle, pattern.Leads text start middle ∧ (concat patterns).Leads text middle stop := by
  cases patterns with
  | nil => simp [concat, Leads]
  | cons next rest => rfl

/-- A row of patterns from `^` to `$`. -/
def anchored (parts : List Pattern) : Pattern :=
  concat (.look .textStart :: (parts ++ [.look .textEnd]))

theorem leads_to_end_iff {parts : List Pattern} (hplain : ∀ part ∈ parts, part.IsPlain)
    {start stop : Nat} (hstart : start ≤ text.length) :
    (concat (parts ++ [.look .textEnd])).Leads text start stop ↔
      stop = text.length ∧ ∃ word ∈ (parts.map language).prod, Between text start stop word := by
  induction parts generalizing start with
  | nil =>
      simp only [List.nil_append, concat, Leads, Look.holds, Option.isNone_iff_eq_none,
        List.getElem?_eq_none_iff, List.map_nil, List.prod_nil, Language.mem_one,
        exists_eq_left, between_nil_iff hstart]
      omega
  | cons part parts ih =>
      rw [List.forall_mem_cons] at hplain
      rw [List.cons_append, leads_concat_cons, List.map_cons, List.prod_cons, exists_mem_mul_iff,
        ← exists_and_left]
      refine exists_congr fun middle => ?_
      rw [leads_iff_mem_language part hplain.1 hstart, and_left_comm]
      refine and_congr_right fun hfirst => ih hplain.2 ?_
      obtain ⟨word, -, hbetween⟩ := hfirst
      exact hbetween.2.1

/-- **A row of patterns from `^` to `$` matches the words of its language.** -/
theorem isMatch_anchored_iff {parts : List Pattern} (hplain : ∀ part ∈ parts, part.IsPlain)
    (text : List Char) :
    (anchored parts).isMatch text = true ↔ text ∈ (parts.map language).prod := by
  rw [isMatch_iff]
  simp only [anchored, leads_concat_cons]
  constructor
  · rintro ⟨start, stop, hstart, middle, ⟨hholds, rfl⟩, hrest⟩
    obtain ⟨rfl, word, hword, hbetween⟩ := (leads_to_end_iff hplain hstart).mp hrest
    have hzero : start = 0 := by
      by_contra hne
      have hbefore : (charBefore text start).isNone = true := hholds
      rw [charBefore, if_neg hne, Option.isNone_iff_eq_none, List.getElem?_eq_none_iff] at hbefore
      omega
    subst hzero
    exact between_all_iff.mp hbetween ▸ hword
  · intro htext
    have hstart : 0 ≤ text.length := Nat.zero_le _
    exact ⟨0, text.length, hstart, 0, ⟨rfl, rfl⟩, (leads_to_end_iff hplain hstart).mpr
      ⟨rfl, text, htext, between_all_iff.mpr rfl⟩⟩

end Pattern

/-! ## Sets of characters -/

namespace CharSet

theorem contains_unions {sets : List CharSet} {code : Nat} :
    (unions sets).contains code = true ↔ ∃ set ∈ sets, set.contains code = true := by
  fun_induction unions sets with
  | case1 => simp [CharSet.none, contains, Unicode.CodeSet.contains]
  | case2 set => simp
  | case3 set sets hsets ih => simp [contains, ih]

theorem contains_singleton {char other : Char} :
    (singleton char).contains other.toNat = true ↔ other = char := by
  have hsame : char.toNat ≤ other.toNat ∧ other.toNat ≤ char.toNat ↔ other = char := by
    rw [← Char.toNat_inj]
    omega
  simpa [singleton, ofRanges, contains, Unicode.CodeSet.contains] using hsame

theorem contains_range {first last : Nat} {code : Nat} :
    (ofRanges [(first, last)]).contains code = true ↔ first ≤ code ∧ code ≤ last := by
  simp [ofRanges, contains, Unicode.CodeSet.contains]

end CharSet

namespace Pattern

/-! ## Languages of common forms -/

@[simp] theorem mem_language_chars {set : CharSet} {word : List Char} :
    word ∈ (chars set).language ↔ ∃ char, set.contains char.toNat = true ∧ word = [char] :=
  Iff.rfl

theorem mem_pow_chars_iff {set : CharSet} {count : Nat} {word : List Char} :
    word ∈ (chars set).language ^ count ↔
      word.length = count ∧ ∀ char ∈ word, set.contains char.toNat = true := by
  induction count generalizing word with
  | zero =>
      rw [pow_zero, Language.mem_one, List.length_eq_zero_iff]
      constructor
      · rintro rfl
        simp
      · exact fun hword => hword.1
  | succ count ih =>
      rw [pow_succ']
      constructor
      · rintro ⟨_, ⟨char, hchar, rfl⟩, rest, hrest, rfl⟩
        obtain ⟨hlength, hall⟩ := ih.mp hrest
        exact ⟨by simp [hlength], List.forall_mem_cons.mpr ⟨hchar, hall⟩⟩
      · rintro ⟨hlength, hall⟩
        cases word with
        | nil => cases hlength
        | cons char rest =>
            rw [List.forall_mem_cons] at hall
            rw [List.length_cons, Nat.succ_inj] at hlength
            exact Language.append_mem_mul (a := [char]) ⟨char, hall.1, rfl⟩
              (ih.mpr ⟨hlength, hall.2⟩)

/-- Characters of a set, as many of them as there are, but no fewer than `least`. -/
theorem mem_language_chars_repeated {set : CharSet} {least : Nat} {word : List Char} :
    word ∈ (repeated (chars set) least none).language ↔
      least ≤ word.length ∧ ∀ char ∈ word, set.contains char.toNat = true := by
  constructor
  · rintro ⟨extra, -, hword⟩
    obtain ⟨hlength, hall⟩ := mem_pow_chars_iff.mp hword
    exact ⟨by omega, hall⟩
  · rintro ⟨hlength, hall⟩
    exact ⟨word.length - least, by simp, mem_pow_chars_iff.mpr ⟨by omega, hall⟩⟩

/-- Words of a pattern one behind the other, up to the bound if there is one. -/
theorem mem_language_repeated {inner : Pattern} {most : Option Nat} {word : List Char} :
    word ∈ (repeated inner 0 most).language ↔
      ∃ parts : List (List Char), word = parts.flatten ∧
        (∀ bound ∈ most, parts.length ≤ bound) ∧ ∀ part ∈ parts, part ∈ inner.language := by
  constructor
  · rintro ⟨extra, hextra, hword⟩
    obtain ⟨parts, rfl, hlength, hparts⟩ := Language.mem_pow.mp hword
    refine ⟨parts, rfl, fun bound hbound => ?_, hparts⟩
    have hle := hextra bound hbound
    omega
  · rintro ⟨parts, rfl, hlength, hparts⟩
    exact ⟨parts.length, hlength, Language.mem_pow.mpr ⟨parts, rfl, (Nat.zero_add _).symm, hparts⟩⟩

theorem mem_language_optional {inner : Pattern} {word : List Char} :
    word ∈ (repeated inner 0 (some 1)).language ↔ word = [] ∨ word ∈ inner.language := by
  rw [mem_language_repeated]
  constructor
  · rintro ⟨parts, rfl, hlength, hparts⟩
    match parts, hlength 1 rfl with
    | [], _ => exact .inl rfl
    | [part], _ => exact .inr (by simpa using hparts)
  · rintro (rfl | hword)
    · exact ⟨[], rfl, by simp, by simp⟩
    · exact ⟨[word], by simp, by simp, by simpa using hword⟩

/-! ## Words with a separator -/

theorem mem_language_separator {separator : Char} {word : List Char} :
    word ∈ (chars (.singleton separator)).language ↔ word = [separator] := by
  rw [mem_language_chars]
  constructor
  · rintro ⟨char, hchar, rfl⟩
    rw [CharSet.contains_singleton.mp hchar]
  · rintro rfl
    exact ⟨separator, CharSet.contains_singleton.mpr rfl, rfl⟩

/-- Behind the first word each word has a separator in front of it. -/
theorem intercalate_cons (separator : Char) (word : List Char) (words : List (List Char)) :
    [separator].intercalate (word :: words) = word ++ (words.map (separator :: ·)).flatten := by
  induction words generalizing word with
  | nil => simp
  | cons next words ih =>
      rw [List.intercalate_cons_cons, ih, List.append_assoc, List.map_cons, List.flatten_cons]
      rfl

theorem exists_separated {separator : Char} {item : Pattern} {parts : List (List Char)}
    (hparts : ∀ part ∈ parts,
      part ∈ (concat [.chars (.singleton separator), item]).language) :
    ∃ words : List (List Char), parts = words.map (separator :: ·) ∧
      ∀ word ∈ words, word ∈ item.language := by
  induction parts with
  | nil => exact ⟨[], rfl, by simp⟩
  | cons part parts ih =>
      rw [List.forall_mem_cons] at hparts
      obtain ⟨front, hfront, word, hword, rfl⟩ := hparts.1
      obtain ⟨words, rfl, hwords⟩ := ih hparts.2
      rw [mem_language_separator.mp hfront]
      exact ⟨word :: words, rfl, List.forall_mem_cons.mpr ⟨hword, hwords⟩⟩

/-- **A row of words with a separator between them**: the first word, and then a separator
and a word as often as the bound allows. -/
theorem mem_language_separated {separator : Char} {item : Pattern} {most : Option Nat}
    {word : List Char} :
    word ∈ item.language *
        (repeated (concat [.chars (.singleton separator), item]) 0 most).language ↔
      ∃ words, words ≠ [] ∧ (∀ bound ∈ most, words.length ≤ bound + 1) ∧
        (∀ word ∈ words, word ∈ item.language) ∧ word = [separator].intercalate words := by
  constructor
  -- each round adds a separator and a word, so there is one word more than there are rounds
  · rintro ⟨first, hfirst, rest, hrest, rfl⟩
    obtain ⟨parts, rfl, hlength, hparts⟩ := mem_language_repeated.mp hrest
    obtain ⟨words, rfl, hwords⟩ := exists_separated hparts
    refine ⟨first :: words, by simp, fun bound hbound => ?_,
      List.forall_mem_cons.mpr ⟨hfirst, hwords⟩, (intercalate_cons _ _ _).symm⟩
    have hle := hlength bound hbound
    rw [List.length_map] at hle
    exact Nat.succ_le_succ hle
  · rintro ⟨words, hne, hlength, hwords, rfl⟩
    obtain ⟨first, words, rfl⟩ := List.exists_cons_of_ne_nil hne
    rw [List.forall_mem_cons] at hwords
    rw [intercalate_cons]
    refine Language.append_mem_mul hwords.1 (mem_language_repeated.mpr
      ⟨words.map (separator :: ·), rfl, fun bound hbound => ?_, fun part hpart => ?_⟩)
    · have hle := hlength bound hbound
      rw [List.length_map]
      exact Nat.le_of_succ_le_succ hle
    · obtain ⟨word, hword, rfl⟩ := List.mem_map.mp hpart
      exact Language.append_mem_mul (mem_language_separator.mpr rfl) (hwords.2 word hword)

end Pattern

end MtaCheck.Regex
