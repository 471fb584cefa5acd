import MtaCheck.Proofs.Node.Lookup

/-!
# Lookups and listings

A map is asked for one property by its name (`Node.get`), or for all of them (`Node.entries`), and
the two do not go by the same rule.  A lookup tries the name as a plain text and only then takes the
first key of this literal form.  A listing has every entry at its place, under the literal form of
its key, or under the empty text if the key has none.

`Node.Finds` describes what a lookup finds by the place of an entry in the map, and
`get_eq_iff_finds` says that this is what is found.  The main result, `lookupLaws`, compares the two
rules: where they agree, and why a key without a literal form does not get in the way.
-/

namespace MtaCheck

open Yaml (Value)

namespace Node

/-! ## What a lookup finds -/

/-- What is found under a word in the entries of a map. -/
inductive Finds (entries : List (Value × Value)) (word : String) : Node → Prop
  /-- The first entry whose key is the word as a plain text, whatever other keys there are. -/
  | plain {before after : List (Value × Value)} {value : Value}
      (hentries : entries = before ++ (.text word, value) :: after)
      (hbefore : ∀ entry ∈ before, entry.1 ≠ .text word) : Finds entries word (.ofValue value)
  /-- The first entry whose key has the word as its literal form, if no key is the plain text. -/
  | literal {before after : List (Value × Value)} {key value : Value}
      (hentries : entries = before ++ (key, value) :: after)
      (hplain : ∀ entry ∈ entries, entry.1 ≠ .text word)
      (hkey : keyLiteral? key = some word)
      (hbefore : ∀ entry ∈ before, keyLiteral? entry.1 ≠ some word) :
      Finds entries word (.ofValue value)
  | nothing (hnone : ∀ entry ∈ entries, keyLiteral? entry.1 ≠ some word) :
      Finds entries word .missing

section Found

variable {entries : List (Value × Value)} {word : String} {value : Value}

theorem entryOfText?_eq_some_iff :
    entryOfText? word entries = some value ↔
      ∃ before after, entries = before ++ (.text word, value) :: after ∧
        ∀ entry ∈ before, entry.1 ≠ .text word := by
  rw [entryOfText?, Option.map_eq_some_iff]
  simp only [List.find?_eq_some_iff_append, same_text_iff, Bool.not_eq_true', ← Bool.not_eq_true]
  constructor
  · rintro ⟨⟨key, value⟩, ⟨rfl, hsplit⟩, rfl⟩
    exact hsplit
  · rintro hsplit
    exact ⟨(.text word, value), ⟨rfl, hsplit⟩, rfl⟩

theorem entryOfText?_eq_none_iff :
    entryOfText? word entries = none ↔ ∀ entry ∈ entries, entry.1 ≠ .text word := by
  rw [entryOfText?, Option.map_eq_none_iff, List.find?_eq_none]
  simp only [same_text_iff, ne_eq]

theorem entryOfLiteral?_eq_some_iff :
    entryOfLiteral? word entries = some value ↔
      ∃ before after key, entries = before ++ (key, value) :: after ∧
        keyLiteral? key = some word ∧ ∀ entry ∈ before, keyLiteral? entry.1 ≠ some word := by
  rw [entryOfLiteral?, Option.map_eq_some_iff]
  simp only [List.find?_eq_some_iff_append, beq_iff_eq, Bool.not_eq_true', beq_eq_false_iff_ne]
  constructor
  · rintro ⟨⟨key, value⟩, ⟨hkey, before, after, hentries, hbefore⟩, rfl⟩
    exact ⟨before, after, key, hentries, hkey, hbefore⟩
  · rintro ⟨before, after, key, hentries, hkey, hbefore⟩
    exact ⟨(key, value), ⟨hkey, before, after, hentries, hbefore⟩, rfl⟩

theorem entryOfLiteral?_eq_none_iff :
    entryOfLiteral? word entries = none ↔
      ∀ entry ∈ entries, keyLiteral? entry.1 ≠ some word := by
  rw [entryOfLiteral?, Option.map_eq_none_iff, List.find?_eq_none]
  simp only [beq_iff_eq, ne_eq]

/-- A key without the literal form of a word is not the word. -/
theorem ne_text_of_keyLiteral? {key : Value} (hkey : keyLiteral? key ≠ some word) :
    key ≠ .text word := by
  rintro rfl
  exact hkey rfl

theorem finds_get (entries : List (Value × Value)) (word : String) :
    Finds entries word ((Node.map entries).get word) := by
  rw [get]
  cases htext : entryOfText? word entries with
  | some value =>
      obtain ⟨before, after, hentries, hbefore⟩ := entryOfText?_eq_some_iff.mp htext
      exact .plain hentries hbefore
  | none =>
      have hplain := entryOfText?_eq_none_iff.mp htext
      cases hliteral : entryOfLiteral? word entries with
      | some value =>
          obtain ⟨before, after, key, hentries, hkey, hbefore⟩ :=
            entryOfLiteral?_eq_some_iff.mp hliteral
          exact .literal hentries hplain hkey hbefore
      | none => exact .nothing (entryOfLiteral?_eq_none_iff.mp hliteral)

/-- A lookup finds what stands under the word, and nothing else. -/
theorem get_eq_iff_finds {node : Node} :
    (Node.map entries).get word = node ↔ Finds entries word node := by
  constructor
  · rintro rfl
    exact finds_get entries word
  · intro hfinds
    rw [get]
    cases hfinds with
    | plain hentries hbefore =>
        rw [entryOfText?_eq_some_iff.mpr ⟨_, _, hentries, hbefore⟩]
        rfl
    | literal hentries hplain hkey hbefore =>
        rw [entryOfText?_eq_none_iff.mpr hplain,
          entryOfLiteral?_eq_some_iff.mpr ⟨_, _, _, hentries, hkey, hbefore⟩]
        rfl
    | nothing hnone =>
        have hplain : ∀ entry ∈ entries, entry.1 ≠ .text word := fun entry hentry =>
          ne_text_of_keyLiteral? (hnone entry hentry)
        rw [entryOfText?_eq_none_iff.mpr hplain, entryOfLiteral?_eq_none_iff.mpr hnone]
        rfl

end Found

/-! ## What a listing tells about lookups -/

section Listed

variable {entries : List (Value × Value)}

theorem keyLiteral?_eq_none_iff {key : Value} :
    keyLiteral? key = none ↔ (ofValue key).kind ≠ .scalar := by
  rw [keyLiteral?]
  cases ofValue key <;> simp [literal?, kind]

/-- If all keys have literal forms, and all of them different ones, then each property that is
listed is found under its name. -/
theorem get_of_mem_entries (hscalar : ∀ entry ∈ entries, (ofValue entry.1).kind = .scalar)
    (hdistinct : (keyLiterals entries).Nodup) :
    ∀ listed ∈ (Node.map entries).entries, (Node.map entries).get listed.1 = listed.2 := by
  intro listed hlisted
  obtain ⟨entry, hentry, rfl⟩ := List.mem_map.mp hlisted
  obtain ⟨word, hword⟩ : ∃ word, keyLiteral? entry.1 = some word := by
    rw [← Option.ne_none_iff_exists', ne_eq, keyLiteral?_eq_none_iff, not_not]
    exact hscalar entry hentry
  have hone : valuesOf word entries = [entry.2] := by
    have hmem : entry ∈ entries.filter fun entry => keyLiteral? entry.1 == some word :=
      List.mem_filter.mpr ⟨hentry, by rw [hword, BEq.rfl]⟩
    have hlength := length_filter_le_one hdistinct word
    obtain ⟨only, honly⟩ := List.length_eq_one_iff.mp
      (Nat.le_antisymm hlength (List.length_pos_of_mem hmem))
    rw [honly, List.mem_singleton] at hmem
    rw [valuesOf, honly, hmem, List.map_singleton]
  rw [hword, Option.getD_some, get_of_valuesOf_singleton hone]

/-- What is not listed is missing. -/
theorem get_of_not_mem_entries {word : String}
    (hunlisted : word ∉ (Node.map entries).entries.map (·.1)) :
    (Node.map entries).get word = .missing := by
  refine get_eq_iff_finds.mpr (.nothing ?_)
  intro entry hentry hkey
  have hlisted : ((keyLiteral? entry.1).getD "", ofValue entry.2) ∈ (Node.map entries).entries :=
    List.mem_map_of_mem hentry
  rw [hkey, Option.getD_some] at hlisted
  exact hunlisted (List.mem_map_of_mem (f := Prod.fst) hlisted)

/-- An entry whose key has no literal form is not there for any lookup. -/
theorem get_append_of_wordless {before after : List (Value × Value)} {key value : Value}
    (hkey : (ofValue key).kind ≠ .scalar) (word : String) :
    (Node.map (before ++ (key, value) :: after)).get word =
      (Node.map (before ++ after)).get word := by
  have hnone := keyLiteral?_eq_none_iff.mpr hkey
  have hliteral : ((key, value) :: after).find? (fun entry => keyLiteral? entry.1 == some word) =
      after.find? fun entry => keyLiteral? entry.1 == some word := by
    refine List.find?_cons_of_neg ?_
    rw [hnone]
    exact Bool.false_ne_true
  have htext : ((key, value) :: after).find? (fun entry => entry.1.same (.text word)) =
      after.find? fun entry => entry.1.same (.text word) := by
    refine List.find?_cons_of_neg fun hsame => ?_
    rw [keyLiteral?_of_same hsame] at hnone
    cases hnone
  rw [get, get, entryOfText?, entryOfText?, entryOfLiteral?, entryOfLiteral?, List.find?_append,
    List.find?_append, List.find?_append, List.find?_append, htext, hliteral]

end Listed

/-- How looking up properties of a map and listing them go together. -/
structure LookupLaws (entries : List (Value × Value)) : Prop where
  /-- A lookup finds a plain text first and then the first key of that literal form. -/
  found : ∀ word node, (Node.map entries).get word = node ↔ Finds entries word node
  /-- If the keys are scalars with distinct literal forms, then what is listed is found. -/
  listed : (∀ entry ∈ entries, (ofValue entry.1).kind = .scalar) → (keyLiterals entries).Nodup →
    ∀ listed ∈ (Node.map entries).entries, (Node.map entries).get listed.1 = listed.2
  /-- Nothing is found that is not listed. -/
  unlisted : ∀ word, word ∉ (Node.map entries).entries.map (·.1) →
    (Node.map entries).get word = .missing
  /-- An entry whose key is nothing, a map or a sequence is listed at its place under the empty
  text.  Lookups give the same without it, that of the empty text not excepted. -/
  wordless : ∀ before key value after, entries = before ++ (key, value) :: after →
    (ofValue key).kind ≠ .scalar →
      (Node.map entries).entries =
        (Node.map before).entries ++ ("", ofValue value) :: (Node.map after).entries ∧
      ∀ word, (Node.map entries).get word = (Node.map (before ++ after)).get word

/-- **Looking up against listing.**  Every map keeps the laws above, whatever its keys are. -/
theorem lookupLaws (entries : List (Value × Value)) : LookupLaws entries where
  found := fun _ _ => get_eq_iff_finds
  listed := get_of_mem_entries
  unlisted := fun _ => get_of_not_mem_entries
  wordless := by
    rintro before key value after rfl hkey
    refine ⟨?_, get_append_of_wordless hkey⟩
    simp only [Node.entries, List.map_append, List.map_cons, keyLiteral?_eq_none_iff.mpr hkey,
      Option.getD_none]

/-- Keys of all kinds, among them three that say `1` and three that are listed under the empty
text. -/
def mixedEntries : List (Value × Value) :=
  [(.null, .text "nothing"), (.number (.whole 1), .text "number"), (.mapping [], .text "map"),
    (.tagged "!one" (.text "1"), .text "tagged"), (.text "1", .text "plain"),
    (.tagged "!yes" (.truth true), .text "truth"), (.tagged "!empty" (.text ""), .text "empty")]

/-- The plain text is found before the number in front of it, and under the empty text neither the
nothing nor the map.  Without the texts that say `1` the keys are distinct, and each is found. -/
theorem lookupLaws_mixedEntries :
    (Node.map mixedEntries).get "1" = .scalar (.text "plain") ∧
      (Node.map mixedEntries).get "" = .scalar (.text "empty") ∧
      (Node.map mixedEntries).get "true" = .scalar (.text "truth") ∧
      (Node.map mixedEntries).get "one" = .missing ∧
      (Node.map [(.number (.whole 1), .text "number"), (.truth true, .null)]).get "1" =
        .scalar (.text "number") := by
  have hlaws := lookupLaws mixedEntries
  have hdistinct := lookupLaws [(.number (.whole 1), .text "number"), (.truth true, .null)]
  have hplainAt : mixedEntries =
      mixedEntries.take 4 ++ (.text "1", .text "plain") :: mixedEntries.drop 5 := rfl
  have htruthAt : mixedEntries =
      mixedEntries.take 5 ++ (.tagged "!yes" (.truth true), .text "truth") ::
        mixedEntries.drop 6 := rfl
  have hplain : Finds mixedEntries "1" (.scalar (.text "plain")) :=
    .plain hplainAt (by simp [mixedEntries])
  have htruth : Finds mixedEntries "true" (.scalar (.text "truth")) :=
    .literal htruthAt (by simp [mixedEntries]) rfl (by decide)
  refine ⟨(hlaws.found _ _).mpr hplain, ?_, (hlaws.found _ _).mpr htruth,
    hlaws.unlisted _ (by decide), hdistinct.listed (by decide) (by decide) ("1", _) (.head _)⟩
  rw [(hlaws.wordless [] _ _ _ rfl (by decide)).2]
  rfl

end Node

end MtaCheck
