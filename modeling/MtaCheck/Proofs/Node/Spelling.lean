import Mathlib.Data.List.Forall2
import Mathlib.Data.Nat.Digits.Defs
import MtaCheck.Proofs.Node.Lookup
import MtaCheck.Proofs.Validation.Descriptors

/-!
# The node of a tree

A tree is a document as it is written, a node is a document as checks see it.  This file
says how the two fit together.

* A collection of a tree is the collection of its node, and its tag is not seen
  (`ofValue_sequence`, `ofValue_mapping`).
* A scalar has a text and a node, and the two can differ: a word for null is no node at all,
  and a number is shown by its node in its own form, not as it is written (`Denotes`).
* For keys that are words the difference plays no part (`keyLiteral?_eq_iff`).  So a word is
  looked up in the node of a mapping with the same result as in the mapping as it is written
  (`get_of_valuesOf_nil`, `get_of_valuesOf_singleton`), unless it is a key of it twice.
-/

namespace MtaCheck

open Yaml (Document Tree Value Number Meaning StandardTag)
open Yaml.Resolution (isNull truth?)

/-! ## The texts of numbers -/

/-- A text of the characters that numbers are written with. -/
def IsNumberText (text : String) : Prop :=
  ∀ char ∈ text.toList, char.isDigit = true ∨ char ∈ ['-', '.', 'e', 'i', 'n', 'f', 'a']

instance (text : String) : Decidable (IsNumberText text) :=
  List.decidableBAll _ text.toList

namespace IsNumberText

theorem append {first second : String} (hfirst : IsNumberText first)
    (hsecond : IsNumberText second) : IsNumberText (first ++ second) := by
  intro char hchar
  rw [String.toList_append, List.mem_append] at hchar
  rcases hchar with hchar | hchar
  · exact hfirst char hchar
  · exact hsecond char hchar

theorem of_digits {digits : List Char} (hdigits : ∀ char ∈ digits, char.isDigit = true) :
    IsNumberText (String.ofList digits) := by
  intro char hchar
  rw [String.toList_ofList] at hchar
  exact .inl (hdigits char hchar)

theorem isDigit_of_mem_toString {number : Nat} {char : Char}
    (hchar : char ∈ (toString number).toList) : char.isDigit = true := by
  rw [Nat.toString_eq_repr, Nat.toList_repr] at hchar
  exact Nat.isDigit_of_mem_toDigits (by decide) (by decide) hchar

theorem of_nat (number : Nat) : IsNumberText (toString number) :=
  fun _ hchar => .inl (isDigit_of_mem_toString hchar)

theorem of_int (number : Int) : IsNumberText (toString number) := by
  cases number with
  | ofNat number => exact of_nat number
  | negSucc number =>
      have hsign : IsNumberText "-" := by decide
      exact hsign.append (of_nat number.succ)

open Decimal (zeros positional scientific Layout Binary64)

theorem of_zeros (count : Nat) : IsNumberText (zeros count) := by
  refine of_digits fun char hchar => ?_
  rw [List.eq_of_mem_replicate hchar]
  rfl

theorem of_positional {digits : String} (hdigits : ∀ char ∈ digits.toList, char.isDigit = true)
    (exponent : Int) : IsNumberText (positional digits exponent) := by
  have hpoint : IsNumberText "." := by decide
  unfold positional
  simp only
  split
  · have hzero : IsNumberText ".0" := by decide
    exact (append (fun char hchar => .inl (hdigits char hchar)) (of_zeros _)).append hzero
  · split
    · refine (append (of_digits fun char hchar => ?_) hpoint).append
        (of_digits fun char hchar => ?_)
      · exact hdigits char (List.mem_of_mem_take hchar)
      · exact hdigits char (List.mem_of_mem_drop hchar)
    · have hzero : IsNumberText "0." := by decide
      exact (hzero.append (of_zeros _)).append fun char hchar => .inl (hdigits char hchar)

theorem of_scientific {digits : String} (hdigits : ∀ char ∈ digits.toList, char.isDigit = true)
    (exponent : Int) : IsNumberText (scientific digits exponent) := by
  have hmark : IsNumberText "e" := by decide
  unfold scientific
  simp only
  split
  · decide
  · rename_i digit hdigit
    rw [hdigit] at hdigits
    exact (append (of_digits hdigits) hmark).append (of_int _)
  · rename_i digit fraction hfraction hdigit
    rw [hdigit, List.forall_mem_cons] at hdigits
    refine (append ?_ hmark).append (of_int _)
    intro char hchar
    rw [String.toList_ofList, List.mem_cons, List.mem_cons] at hchar
    rcases hchar with rfl | rfl | hchar
    · exact .inl hdigits.1
    · exact .inr (by decide)
    · exact .inl (hdigits.2 char hchar)

theorem of_layout {layout : Layout} (hinfinity : IsNumberText layout.infinity)
    (hnone : IsNumberText layout.notANumber) (value : Binary64) :
    IsNumberText (layout.text value) := by
  have hsign : ∀ negative : Bool, IsNumberText (if negative then "-" else "") := by decide
  cases value with
  | notANumber => exact hnone
  | infinite negative => exact (hsign negative).append hinfinity
  | finite negative significand exponent =>
      refine (hsign negative).append ?_
      split
      · decide
      · unfold Layout.decimal
        simp only
        split
        · exact of_positional (fun _ => isDigit_of_mem_toString) _
        · exact of_scientific (fun _ => isDigit_of_mem_toString) _

/-- The literal form of a number. -/
theorem of_literal (number : Number) : IsNumberText number.literal := by
  cases number with
  | whole value => exact of_int value
  | floating value => exact of_layout (by decide) (by decide) value

end IsNumberText

theorem append_ne_empty {first second : String} (hne : first ≠ "" ∨ second ≠ "") :
    first ++ second ≠ "" := by
  intro hempty
  rw [String.append_eq_empty_iff] at hempty
  rcases hne with hne | hne
  · exact hne hempty.1
  · exact hne hempty.2

theorem toString_nat_ne_empty (number : Nat) : toString number ≠ "" := by
  rw [Nat.toString_eq_repr, ne_eq, ← String.toList_eq_nil_iff, Nat.toList_repr]
  exact Nat.toDigits_ne_nil

theorem toString_int_ne_empty (number : Int) : toString number ≠ "" := by
  cases number with
  | ofNat number => exact toString_nat_ne_empty number
  | negSucc number => exact append_ne_empty (.inr (toString_nat_ne_empty number.succ))

open Decimal (positional scientific Layout Scaled) in
theorem Decimal.Layout.decimal_ne_empty (layout : Layout) (decimal : Scaled) :
    layout.decimal decimal ≠ "" := by
  unfold Layout.decimal
  simp only
  split
  · unfold positional
    simp only
    split
    · exact append_ne_empty (.inr (by decide))
    · split
      · exact append_ne_empty (.inl (append_ne_empty (.inr (by decide))))
      · exact append_ne_empty (.inl (append_ne_empty (.inl (by decide))))
  · unfold scientific
    simp only
    split
    · rename_i hnil
      exact absurd (String.toList_eq_nil_iff.mp hnil) (toString_nat_ne_empty _)
    · exact append_ne_empty (.inr (toString_int_ne_empty _))
    · exact append_ne_empty (.inr (toString_int_ne_empty _))

theorem Yaml.Number.literal_ne_empty (number : Number) : number.literal ≠ "" := by
  cases number with
  | whole value => exact toString_int_ne_empty value
  | floating value =>
      cases value with
      | notANumber => exact (by decide : ".nan" ≠ "")
      | infinite negative => exact append_ne_empty (.inr (by decide))
      | finite negative significand exponent =>
          refine append_ne_empty (.inr ?_)
          split
          · decide
          · exact Decimal.Layout.decimal_ne_empty _ _

/-! ## Nodes of trees -/

variable {tagged : Bool} {value : Value}

/-- A scalar that is written like this is this node. -/
def Denotes (written : Yaml.Scalar) (node : Node) : Prop :=
  ∃ tagged value, Value.ofScalar written tagged = .ok value ∧ node = .ofValue value

/-- The tag of a value is not seen. -/
theorem exists_of_withTag {tag : Option Yaml.TagOctets} {means : Bool → Option Value}
    (hvalue : Tree.withTag tagged tag means = some value) :
    ∃ below inner, means below = some inner ∧ Node.ofValue value = Node.ofValue inner := by
  unfold Tree.withTag at hvalue
  split at hvalue
  · obtain ⟨inner, hinner, rfl⟩ := Option.map_eq_some_iff.mp hvalue
    exact ⟨true, inner, hinner, by rw [Node.ofValue]⟩
  · exact ⟨tagged, value, hvalue, rfl⟩

theorem denotes_ofValue {written : Yaml.Scalar}
    (hvalue : (Tree.scalar written).value? tagged = some value) :
    Denotes written (.ofValue value) := by
  rw [Tree.value?] at hvalue
  obtain ⟨below, inner, hinner, hnode⟩ := exists_of_withTag hvalue
  refine ⟨below, inner, ?_, hnode⟩
  cases hscalar : Value.ofScalar written below with
  | error complaint =>
      rw [hscalar] at hinner
      cases hinner
  | ok found =>
      rw [hscalar] at hinner
      cases hinner
      rfl

theorem ofValue_sequence {tag : Option Yaml.TagOctets} {items : List Tree}
    (hvalue : (Tree.sequence tag items).value? tagged = some value) :
    ∃ values, Tree.itemValues? items = some values ∧ Node.ofValue value = .sequence values := by
  rw [Tree.value?] at hvalue
  obtain ⟨-, inner, hinner, hnode⟩ := exists_of_withTag hvalue
  obtain ⟨values, hvalues, rfl⟩ := Option.map_eq_some_iff.mp hinner
  exact ⟨values, hvalues, by rw [hnode, Node.ofValue]⟩

theorem ofValue_mapping {tag : Option Yaml.TagOctets} {entries : List (Tree × Tree)}
    (hvalue : (Tree.mapping tag entries).value? tagged = some value) :
    ∃ below values, Tree.entryValues? entries below = some values ∧
      Node.ofValue value = .map values := by
  rw [Tree.value?] at hvalue
  obtain ⟨below, inner, hinner, hnode⟩ := exists_of_withTag hvalue
  obtain ⟨values, hvalues, rfl⟩ := Option.map_eq_some_iff.mp hinner
  exact ⟨below, values, hvalues, by rw [hnode, Node.ofValue]⟩

/-! ## Nodes of scalars -/

theorem meaning_cases {written : Yaml.Scalar} {meaning : Meaning}
    (hmeaning : written.meaning tagged = .ok meaning) :
    (∃ standard, Meaning.ofTagged standard written.text = some meaning) ∨
      meaning = .ofPlain written.text ∨ meaning = .text := by
  unfold Yaml.Scalar.meaning at hmeaning
  split at hmeaning
  · split at hmeaning
    · rename_i standard hfind
      cases htagged : Meaning.ofTagged standard written.text with
      | none =>
          rw [htagged] at hmeaning
          cases hmeaning
      | some found =>
          rw [htagged] at hmeaning
          cases hmeaning
          exact .inl ⟨standard, htagged⟩
    · split at hmeaning
      · exact .inr (.inl (Except.ok.inj hmeaning).symm)
      · exact .inr (.inr (Except.ok.inj hmeaning).symm)
  · rw [Except.ok.injEq] at hmeaning
    split at hmeaning
    · exact .inr (.inl hmeaning.symm)
    · exact .inr (.inr hmeaning.symm)

/-- What a scalar with a text can mean: nothing, if it is empty or a word for null; a truth
value, if it is a word for that; a number; or itself. -/
inductive MayMean (text : String) : Meaning → Prop
  | null (hnull : text = "" ∨ isNull text = true) : MayMean text .null
  | truth {value : Bool} (htruth : truth? text = some value) : MayMean text (.truth value)
  | number {number : Number} (hne : text ≠ "") : MayMean text (.number number)
  | wide {number : Int} : MayMean text (.wide number)
  | text : MayMean text .text

theorem mayMean_ofWhole {text : String} (hne : text ≠ "") (number : Int) :
    MayMean text (.ofWhole number) := by
  unfold Meaning.ofWhole
  split
  · exact .number hne
  · exact .wide

theorem mayMean_ofPlain (text : String) : MayMean text (.ofPlain text) := by
  unfold Meaning.ofPlain
  split
  · rename_i hnull
    rw [Bool.or_eq_true, String.isEmpty_iff] at hnull
    exact .null hnull
  · rename_i hnull
    have hne : text ≠ "" := by
      rintro rfl
      exact hnull rfl
    split
    · rename_i htruth
      exact .truth htruth
    · split
      · exact mayMean_ofWhole hne _
      · split
        · exact .text
        · split
          · exact .number hne
          · exact .text

theorem mayMean_ofTagged {standard : StandardTag} {text : String} {meaning : Meaning}
    (htagged : Meaning.ofTagged standard text = some meaning) : MayMean text meaning := by
  cases standard with
  | bool =>
      obtain ⟨value, hvalue, rfl⟩ := Option.map_eq_some_iff.mp htagged
      exact .truth hvalue
  | int =>
      obtain ⟨number, hnumber, rfl⟩ := Option.map_eq_some_iff.mp htagged
      refine mayMean_ofWhole ?_ number
      rintro rfl
      cases hnumber
  | float =>
      obtain ⟨number, hnumber, rfl⟩ := Option.map_eq_some_iff.mp htagged
      refine .number ?_
      rintro rfl
      cases hnumber
  | null =>
      rw [Meaning.ofTagged, Option.ite_none_right_eq_some] at htagged
      obtain ⟨hnull, hmeaning⟩ := htagged
      cases hmeaning
      exact .null (.inr hnull)

theorem mayMean_meaning {written : Yaml.Scalar} {meaning : Meaning}
    (hmeaning : written.meaning tagged = .ok meaning) : MayMean written.text meaning := by
  rcases meaning_cases hmeaning with ⟨standard, htagged⟩ | rfl | rfl
  · exact mayMean_ofTagged htagged
  · exact mayMean_ofPlain _
  · exact .text

/-- What a scalar with a text can be. -/
inductive IsScalarNode (text : String) : Node → Prop
  | null (hnull : text = "" ∨ isNull text = true) : IsScalarNode text .missing
  | truth {value : Bool} (htruth : truth? text = some value) :
      IsScalarNode text (.scalar (.truth value))
  | number {number : Number} (hne : text ≠ "") : IsScalarNode text (.scalar (.number number))
  | text : IsScalarNode text (.scalar (.text text))

theorem Denotes.isScalarNode {written : Yaml.Scalar} {node : Node}
    (hdenotes : Denotes written node) : IsScalarNode written.text node := by
  obtain ⟨tagged, value, hvalue, rfl⟩ := hdenotes
  unfold Value.ofScalar at hvalue
  cases hmeaning : written.meaning tagged with
  | error complaint =>
      rw [hmeaning] at hvalue
      cases hvalue
  | ok meaning =>
      rw [hmeaning] at hvalue
      cases mayMean_meaning hmeaning with
      | null hnull =>
          cases hvalue
          exact .null hnull
      | truth htruth =>
          cases hvalue
          exact .truth htruth
      | number hne =>
          cases hvalue
          exact .number hne
      | wide => cases hvalue
      | text =>
          cases hvalue
          exact .text

/-! ## Trees of a kind -/

theorem IsScalarNode.not_collection {text : String} {node : Node}
    (hnode : IsScalarNode text node) : node.isMap = false ∧ node.isSequence = false := by
  cases hnode <;> exact ⟨rfl, rfl⟩

section Kinds

variable {tree : Tree}

theorem exists_mapping_of_isMap (hvalue : tree.value? tagged = some value)
    (hmap : (Node.ofValue value).isMap = true) :
    ∃ tag entries below values, tree = .mapping tag entries ∧
      Tree.entryValues? entries below = some values ∧ Node.ofValue value = .map values := by
  cases tree with
  | scalar written =>
      rw [(denotes_ofValue hvalue).isScalarNode.not_collection.1] at hmap
      cases hmap
  | sequence tag items =>
      obtain ⟨values, -, hnode⟩ := ofValue_sequence hvalue
      rw [hnode] at hmap
      cases hmap
  | mapping tag entries =>
      obtain ⟨below, values, hvalues, hnode⟩ := ofValue_mapping hvalue
      exact ⟨tag, entries, below, values, rfl, hvalues, hnode⟩

theorem exists_sequence_of_isSequence (hvalue : tree.value? tagged = some value)
    (hsequence : (Node.ofValue value).isSequence = true) :
    ∃ tag items values, tree = .sequence tag items ∧ Tree.itemValues? items = some values ∧
      Node.ofValue value = .sequence values := by
  cases tree with
  | scalar written =>
      rw [(denotes_ofValue hvalue).isScalarNode.not_collection.2] at hsequence
      cases hsequence
  | sequence tag items =>
      obtain ⟨values, hvalues, hnode⟩ := ofValue_sequence hvalue
      exact ⟨tag, items, values, rfl, hvalues, hnode⟩
  | mapping tag entries =>
      obtain ⟨below, values, -, hnode⟩ := ofValue_mapping hvalue
      rw [hnode] at hsequence
      cases hsequence

/-- A tree whose node is no collection is a scalar. -/
theorem exists_scalar_of_not_collection (hvalue : tree.value? tagged = some value)
    (hmap : (Node.ofValue value).isMap = false)
    (hsequence : (Node.ofValue value).isSequence = false) :
    ∃ written, tree = .scalar written ∧ Denotes written (.ofValue value) := by
  cases tree with
  | scalar written => exact ⟨written, rfl, denotes_ofValue hvalue⟩
  | sequence tag items =>
      obtain ⟨values, -, hnode⟩ := ofValue_sequence hvalue
      rw [hnode] at hsequence
      cases hsequence
  | mapping tag entries =>
      obtain ⟨below, values, -, hnode⟩ := ofValue_mapping hvalue
      rw [hnode] at hmap
      cases hmap

end Kinds

/-! ## Words as keys -/

/-- A text that can mean nothing but itself, and that is the literal form of nothing else. -/
structure IsWord (text : String) : Prop where
  plain : Meaning.ofPlain text = .text
  tagged : ∀ standard, Meaning.ofTagged standard text = none
  no_truth : text ≠ toString true ∧ text ≠ toString false
  no_number : ¬IsNumberText text

theorem IsWord.denotes {written : Yaml.Scalar} {node : Node} (hword : IsWord written.text)
    (hdenotes : Denotes written node) : node = .scalar (.text written.text) := by
  obtain ⟨tagged, value, hvalue, rfl⟩ := hdenotes
  have htext : ∀ {meaning}, written.meaning tagged = .ok meaning → meaning = .text := by
    intro meaning hmeaning
    rcases meaning_cases hmeaning with ⟨standard, hstandard⟩ | rfl | rfl
    · rw [hword.tagged] at hstandard
      cases hstandard
    · exact hword.plain
    · rfl
  unfold Value.ofScalar at hvalue
  cases hmeaning : written.meaning tagged with
  | error complaint =>
      rw [hmeaning] at hvalue
      cases hvalue
  | ok meaning =>
      rw [hmeaning, htext hmeaning] at hvalue
      cases hvalue
      rfl

/-- A scalar whose literal form is a word is written as this word. -/
theorem IsWord.text_of_literal {written : Yaml.Scalar} {node : Node} {word : String}
    (hword : IsWord word) (hdenotes : Denotes written node) (hliteral : node.literal? = some word) :
    written.text = word := by
  cases hdenotes.isScalarNode with
  | null hnull => cases hliteral
  | truth htruth =>
      rename_i value
      have htoString : toString value = word := Option.some_inj.mp hliteral
      cases value
      · exact absurd htoString.symm hword.no_truth.2
      · exact absurd htoString.symm hword.no_truth.1
  | number =>
      have hnumber : IsNumberText word := Option.some_inj.mp hliteral ▸ IsNumberText.of_literal _
      exact absurd hnumber hword.no_number
  | text => exact Option.some_inj.mp hliteral

/-- **A key that is a word is a key that is written as this word.** -/
theorem keyLiteral?_eq_iff {word : String} (hword : IsWord word) {key : Tree}
    (hvalue : key.value? tagged = some value) :
    Node.keyLiteral? value = some word ↔ key.text? = some word := by
  cases key with
  | scalar written =>
      have hdenotes := denotes_ofValue hvalue
      constructor
      · intro hliteral
        exact congrArg some (hword.text_of_literal hdenotes hliteral)
      · intro htext
        obtain rfl : written.text = word := Option.some_inj.mp htext
        rw [Node.keyLiteral?, hword.denotes hdenotes]
        rfl
  | sequence tag items =>
      obtain ⟨values, -, hnode⟩ := ofValue_sequence hvalue
      refine iff_of_false ?_ nofun
      rw [Node.keyLiteral?, hnode]
      exact nofun
  | mapping tag entries =>
      obtain ⟨below, values, -, hnode⟩ := ofValue_mapping hvalue
      refine iff_of_false ?_ nofun
      rw [Node.keyLiteral?, hnode]
      exact nofun

/-! ## Looking up words -/

/-- A reading of entries pairs each of them with its value. -/
theorem forall₂_entryValues {entries : List (Tree × Tree)} {values : List (Value × Value)}
    (hvalues : Tree.entryValues? entries tagged = some values) :
    List.Forall₂ (fun entry value =>
      entry.1.value? tagged = some value.1 ∧ entry.2.value? false = some value.2)
        entries values := by
  induction entries generalizing values with
  | nil =>
      rw [Tree.entryValues?, Option.some_inj] at hvalues
      subst hvalues
      exact .nil
  | cons entry entries ih =>
      obtain ⟨key, value⟩ := entry
      simp only [Tree.entryValues?, Option.bind_eq_bind, Option.bind_eq_some_iff, Option.pure_def,
        Option.some_inj] at hvalues
      obtain ⟨keyValue, hkey, valueValue, hvalue, rest, hrest, rfl⟩ := hvalues
      exact .cons ⟨hkey, hvalue⟩ (ih hrest)

/-- A reading of items pairs each of them with its value. -/
theorem forall₂_itemValues {items : List Tree} {values : List Value}
    (hvalues : Tree.itemValues? items = some values) :
    List.Forall₂ (fun item value => item.value? false = some value) items values := by
  induction items generalizing values with
  | nil =>
      rw [Tree.itemValues?, Option.some_inj] at hvalues
      subst hvalues
      exact .nil
  | cons item items ih =>
      simp only [Tree.itemValues?, Option.bind_eq_bind, Option.bind_eq_some_iff, Option.pure_def,
        Option.some_inj] at hvalues
      obtain ⟨first, hfirst, rest, hrest, rfl⟩ := hvalues
      exact .cons hfirst (ih hrest)

/-- What stands under a word is what is written under it. -/
theorem forall₂_valuesOf {word : String} (hword : IsWord word) {entries : List (Tree × Tree)}
    {values : List (Value × Value)} (hvalues : Tree.entryValues? entries tagged = some values) :
    List.Forall₂ (fun tree value => tree.value? false = some value)
      (Tree.valuesOf word entries) (Node.valuesOf word values) := by
  have hentries := forall₂_entryValues hvalues
  clear hvalues
  induction hentries with
  | nil => exact .nil
  | @cons entry value entries values hentry _ ih =>
      have hkey := keyLiteral?_eq_iff hword hentry.1
      simp only [Tree.valuesOf, Node.valuesOf, List.filterMap_cons, List.filter_cons]
      by_cases htext : entry.1.text? = some word
      · rw [if_pos htext, if_pos (by simpa using hkey.mpr htext)]
        exact .cons hentry.2 ih
      · rw [if_neg htext, if_neg (by simpa using fun h => htext (hkey.mp h))]
        exact ih

/-- What stands under a word that is no key twice is seen under it. -/
theorem exists_get_of_mem {word : String} (hword : IsWord word) {entries : List (Tree × Tree)}
    {values : List (Value × Value)} (hvalues : Tree.entryValues? entries tagged = some values)
    (hlength : ¬1 < (Tree.valuesOf word entries).length) {tree : Tree}
    (htree : tree ∈ Tree.valuesOf word entries) :
    ∃ value, tree.value? false = some value ∧ (Node.map values).get word = .ofValue value := by
  obtain ⟨found, hfound⟩ : ∃ found, Tree.valuesOf word entries = [found] := by
    have hpositive := List.length_pos_of_mem htree
    exact List.length_eq_one_iff.mp (by omega)
  have hpairs := forall₂_valuesOf hword hvalues
  rw [hfound] at htree hpairs
  obtain rfl := List.mem_singleton.mp htree
  obtain ⟨value, hvalue, hseen⟩ : ∃ value, tree.value? false = some value ∧
      Node.valuesOf word values = [value] := by
    generalize Node.valuesOf word values = seen at hpairs
    cases hpairs with
    | cons hvalue hrest =>
        cases hrest
        exact ⟨_, hvalue, rfl⟩
  exact ⟨value, hvalue, get_of_valuesOf_singleton hseen⟩

/-- What is written under no key is missing. -/
theorem get_eq_missing {word : String} (hword : IsWord word) {entries : List (Tree × Tree)}
    {values : List (Value × Value)} (hvalues : Tree.entryValues? entries tagged = some values)
    (hnone : Tree.valuesOf word entries = []) : (Node.map values).get word = .missing := by
  have hpairs := forall₂_valuesOf hword hvalues
  rw [hnone] at hpairs
  exact get_of_valuesOf_nil (List.forall₂_nil_left_iff.mp hpairs)

end MtaCheck
