import Mathlib.Data.List.Forall2
import MtaCheck.Location
import MtaCheck.Node

/-!
# Looking into a node

A property of a map is looked up as a text first, and then by the literal form of its key.
What stands under a word in a list of entries is `Node.valuesOf`, and the lookup is read through
it (`get_of_valuesOf_nil`, `get_of_valuesOf_singleton`).  If the keys of a map have distinct
literal forms, then there is at most one value under each word (`length_filter_le_one`).

Two nodes whose parts correspond are looked into together: what is found in them corresponds
(`rel_get`), and so do their elements and entries (`rel_elements`, `rel_entries`).

Names and indices can be followed one after the other, from a node (`Node.follow`) and from
its place (`Location.follow`).
-/

namespace MtaCheck

open Yaml (Value)

/-! ## Properties -/

/-- The values of the entries whose key has a literal form. -/
def Node.valuesOf (word : String) (entries : List (Value × Value)) : List Value :=
  (entries.filter fun entry => keyLiteral? entry.1 == some word).map (·.2)

/-- Only the plain text itself is the same as a text; a tag makes a difference. -/
theorem same_text_iff {key : Value} {word : String} :
    key.same (.text word) = true ↔ key = .text word := by
  cases key <;> simp [Value.same]

/-- A key that is a text has this text as its literal form. -/
theorem keyLiteral?_of_same {key : Value} {word : String} (hsame : key.same (.text word) = true) :
    Node.keyLiteral? key = some word := by
  rw [same_text_iff.mp hsame]
  rfl

theorem get_of_valuesOf_nil {word : String} {values : List (Value × Value)}
    (hnone : Node.valuesOf word values = []) : (Node.map values).get word = .missing := by
  rw [Node.valuesOf, List.map_eq_nil_iff, List.filter_eq_nil_iff] at hnone
  have hliteral : Node.entryOfLiteral? word values = none := by
    rw [Node.entryOfLiteral?, Option.map_eq_none_iff, List.find?_eq_none]
    exact hnone
  have htext : Node.entryOfText? word values = none := by
    rw [Node.entryOfText?, Option.map_eq_none_iff, List.find?_eq_none]
    intro entry hentry hsame
    exact hnone entry hentry (by rw [keyLiteral?_of_same hsame, BEq.rfl])
  rw [Node.get, htext, hliteral]
  rfl

theorem get_of_valuesOf_singleton {word : String} {values : List (Value × Value)} {value : Value}
    (hone : Node.valuesOf word values = [value]) :
    (Node.map values).get word = .ofValue value := by
  obtain ⟨entry, hentries, rfl⟩ := List.map_eq_singleton_iff.mp hone
  have hliteral : Node.entryOfLiteral? word values = some entry.2 := by
    rw [Node.entryOfLiteral?, ← List.head?_filter, hentries]
    rfl
  have htext : ∀ found, Node.entryOfText? word values = some found → found = entry.2 := by
    intro found hfound
    obtain ⟨other, hother, rfl⟩ := Option.map_eq_some_iff.mp hfound
    have hmem : other ∈ values.filter fun entry => Node.keyLiteral? entry.1 == some word := by
      rw [List.mem_filter]
      refine ⟨List.mem_of_find?_eq_some hother, ?_⟩
      have hsame : other.1.same (.text word) = true := by simpa using List.find?_some hother
      rw [keyLiteral?_of_same hsame, BEq.rfl]
    rw [hentries, List.mem_singleton] at hmem
    rw [hmem]
  rw [Node.get, hliteral]
  cases hfound : Node.entryOfText? word values with
  | none => rfl
  | some found =>
      rw [htext found hfound]
      rfl

namespace Node

/-- A property is missing, or it is the value of an entry. -/
theorem get_eq_missing_or_exists (entries : List (Value × Value)) (word : String) :
    (Node.map entries).get word = .missing ∨
      ∃ entry ∈ entries, (Node.map entries).get word = .ofValue entry.2 := by
  rw [get]
  cases htext : entryOfText? word entries with
  | some value =>
      obtain ⟨entry, hentry, rfl⟩ := Option.map_eq_some_iff.mp htext
      exact .inr ⟨entry, List.mem_of_find?_eq_some hentry, rfl⟩
  | none =>
      cases hliteral : entryOfLiteral? word entries with
      | some value =>
          obtain ⟨entry, hentry, rfl⟩ := Option.map_eq_some_iff.mp hliteral
          exact .inr ⟨entry, List.mem_of_find?_eq_some hentry, rfl⟩
      | none => exact .inl rfl

/-- The first entry with a wanted key stands at the same place in two lists, if their keys are
wanted together. -/
theorem rel_find? {related : Value → Value → Prop} (wanted : Value → Bool)
    {entries entries' : List (Value × Value)}
    (hentries : List.Forall₂ (fun entry entry' : Value × Value => wanted entry.1 = wanted entry'.1 ∧
      (wanted entry.1 = true → related entry.2 entry'.2)) entries entries') :
    Option.Rel related ((entries.find? fun entry => wanted entry.1).map (·.2))
      ((entries'.find? fun entry => wanted entry.1).map (·.2)) := by
  induction hentries with
  | nil => exact .none
  | cons hentry _ ih =>
      rw [List.find?_cons, List.find?_cons, ← hentry.1]
      split
      · rename_i hwanted
        exact .some (hentry.2 hwanted)
      · exact ih

/-- What is found in either of two ways is related if it is so in each of them. -/
theorem rel_orElse {related : Node → Node → Prop} (hmissing : related .missing .missing)
    {found found' other other' : Option Value}
    (hfound : Option.Rel (fun value value' => related (ofValue value) (ofValue value'))
      found found')
    (hother : Option.Rel (fun value value' => related (ofValue value) (ofValue value'))
      other other') :
    related (((found <|> other).map ofValue).getD .missing)
      (((found' <|> other').map ofValue).getD .missing) := by
  cases hfound with
  | some hvalue => exact hvalue
  | none =>
      cases hother with
      | some hvalue => exact hvalue
      | none => exact hmissing

/-- Let the entries of two maps correspond in their order, by keys that are found under the same
words.  Then what is found under a word is related, if the values of its keys are. -/
theorem rel_get {related : Node → Node → Prop} (hmissing : related .missing .missing)
    {word : String} {entries entries' : List (Value × Value)}
    (hentries : List.Forall₂ (fun entry entry' : Value × Value =>
      entry.1.same (.text word) = entry'.1.same (.text word) ∧
        keyLiteral? entry.1 = keyLiteral? entry'.1 ∧
          (keyLiteral? entry.1 = some word → related (ofValue entry.2) (ofValue entry'.2)))
      entries entries') :
    related ((Node.map entries).get word) ((Node.map entries').get word) := by
  refine rel_orElse hmissing (rel_find? (·.same (.text word)) ?_)
    (rel_find? (keyLiteral? · == some word) ?_)
  · refine hentries.imp fun entry entry' hentry => ⟨hentry.1, fun hsame => ?_⟩
    exact hentry.2.2 (keyLiteral?_of_same hsame)
  · refine hentries.imp fun entry entry' hentry => ⟨by rw [hentry.2.1], fun hword => ?_⟩
    exact hentry.2.2 (beq_iff_eq.mp hword)

/-- The elements of two sequences correspond if their items do. -/
theorem rel_elements {related : Node → Node → Prop} {items items' : List Value}
    (hitems : List.Forall₂ (fun item item' => related (ofValue item) (ofValue item'))
      items items') :
    List.Forall₂ related (Node.sequence items).elements (Node.sequence items').elements := by
  rw [elements, elements, List.forall₂_map_left_iff, List.forall₂_map_right_iff]
  exact hitems

/-- Two maps list the same names if their keys have the same literal forms. -/
theorem rel_entries {related : Node → Node → Prop} {entries entries' : List (Value × Value)}
    (hentries : List.Forall₂ (fun entry entry' : Value × Value =>
      keyLiteral? entry.1 = keyLiteral? entry'.1 ∧ related (ofValue entry.2) (ofValue entry'.2))
      entries entries') :
    List.Forall₂ (fun entry entry' : String × Node => entry.1 = entry'.1 ∧ related entry.2 entry'.2)
      (Node.map entries).entries (Node.map entries').entries := by
  rw [Node.entries, Node.entries, List.forall₂_map_left_iff, List.forall₂_map_right_iff]
  refine hentries.imp fun entry entry' hentry => ⟨?_, hentry.2⟩
  rw [hentry.1]

/-- The literal forms of the keys that have one. -/
def keyLiterals (entries : List (Value × Value)) : List String :=
  entries.filterMap fun entry => keyLiteral? entry.1

/-- Distinct literal forms leave at most one entry to a word. -/
theorem length_filter_le_one {entries : List (Value × Value)}
    (hdistinct : (keyLiterals entries).Nodup) (word : String) :
    (entries.filter fun entry => keyLiteral? entry.1 == some word).length ≤ 1 := by
  have hcount := List.nodup_iff_count.mp hdistinct word
  rwa [keyLiterals, List.count_filterMap, List.countP_eq_length_filter] at hcount

end Node

/-! ## Ways into a document -/

/-- One step into a document. -/
inductive Step
  /-- To the property of a name. -/
  | name (key : String)
  /-- To the element at an index. -/
  | index (index : Nat)

namespace Node

/-- The node after one step. -/
def step (node : Node) : Step → Node
  | .name key => node.get key
  | .index index => node.at? index

/-- The node at the end of a way. -/
def follow (node : Node) (steps : List Step) : Node := steps.foldl step node

theorem follow_cons (node : Node) (first : Step) (steps : List Step) :
    node.follow (first :: steps) = (node.step first).follow steps := rfl

/-- The elements of a sequence are what its indices lead to. -/
theorem at?_of_mem_zipIdx {node element : Node} {index : Nat}
    (hmem : (element, index) ∈ node.elements.zipIdx) : node.at? index = element := by
  rw [List.mk_mem_zipIdx_iff_getElem?] at hmem
  cases node with
  | sequence items =>
      rw [elements, List.getElem?_map] at hmem
      rw [at?, hmem, Option.getD_some]
  | _ => simp [elements] at hmem

end Node

/-- The place after one step. -/
def Location.step (location : Location) : Step → Location
  | .name key => location.child key
  | .index index => location.index index

/-- The place at the end of a way. -/
def Location.follow (location : Location) (steps : List Step) : Location :=
  steps.foldl Location.step location

end MtaCheck
