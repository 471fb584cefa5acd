import MtaCheck.Node

/-!
# The weight of a node

The weight of a value counts the values in it.  Every part of a node weighs less
than the node, so a recursion that goes down comes to an end.
-/

namespace MtaCheck

namespace Yaml.Value

mutual

/-- The number of values in a value, keys left out. -/
def weight : Value → Nat
  | .sequence items => 1 + itemsWeight items
  | .mapping entries => 1 + entriesWeight entries
  | .tagged _ value => 1 + value.weight
  | _ => 1

/-- The weight of the items of a sequence. -/
def itemsWeight : List Value → Nat
  | [] => 0
  | item :: items => item.weight + itemsWeight items

/-- The weight of the entries of a mapping. -/
def entriesWeight : List (Value × Value) → Nat
  | [] => 0
  | (_, value) :: entries => value.weight + entriesWeight entries

end

theorem weight_le_itemsWeight {item : Value} {items : List Value} (hmem : item ∈ items) :
    item.weight ≤ itemsWeight items := by
  induction items with
  | nil => cases hmem
  | cons first items ih =>
      rw [itemsWeight]
      rcases List.mem_cons.mp hmem with heq | htail
      · rw [heq]
        omega
      · have := ih htail
        omega

theorem weight_le_entriesWeight {key value : Value} {entries : List (Value × Value)}
    (hmem : (key, value) ∈ entries) : value.weight ≤ entriesWeight entries := by
  induction entries with
  | nil => cases hmem
  | cons first entries ih =>
      obtain ⟨firstKey, firstValue⟩ := first
      rw [entriesWeight]
      rcases List.mem_cons.mp hmem with heq | htail
      · cases heq
        omega
      · have := ih htail
        omega

end Yaml.Value

namespace Node

open Yaml (Value)

/-- The number of values in a node. -/
def weight : Node → Nat
  | .map entries => 1 + Value.entriesWeight entries
  | .sequence items => 1 + Value.itemsWeight items
  | .scalar _ => 1
  | .missing => 0

theorem weight_ofValue_le (value : Value) : (ofValue value).weight ≤ value.weight := by
  induction value using ofValue.induct with
  | case7 tag value ih =>
      rw [ofValue, Value.weight]
      omega
  | _ => simp [ofValue, weight, Value.weight]

/-! ## Going down makes lighter -/

/-- An entry of a map weighs less than the map. -/
theorem weight_lt_of_mem_entries {node sub : Node} {key : String}
    (hmem : (key, sub) ∈ node.entries) : sub.weight < node.weight := by
  cases node with
  | map entries =>
      obtain ⟨entry, hentry, heq⟩ := List.mem_map.mp hmem
      have hvalue := @Value.weight_le_entriesWeight entry.1 entry.2 entries hentry
      have hnode := weight_ofValue_le entry.2
      cases heq
      rw [weight]
      omega
  | _ => cases hmem

/-- An element of a sequence weighs less than the sequence. -/
theorem weight_lt_of_mem_elements {node sub : Node} (hmem : sub ∈ node.elements) :
    sub.weight < node.weight := by
  cases node with
  | sequence items =>
      obtain ⟨item, hitem, heq⟩ := List.mem_map.mp hmem
      have hvalue := Value.weight_le_itemsWeight hitem
      have hnode := weight_ofValue_le item
      rw [← heq, weight]
      omega
  | _ => cases hmem

/-- A property does not weigh more than the node. -/
theorem weight_get_le (node : Node) (key : String) : (node.get key).weight ≤ node.weight := by
  cases node with
  | map entries =>
      cases hfound : entryOfText? key entries <|> entryOfLiteral? key entries with
      | none => simp [get, hfound, weight]
      | some value =>
          have hmem : ∃ label, (label, value) ∈ entries := by
            cases htext : entryOfText? key entries with
            | some first =>
                rw [htext] at hfound
                cases hfound
                obtain ⟨entry, hentry, rfl⟩ := Option.map_eq_some_iff.mp htext
                exact ⟨entry.1, List.mem_of_find?_eq_some hentry⟩
            | none =>
                rw [htext] at hfound
                obtain ⟨entry, hentry, rfl⟩ := Option.map_eq_some_iff.mp hfound
                exact ⟨entry.1, List.mem_of_find?_eq_some hentry⟩
          obtain ⟨label, hmem⟩ := hmem
          have hvalue := Value.weight_le_entriesWeight hmem
          have hnode := weight_ofValue_le value
          have hmap : (Node.map entries).weight = 1 + Value.entriesWeight entries := rfl
          simp only [get, hfound, Option.map_some, Option.getD_some, hmap]
          omega
  | _ => simp [get, weight]

end Node

end MtaCheck
