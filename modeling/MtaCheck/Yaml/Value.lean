import MtaCheck.Yaml.Number

/-!
# Values

A document holds a tree of values.  The entries of a mapping keep their order,
and no two of them have equal keys; but two mappings are equal when they have the
same entries in any order.
-/

namespace MtaCheck.Yaml

/-- A value of a document. -/
inductive Value
  | null
  | truth (value : Bool)
  | number (value : Number)
  | text (value : String)
  | sequence (items : List Value)
  | mapping (entries : List (Value × Value))
  | tagged (tag : String) (value : Value)
deriving Inhabited

namespace Value

mutual

/-- Whether two values are equal. -/
def same : Value → Value → Bool
  | .null, .null => true
  | .truth value, .truth value' => value == value'
  | .number value, .number value' => value.same value'
  | .text value, .text value' => value == value'
  | .sequence items, .sequence items' => sameItems items items'
  | .mapping entries, .mapping entries' =>
      entries.length == entries'.length && sameEntries entries entries'
  | .tagged tag value, .tagged tag' value' => tag == tag' && same value value'
  | _, _ => false

/-- Whether two lists have equal values at equal places. -/
def sameItems : List Value → List Value → Bool
  | [], [] => true
  | item :: items, item' :: items' => same item item' && sameItems items items'
  | _, _ => false

/-- Whether each entry has an equal one among others. -/
def sameEntries : List (Value × Value) → List (Value × Value) → Bool
  | [], _ => true
  | (key, value) :: entries, others =>
      (others.any fun other => same key other.1 && same value other.2)
        && sameEntries entries others

end

/-- The key of an entry that is equal to `key`. -/
def equalKey? (key : Value) (entries : List (Value × Value)) : Option Value :=
  (entries.find? fun entry => same entry.1 key).map (·.1)

end Value

end MtaCheck.Yaml
