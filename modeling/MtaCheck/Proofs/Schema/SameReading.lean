import Mathlib.Data.List.Forall2
import MtaCheck.Proofs.Schema.Rearrangement

/-!
# Schemas that are read alike

When a schema is read, properties are looked up in it and are asked what they are, mostly without
looking into them: this does not go beyond their outline (`Node.eq_of_outline_eq`).  The exceptions
are the entries under `mapping`, the only element under `sequence` and the allowed values under
`enums`, of which nothing but the literal forms matters (`Rules.values_congr`).

`Schema.ReadAlike` lists what a relation of schemas has to respect so that no difference is seen,
and `ReadAlike.ofNode_eq` goes down two related schemas.
-/

namespace MtaCheck

/-- What is read of two lists is the same if it is so for each two items in the same place. -/
theorem map_eq_of_forall₂ {α β : Type} {related : α → α → Prop} (read : α → β)
    {items items' : List α} (hitems : List.Forall₂ related items items')
    (hread : ∀ item ∈ items, ∀ item', related item item' → read item = read item') :
    items.map read = items'.map read := by
  induction hitems with
  | nil => rfl
  | cons hfirst _ ih =>
      rw [List.forall_mem_cons] at hread
      rw [List.map_cons, List.map_cons, hread.1 _ hfirst, ih hread.2]

namespace Node

/-- A question that does not look into collections has the same answer for nodes with the same
outline. -/
theorem eq_of_outline_eq {α : Type} {ask : Node → α} (hask : ∀ node, ask node.outline = ask node)
    {node node' : Node} (houtline : node.outline = node'.outline) : ask node = ask node' := by
  rw [← hask, houtline, hask]

theorem kind_outline (node : Node) : node.outline.kind = node.kind := by
  cases node <;> rfl

theorem isMap_outline (node : Node) : node.outline.isMap = node.isMap := by
  cases node <;> rfl

theorem isSequence_outline (node : Node) : node.outline.isSequence = node.isSequence := by
  cases node <;> rfl

theorem asText_outline (node : Node) : node.outline.asText = node.asText := by
  cases node <;> rfl

theorem asTruth_outline (node : Node) : node.outline.asTruth = node.asTruth := by
  cases node <;> rfl

theorem text?_outline (node : Node) : node.outline.text? = node.text? := by
  cases node <;> rfl

end Node

namespace Rules

variable {schema schema' : Node}

/-- The allowed values depend on the kind of the node under `enums` and on the literal forms of its
elements. -/
theorem values_congr (hkind : (schema.get "enums").kind = (schema'.get "enums").kind)
    (hliterals : (schema.get "enums").elements.map Node.literal? =
      (schema'.get "enums").elements.map Node.literal?) :
    values schema = values schema' := by
  have hread : ∀ elements : List Node,
      (elements.mapM fun element => element.literal?.elim (Except.error .enumsNotSimple) .ok) =
        (elements.map Node.literal?).mapM fun literal =>
          literal.elim (Except.error SchemaDefect.enumsNotSimple) .ok := by
    intro elements
    rw [List.mapM_map]
    rfl
  rw [values, values]
  generalize schema.get "enums" = enums, schema'.get "enums" = enums' at hkind hliterals ⊢
  cases enums <;> cases enums' <;> try cases hkind
  case sequence.sequence =>
    simp only
    rw [hread, hread, hliterals]
  all_goals rfl

end Rules

namespace Schema

/-- A relation of schemas, and of the nodes inside of them, between which reading makes no
difference. -/
structure ReadAlike (related : Node → Node → Prop) : Prop where
  outline_eq : ∀ {node node'}, related node node' → node.outline = node'.outline
  get : ∀ {node node'}, related node node' → ∀ word, related (node.get word) (node'.get word)
  entries : ∀ {node node'}, related node node' →
    List.Forall₂ (fun entry entry' : String × Node => entry.1 = entry'.1 ∧ related entry.2 entry'.2)
      node.entries node'.entries
  literals_eq : ∀ {node node'}, related node node' →
    node.elements.map Node.literal? = node'.elements.map Node.literal?
  items : ∀ {node node'}, related node node' →
    List.Forall₂ related (node.get "sequence").elements (node'.get "sequence").elements

namespace ReadAlike

variable {related : Node → Node → Prop} {schema schema' : Node}

theorem ask_eq (halike : ReadAlike related) (hrelated : related schema schema') {α : Type}
    {ask : Node → α} (hask : ∀ node, ask node.outline = ask node) (word : String) :
    ask (schema.get word) = ask (schema'.get word) :=
  Node.eq_of_outline_eq hask (halike.outline_eq (halike.get hrelated word))

/-- The rules of a leaf are the same, or have the same defects. -/
theorem rules_eq (halike : ReadAlike related) (hrelated : related schema schema') :
    Rules.ofNode schema = Rules.ofNode schema' := by
  have htype := halike.ask_eq hrelated Node.asText_outline "type"
  have hpattern := halike.ask_eq hrelated Node.asText_outline "pattern"
  have hrequired := halike.ask_eq hrelated Node.asTruth_outline "required"
  have hvalues : Rules.values schema = Rules.values schema' :=
    Rules.values_congr (halike.ask_eq hrelated Node.kind_outline "enums")
      (halike.literals_eq (halike.get hrelated "enums"))
  rw [Rules.ofNode, Rules.ofNode, Rules.readKind, Rules.readKind, Rules.readPattern,
    Rules.readPattern, Rules.readRequired, Rules.readRequired, htype, hvalues, hpattern, hrequired]

/-- Schemas that are read alike are the same schema, or have the same defects. -/
theorem ofNode_eq (halike : ReadAlike related) (schema : Node) :
    ∀ {schema' : Node}, related schema schema' → ofNode schema = ofNode schema' := by
  induction schema using Node.schemaInduction with
  | map schema htype ih =>
      intro schema' hrelated
      have htype' : (schema'.get "type").text? = some "map" := by
        rw [← halike.ask_eq hrelated Node.text?_outline, htype]
      have hentries : ((schema.get "mapping").entries.map fun entry =>
            (ofNode entry.2).map fun read => (entry.1, read)) =
          (schema'.get "mapping").entries.map fun entry =>
            (ofNode entry.2).map fun read => (entry.1, read) := by
        have hmapping := halike.entries (halike.get hrelated "mapping")
        refine map_eq_of_forall₂ _ hmapping fun entry hentry entry' hpair => ?_
        rw [hpair.1, ih entry hentry hpair.2]
      rw [ofNode_of_map htype, ofNode_of_map htype', halike.ask_eq hrelated Node.isMap_outline,
        hentries]
  | sequence schema htype ih =>
      intro schema' hrelated
      have htype' : (schema'.get "type").text? = some "seq" := by
        rw [← halike.ask_eq hrelated Node.text?_outline, htype]
      have helements := halike.items hrelated
      rw [ofNode_of_sequence htype, ofNode_of_sequence htype',
        halike.ask_eq hrelated Node.isSequence_outline]
      generalize (schema.get "sequence").elements = items,
        (schema'.get "sequence").elements = items' at helements ih ⊢
      -- both list as many schemas; only a list of one is read further
      cases helements with
      | nil => rfl
      | cons hfirst hrest =>
          cases hrest with
          | nil => simp only [ih _ (List.mem_singleton_self _) hfirst]
          | cons => rfl
  | leaf schema hmap hsequence =>
      intro schema' hrelated
      have htype := halike.ask_eq hrelated Node.text?_outline "type"
      rw [ofNode_of_leaf hmap hsequence, ofNode_of_leaf (htype ▸ hmap) (htype ▸ hsequence),
        halike.rules_eq hrelated]

end ReadAlike

end Schema

end MtaCheck
