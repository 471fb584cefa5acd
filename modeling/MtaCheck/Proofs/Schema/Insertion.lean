import MtaCheck.Proofs.Schema.Compiled

/-!
# One more property in a schema

A map schema asks each of its properties on its own, and a sequence schema each of its
elements, so a property that is added to a mapping cannot silence another one.  It is added at
the end of a way through the schema: `Inserted` relates a schema to the one with the
additional entry, and `appliedAt` lists the nodes, with their places, to which the schema at
the end of the way is applied.  A way below a sequence leads to many of them.

The main result, `run_inserted`, is that the new issues are the old ones merged with those of
the added schema, which is asked once for each of these nodes (`Interleaved`).
-/

namespace MtaCheck

open Check

/-! ## Merged lists -/

/-- A list that consists of two lists, each in its own order. -/
inductive Interleaved {α : Type} : List α → List α → List α → Prop
  | nil : Interleaved [] [] []
  | left {item : α} {first second merged : List α} (hrest : Interleaved first second merged) :
      Interleaved (item :: first) second (item :: merged)
  | right {item : α} {first second merged : List α} (hrest : Interleaved first second merged) :
      Interleaved first (item :: second) (item :: merged)

namespace Interleaved

variable {α β : Type} {first second merged first' second' merged' : List α}

theorem of_left (items : List α) : Interleaved items [] items := by
  induction items with
  | nil => exact .nil
  | cons _ _ ih => exact .left ih

theorem of_right (items : List α) : Interleaved [] items items := by
  induction items with
  | nil => exact .nil
  | cons _ _ ih => exact .right ih

theorem append (hfront : Interleaved first second merged)
    (hback : Interleaved first' second' merged') :
    Interleaved (first ++ first') (second ++ second') (merged ++ merged') := by
  induction hfront with
  | nil => exact hback
  | left _ ih => exact .left ih
  | right _ ih => exact .right ih

theorem append_left (items : List α) (hrest : Interleaved first second merged) :
    Interleaved (items ++ first) second (items ++ merged) :=
  (of_left items).append hrest

theorem append_right (hrest : Interleaved first second merged) (items : List α) :
    Interleaved (first ++ items) second (merged ++ items) := by
  have happend := hrest.append (of_left items)
  rwa [List.append_nil] at happend

theorem flatMap {items : List β} {old extra new : β → List α}
    (hitems : ∀ item ∈ items, Interleaved (old item) (extra item) (new item)) :
    Interleaved (items.flatMap old) (items.flatMap extra) (items.flatMap new) := by
  induction items with
  | nil => exact .nil
  | cons item items ih =>
      rw [List.forall_mem_cons] at hitems
      simp only [List.flatMap_cons]
      exact hitems.1.append (ih hitems.2)

theorem sublist (hmerged : Interleaved first second merged) : first.Sublist merged := by
  induction hmerged with
  | nil => exact .slnil
  | left _ ih => exact ih.cons_cons _
  | right _ ih => exact ih.cons _

end Interleaved

/-! ## Ways through a schema -/

namespace Schema

/-- One step from a schema to a schema inside of it. -/
inductive Descent
  /-- To the entry of a mapping at a position. -/
  | entry (position : Nat)
  /-- To the only item of a sequence. -/
  | item

/-- The second schema is the first with one more entry in the mapping at the end of a way.
Along the way, what else stands in the two schemas beside `type`, `mapping` and `sequence`
makes no difference to them and may differ. -/
inductive Inserted (key : String) (added : Node) : List Descent → Node → Node → Prop
  | here {schema schema' : Node} (before after : List (String × Node))
      (htype : (schema.get "type").text? = some "map")
      (htype' : (schema'.get "type").text? = some "map")
      (hentries : (schema.get "mapping").entries = before ++ after)
      (hentries' : (schema'.get "mapping").entries = before ++ (key, added) :: after) :
      Inserted key added [] schema schema'
  | entry {schema schema' sub sub' : Node} {way : List Descent}
      (before after : List (String × Node)) (name : String)
      (htype : (schema.get "type").text? = some "map")
      (htype' : (schema'.get "type").text? = some "map")
      (hentries : (schema.get "mapping").entries = before ++ (name, sub) :: after)
      (hentries' : (schema'.get "mapping").entries = before ++ (name, sub') :: after)
      (hrest : Inserted key added way sub sub') :
      Inserted key added (.entry before.length :: way) schema schema'
  | item {schema schema' item item' : Node} {way : List Descent}
      (htype : (schema.get "type").text? = some "seq")
      (htype' : (schema'.get "type").text? = some "seq")
      (hitem : (schema.get "sequence").elements = [item])
      (hitem' : (schema'.get "sequence").elements = [item'])
      (hrest : Inserted key added way item item') :
      Inserted key added (.item :: way) schema schema'

/-- The nodes, with their places, to which the schema at the end of a way is applied when the
whole schema is applied to a node at a place. -/
def appliedAt : List Descent → Node → Node → Location → List (Node × Location)
  | [], _, node, location => [(node, location)]
  | .entry position :: way, schema, node, location =>
      match (schema.get "mapping").entries[position]? with
      | none => []
      | some (name, sub) => appliedAt way sub (node.get name) (location.child name)
  | .item :: way, schema, node, location =>
      match (schema.get "sequence").elements with
      | [item] => node.elements.zipIdx.flatMap fun element =>
          appliedAt way item element.1 (location.index element.2)
      | _ => []

theorem appliedAt_entry {schema sub : Node} {before after : List (String × Node)} {name : String}
    (hentries : (schema.get "mapping").entries = before ++ (name, sub) :: after)
    (way : List Descent) (node : Node) (location : Location) :
    appliedAt (.entry before.length :: way) schema node location =
      appliedAt way sub (node.get name) (location.child name) := by
  rw [appliedAt, hentries]
  simp

/-- What is no array has no elements. -/
theorem elements_of_refused {node : Node} (hrefused : ¬Demand.array.accepts node = true) :
    node.elements = [] := by
  cases node with
  | sequence items => exact absurd rfl hrefused
  | _ => rfl

theorem appliedAt_item {schema item : Node} (hitem : (schema.get "sequence").elements = [item])
    (way : List Descent) (node : Node) (location : Location) :
    appliedAt (.item :: way) schema node location =
      node.elements.zipIdx.flatMap fun element =>
        appliedAt way item element.1 (location.index element.2) := by
  rw [appliedAt, hitem]

end Schema

/-! ## What the additional entry reports -/

namespace CompiledSchema

open Schema (Inserted appliedAt)

/-- What a schema reports of one property of some nodes. -/
def issuesAt (added : Node) (key : String) (sites : List (Node × Location)) : List Issue :=
  sites.flatMap fun site => (ofNode added).issues (site.1.get key) (site.2.child key)

/-- The additional entry is asked wherever the mapping is applied, and nothing else changes. -/
theorem interleaved_of_inserted {key : String} {added schema schema' : Node}
    {way : List Schema.Descent} (hinserted : Inserted key added way schema schema')
    (hvalid : (ofNode schema).isValid = true) (hvalid' : (ofNode schema').isValid = true) :
    ∀ node location, Interleaved ((ofNode schema).issues node location)
      (issuesAt added key (appliedAt way schema node location))
      ((ofNode schema').issues node location) := by
  -- by induction on the way to the extended mapping, for all nodes and places at once
  induction hinserted with
  | here before after htype htype' hentries hentries' =>
      intro node location
      rw [issues_of_map htype hvalid, issues_of_map htype' hvalid', hentries, hentries',
        List.flatMap_append, List.flatMap_append, List.flatMap_cons]
      have hadded : Interleaved [] (issuesAt added key [(node, location)])
          ((ofNode added).issues (node.get key) (location.child key)) := by
        rw [issuesAt, List.flatMap_singleton]
        exact .of_right _
      exact ((hadded.append_right _).append_left _).append_left _
  | @entry schema schema' sub sub' way before after name htype htype' hentries hentries' hrest ih =>
      intro node location
      have hsub := isValid_entry htype hvalid (name, sub) (by simp [hentries])
      have hsub' := isValid_entry htype' hvalid' (name, sub') (by simp [hentries'])
      rw [issues_of_map htype hvalid, issues_of_map htype' hvalid', hentries, hentries',
        List.flatMap_append, List.flatMap_append, List.flatMap_cons, List.flatMap_cons,
        Schema.appliedAt_entry hentries]
      exact (((ih hsub hsub' _ _).append_right _).append_left _).append_left _
  | item htype htype' hitem hitem' hrest ih =>
      intro node location
      have hsub := isValid_item htype hitem hvalid
      have hsub' := isValid_item htype' hitem' hvalid'
      rw [issues_of_sequence htype hitem hvalid, issues_of_sequence htype' hitem' hvalid',
        Schema.appliedAt_item hitem, issuesAt, List.flatMap_assoc]
      split
      · exact .flatMap fun element _ => ih hsub hsub' element.1 (location.index element.2)
      · rename_i hrefused
        rw [Schema.elements_of_refused hrefused]
        exact .of_left _

/-- **Independent properties never hide each other.**  Let a valid schema be extended by one
entry, anywhere in it, such that it stays valid.  Then a document keeps all its issues, in
their order, and the others are those that the added schema reports, each time that the
extended mapping is applied.  So what the larger schema accepts, the smaller one accepts. -/
theorem run_inserted (key : String) (added schema schema' : Node) (way : List Schema.Descent)
    (hinserted : Inserted key added way schema schema')
    (hvalid : (ofNode schema).isValid = true) (hvalid' : (ofNode schema').isValid = true)
    (document : Node) :
    (run (ofNode schema).checks document).Sublist (run (ofNode schema').checks document) ∧
      Interleaved (run (ofNode schema).checks document)
        ((appliedAt way schema document .root).flatMap fun site =>
          evaluateAll (ofNode added).checks (site.1.get key) (site.2.child key))
        (run (ofNode schema').checks document) ∧
      (run (ofNode schema').checks document = [] → run (ofNode schema).checks document = []) := by
  have hmerged := interleaved_of_inserted hinserted hvalid hvalid' document .root
  refine ⟨hmerged.sublist, hmerged, fun haccepted => ?_⟩
  rw [← List.sublist_nil, ← haccepted]
  exact hmerged.sublist

/-- A map with a sequence of maps in it, in which the properties after the name are given. -/
def partsSchema (more : List (Yaml.Value × Yaml.Value)) : Node :=
  .ofValue (.mapping [(.text "type", .text "map"), (.text "mapping", .mapping [
    (.text "id", .null),
    (.text "parts", .mapping [(.text "type", .text "seq"), (.text "sequence", .sequence [
      .mapping [(.text "type", .text "map"), (.text "mapping", .mapping
        ((.text "name", .mapping [(.text "required", .truth true)]) :: more))]])])])])

/-- A property that has to be there. -/
def presentSchema : Yaml.Value := .mapping [(.text "required", .truth true)]

/-- Two parts, of which one has no name and none has a kind. -/
def partsDocument : Node :=
  .ofValue (.mapping [(.text "parts", .sequence [.mapping [(.text "name", .text "a")],
    .mapping []])])

/-- An entry is added below a sequence, so it is asked about both elements. -/
theorem run_inserted_below_sequence :
    Inserted "kind" (.ofValue presentSchema) [.entry 1, .item] (partsSchema [])
        (partsSchema [(.text "kind", presentSchema)]) ∧
      (ofNode (partsSchema [])).isValid = true ∧
      (ofNode (partsSchema [(.text "kind", presentSchema)])).isValid = true ∧
      (run (ofNode (partsSchema [])).checks partsDocument).Sublist
        (run (ofNode (partsSchema [(.text "kind", presentSchema)])).checks partsDocument) ∧
      (run (ofNode (partsSchema [])).checks partsDocument).map Issue.message =
        ["Missing required property <name> in <parts[1]>"] ∧
      (run (ofNode (partsSchema [(.text "kind", presentSchema)])).checks partsDocument).map
          Issue.message =
        ["Missing required property <kind> in <parts[0]>",
          "Missing required property <name> in <parts[1]>",
          "Missing required property <kind> in <parts[1]>"] := by
  have hinserted : Inserted "kind" (.ofValue presentSchema) [.entry 1, .item] (partsSchema [])
      (partsSchema [(.text "kind", presentSchema)]) := by
    refine .entry [("id", .missing)] [] "parts" rfl rfl rfl rfl (.item rfl rfl rfl rfl ?_)
    exact .here [("name", .ofValue presentSchema)] [] rfl rfl rfl rfl
  have hvalid : (ofNode (partsSchema [])).isValid = true := by decide +kernel
  have hvalid' : (ofNode (partsSchema [(.text "kind", presentSchema)])).isValid = true := by
    decide +kernel
  obtain ⟨hkept, -, -⟩ := run_inserted "kind" (.ofValue presentSchema) (partsSchema [])
    (partsSchema [(.text "kind", presentSchema)]) [.entry 1, .item] hinserted hvalid hvalid'
    partsDocument
  exact ⟨hinserted, hvalid, hvalid', hkept, by decide +kernel, by decide +kernel⟩

end CompiledSchema

end MtaCheck
