import MtaCheck.Proofs.Check.Absence
import MtaCheck.Proofs.Schema.Places

/-!
# What an absent section reports

A section of a document that is absent is still asked for: the properties of a missing node are
missing nodes, so a map schema goes on with each of its entries as if it had a map before it.  A
sequence schema does not, since a missing node has no elements.  What comes of it can be read off
the schema alone.  `Schema.requiredWays` lists the names that lead to its required leaves through
maps, in the order in which they are written, and by `issues_missing` each of them is reported
once.

`mem_requiredWays_iff` ties this list to `Schema.Governs`, the relation of a schema and the schemas
inside of it that the statements about places use.
-/

namespace MtaCheck

open Check

namespace Schema

/-! ## Required leaves -/

/-- A schema that is a leaf and has to be there. -/
structure IsRequiredLeaf (schema : Node) : Prop where
  not_map : (schema.get "type").text? ≠ some "map"
  not_sequence : (schema.get "type").text? ≠ some "seq"
  required : schema.get "required" = .scalar (.truth true)

/-- Whether a leaf has to be there. -/
def isRequired (schema : Node) : Bool :=
  match schema.get "required" with
  | .scalar (.truth true) => true
  | _ => false

/-- The names that lead to the required leaves of a schema.  Nothing leads through a sequence. -/
def requiredWays (schema : Node) : List (List String) :=
  match (schema.get "type").text? with
  | some "map" =>
      (schema.get "mapping").entries.attach.flatMap fun ⟨(key, sub), _⟩ =>
        (requiredWays sub).map fun names => key :: names
  | some "seq" => []
  | _ => if isRequired schema then [[]] else []
termination_by schema.weight
decreasing_by
  rename_i hmem
  have hentry := Node.weight_lt_of_mem_entries hmem
  have hmapping := schema.weight_get_le "mapping"
  omega

variable {schema : Node}

theorem isRequired_iff :
    isRequired schema = true ↔ schema.get "required" = .scalar (.truth true) := by
  unfold isRequired
  constructor
  · intro hrequired
    split at hrequired
    · assumption
    · cases hrequired
  · intro hrequired
    rw [hrequired]

theorem requiredWays_of_map (htype : (schema.get "type").text? = some "map") :
    requiredWays schema =
      (schema.get "mapping").entries.flatMap fun entry =>
        (requiredWays entry.2).map fun names => entry.1 :: names := by
  rw [requiredWays, htype]
  simp only [List.flatMap_def, List.map_attach_eq_pmap, List.pmap_eq_map]

theorem requiredWays_of_sequence (htype : (schema.get "type").text? = some "seq") :
    requiredWays schema = [] := by
  rw [requiredWays, htype]
  simp only

theorem requiredWays_of_leaf (hmap : (schema.get "type").text? ≠ some "map")
    (hsequence : (schema.get "type").text? ≠ some "seq") :
    requiredWays schema = if isRequired schema then [[]] else [] := by
  rw [requiredWays]
  split
  · contradiction
  · contradiction
  · rfl

/-! ## The ways are those of the places -/

/-- Names lead only through maps. -/
theorem governs_name_iff {name : String} {names : List String} {target : Node} :
    Governs schema ((name :: names).map .name) target ↔
      (schema.get "type").text? = some "map" ∧
        ∃ sub, (name, sub) ∈ (schema.get "mapping").entries ∧
          Governs sub (names.map .name) target := by
  constructor
  · intro hgoverns
    cases hgoverns with
    | name htype hentry hrest => exact ⟨htype, _, hentry, hrest⟩
  · rintro ⟨htype, sub, hentry, hrest⟩
    exact .name htype hentry hrest

theorem governs_nil_iff {target : Node} : Governs schema [] target ↔ target = schema := by
  constructor
  · intro hgoverns
    cases hgoverns
    rfl
  · rintro rfl
    exact .here

/-- Names do not lead further than to a schema that is no map. -/
theorem governs_names_iff_of_not_map (hmap : (schema.get "type").text? ≠ some "map")
    {names : List String} {target : Node} :
    Governs schema (names.map .name) target ↔ names = [] ∧ target = schema := by
  cases names with
  | nil => simp [governs_nil_iff]
  | cons name names =>
      rw [governs_name_iff]
      simp [hmap]

/-- The list of the ways has just those in it that lead to a required leaf. -/
theorem mem_requiredWays_iff (schema : Node) : ∀ names : List String,
    names ∈ requiredWays schema ↔
      ∃ leaf, Governs schema (names.map .name) leaf ∧ IsRequiredLeaf leaf := by
  induction schema using Node.schemaInduction with
  | map schema htype ih =>
      intro names
      rw [requiredWays_of_map htype, List.mem_flatMap]
      cases names with
      | nil =>
          -- the map itself is no leaf, and no way through it is empty
          simp only [List.map_nil, governs_nil_iff]
          constructor
          · rintro ⟨entry, -, hnames⟩
            simp at hnames
          · rintro ⟨leaf, rfl, hleaf⟩
            exact absurd htype hleaf.not_map
      | cons name names =>
          simp only [governs_name_iff]
          constructor
          · rintro ⟨⟨key, sub⟩, hentry, hnames⟩
            obtain ⟨rest, hrest, hcons⟩ := List.mem_map.mp hnames
            obtain ⟨rfl, rfl⟩ := List.cons.inj hcons
            obtain ⟨leaf, hgoverns, hleaf⟩ := (ih _ hentry rest).mp hrest
            exact ⟨leaf, ⟨htype, sub, hentry, hgoverns⟩, hleaf⟩
          · rintro ⟨leaf, ⟨-, sub, hentry, hgoverns⟩, hleaf⟩
            have hrest := (ih _ hentry names).mpr ⟨leaf, hgoverns, hleaf⟩
            exact ⟨(name, sub), hentry, List.mem_map_of_mem hrest⟩
  | sequence schema htype ih =>
      intro names
      have hmap : (schema.get "type").text? ≠ some "map" := by simp [htype]
      rw [requiredWays_of_sequence htype]
      simp only [governs_names_iff_of_not_map hmap]
      constructor
      · intro hnames
        cases hnames
      · rintro ⟨leaf, ⟨-, rfl⟩, hleaf⟩
        exact absurd htype hleaf.not_sequence
  | leaf schema hmap hsequence =>
      intro names
      rw [requiredWays_of_leaf hmap hsequence]
      simp only [governs_names_iff_of_not_map hmap]
      constructor
      · intro hnames
        split at hnames
        · rename_i hrequired
          exact ⟨schema, ⟨List.mem_singleton.mp hnames, rfl⟩, hmap, hsequence,
            isRequired_iff.mp hrequired⟩
        · cases hnames
      · rintro ⟨leaf, ⟨rfl, rfl⟩, hleaf⟩
        rw [if_pos (isRequired_iff.mpr hleaf.required)]
        exact List.mem_singleton_self _

end Schema

/-! ## The report -/

/-- The rules of a leaf say the same as its document. -/
theorem Rules.required_eq_iff {schema : Node} {rules : Rules}
    (hread : Rules.ofNode schema = .ok rules) :
    rules.required = some true ↔ Schema.isRequired schema = true := by
  obtain ⟨-, -, hrequired⟩ := ofNode_eq_ok hread
  rw [Schema.isRequired_iff]
  rcases readRequired_cases hrequired with ⟨hnode, hvalue⟩ | ⟨value, hnode, hvalue⟩
  · simp [hnode, hvalue]
  · simp [hnode, hvalue]

namespace CompiledSchema

open Schema (Governs IsRequiredLeaf requiredWays requiredWays_of_map requiredWays_of_sequence
  requiredWays_of_leaf mem_requiredWays_iff)

/-- Of a missing node each required leaf is reported that names lead to, and nothing else. -/
theorem issues_missing (schema : Node) (hvalid : (ofNode schema).isValid = true) :
    ∀ location, (ofNode schema).issues .missing location =
      (requiredWays schema).map (absence location) := by
  induction schema, hvalid using validInduction with
  | map schema htype hvalid ih =>
      intro location
      -- every entry is asked about a missing node, one name further down
      have hentries : ∀ entry ∈ (schema.get "mapping").entries,
          (ofNode entry.2).issues .missing (location.child entry.1) =
            ((requiredWays entry.2).map fun names => entry.1 :: names).map (absence location) := by
        intro entry hentry
        rw [List.map_map]
        exact ih entry hentry (location.child entry.1)
      calc (ofNode schema).issues .missing location
          = (schema.get "mapping").entries.flatMap fun entry =>
              (ofNode entry.2).issues .missing (location.child entry.1) := by
            rw [issues_of_map htype hvalid, Demand.accepts_missing]
            rfl
        _ = (schema.get "mapping").entries.flatMap fun entry =>
              ((requiredWays entry.2).map fun names => entry.1 :: names).map
                (absence location) := by
            rw [List.flatMap_def, List.flatMap_def, List.map_congr_left hentries]
        _ = (requiredWays schema).map (absence location) := by
            rw [requiredWays_of_map htype, List.map_flatMap]
  | sequence schema item htype hitem hvalid _ _ =>
      intro location
      rw [issues_of_sequence htype hitem hvalid, requiredWays_of_sequence htype,
        Demand.accepts_missing]
      rfl
  | leaf schema rules hmap hsequence hvalid hrules hissues =>
      intro location
      rw [hissues, Rules.issues_missing, requiredWays_of_leaf hmap hsequence]
      simp only [Rules.required_eq_iff hrules]
      split <;> rfl

/-- **What an absent section reports.**  On a missing node a valid schema reports once, and in
their order, each required leaf that names lead to through maps, at the place that these names
lead to.  So nothing is reported of an absent section just if there is no such leaf, and never
of an absent sequence, whatever its elements have to have. -/
theorem evaluateAll_missing (schema : Node) (hvalid : (ofNode schema).isValid = true)
    (location : Location) :
    evaluateAll (ofNode schema).checks .missing location =
        (requiredWays schema).map (fun names =>
          Issue.finding (location.follow (names.map .name)) .missing) ∧
      (evaluateAll (ofNode schema).checks .missing location).map Issue.message =
        (requiredWays schema).map (fun names =>
          "Missing required property <" ++ (location.follow (names.map .name)).leaf?.getD ""
            ++ "> in <" ++ (location.follow (names.map .name)).parent.display ++ ">") ∧
      (∀ names : List String, names ∈ requiredWays schema ↔
        ∃ leaf, Governs schema (names.map .name) leaf ∧ IsRequiredLeaf leaf) ∧
      (evaluateAll (ofNode schema).checks .missing location = [] ↔
        ∀ (names : List String) (leaf : Node), Governs schema (names.map .name) leaf →
          ¬ IsRequiredLeaf leaf) ∧
      ((schema.get "type").text? = some "seq" →
        evaluateAll (ofNode schema).checks .missing location = []) := by
  have hreport : evaluateAll (ofNode schema).checks .missing location =
      (requiredWays schema).map (absence location) := issues_missing schema hvalid location
  refine ⟨hreport, ?_, mem_requiredWays_iff schema, ?_, ?_⟩
  · rw [hreport, List.map_map]
    exact List.map_congr_left fun names _ => message_absence location names
  · rw [hreport, List.map_eq_nil_iff, List.eq_nil_iff_forall_not_mem]
    constructor
    · intro hnone names leaf hgoverns hleaf
      exact hnone names ((mem_requiredWays_iff schema names).mpr ⟨leaf, hgoverns, hleaf⟩)
    · intro hnone names hnames
      obtain ⟨leaf, hgoverns, hleaf⟩ := (mem_requiredWays_iff schema names).mp hnames
      exact hnone names leaf hgoverns hleaf
  · intro htype
    rw [hreport, requiredWays_of_sequence htype]
    rfl

/-- A map with two required leaves at different depths and a third one below a sequence. -/
def deliverySchema : Node :=
  .ofValue (.mapping [(.text "type", .text "map"), (.text "mapping", .mapping [
    (.text "to", .mapping [(.text "type", .text "map"), (.text "mapping", .mapping [
      (.text "city", .mapping [(.text "required", .truth true), (.text "type", .text "enum"),
        (.text "enums", .sequence [.text "Rome", .text "Oslo"])]),
      (.text "note", .mapping [(.text "required", .truth false)])])]),
    (.text "parts", .mapping [(.text "type", .text "seq"), (.text "sequence", .sequence [
      .mapping [(.text "required", .truth true)]])]),
    (.number (.whole 7), .mapping [(.text "required", .truth true)])])])

/-- A delivery that is absent from an order: its two leaves are reported, its parts are not. -/
theorem evaluateAll_missing_delivery :
    (ofNode deliverySchema).isValid = true ∧
      (evaluateAll (ofNode deliverySchema).checks .missing (Location.root.child "order")).map
          Issue.message =
        ["Missing required property <city> in <order.to>",
          "Missing required property <7> in <root.order>"] := by
  have hvalid : (ofNode deliverySchema).isValid = true := by decide +kernel
  obtain ⟨-, hmessages, -⟩ :=
    evaluateAll_missing deliverySchema hvalid (Location.root.child "order")
  refine ⟨hvalid, ?_⟩
  rw [hmessages]
  decide +kernel

end CompiledSchema

end MtaCheck
