import MtaCheck.Proofs.Validation.Readable

/-!
# The modules of both readers

The checks of the schema and the comparison with the project both look at the modules of a
descriptor.  By `accepted_modules` they have the same number of them, in the same order, but
the second reader takes names and paths as they are written (`Shows`), where the checks go by
what they mean.  So the two agree on a module just if nothing in it is written in another way
than its literal form, which `Respelled` spells out.
-/

namespace MtaCheck

open Yaml (Document Item Tree Value)
open Yaml.Resolution (isNull truth?)

/-! ## Fields as they are written -/

/-- What a field comes to that is written at most once. -/
theorem field_of_foldlM {σ β : Type} {put? : String → σ → Tree → Option σ} {field : String}
    (get : σ → Option β) (means : Tree → Option β)
    (hput : ∀ {state value following}, put? field state value = some following →
      get following = means value)
    (hother : ∀ {name}, name ≠ field → ∀ {state value following},
      put? name state value = some following → get following = get state)
    {entries : List (Tree × Tree)} {state last : σ}
    (hfold : entries.foldlM (Tree.withEntry put?) state = some last) :
    (Tree.valuesOf field entries = [] → get last = get state) ∧
      ∀ value, Tree.valuesOf field entries = [value] → get last = means value := by
  -- entries under other names leave the field alone, so only the one under its name counts
  induction entries generalizing state with
  | nil =>
      cases hfold
      exact ⟨fun _ => rfl, by simp [Tree.valuesOf]⟩
  | cons entry entries ih =>
      obtain ⟨key, value⟩ := entry
      rw [List.foldlM_cons, Option.bind_eq_bind, Option.bind_eq_some_iff] at hfold
      obtain ⟨following, hentry, hrest⟩ := hfold
      rw [Tree.withEntry, Option.bind_eq_some_iff] at hentry
      obtain ⟨name, hname, hfollowing⟩ := hentry
      obtain ⟨hnone, hone⟩ := ih hrest
      rw [valuesOf_cons hname]
      by_cases hfield : name = field
      · subst hfield
        rw [if_pos rfl]
        refine ⟨by simp, fun found hfound => ?_⟩
        obtain ⟨rfl, hnil⟩ := List.cons_eq_cons.mp hfound
        rw [hnone hnil, hput hfollowing]
      · rw [if_neg hfield]
        refine ⟨fun hnil => ?_, hone⟩
        rw [hnone hnil, hother hfield hfollowing]

/-- What is written, what is seen of it as a node, and the text that is read: a scalar with
this text, or nothing, which is read as the empty text. -/
inductive Shows : List Tree → Node → String → Prop
  | absent : Shows [] .missing ""
  | scalar {written : Yaml.Scalar} {node : Node} (hdenotes : Denotes written node) :
      Shows [.scalar written] node written.text

theorem Shows.isScalarNode {written : List Tree} {node : Node} {text : String}
    (hshows : Shows written node text) : IsScalarNode text node := by
  cases hshows with
  | absent => exact .null (.inl rfl)
  | scalar hdenotes => exact hdenotes.isScalarNode

/-- What a field that is a text is read as. -/
theorem shows_of_fillable {word : String} (hword : IsWord word) {entries : List (Tree × Tree)}
    {tagged : Bool} {values : List (Value × Value)}
    (hvalues : Tree.entryValues? entries tagged = some values)
    (hfillable : Fillable false IsText (Tree.valuesOf word entries)) {found : Option String}
    (hfound : (Tree.valuesOf word entries = [] → found = none) ∧
      ∀ value, Tree.valuesOf word entries = [value] → found = value.text?) :
    Shows (Tree.valuesOf word entries) ((Node.map values).get word) (found.getD "") := by
  rcases hfillable with hnil | ⟨value, hvalue, -, text, htext⟩
  · rw [get_eq_missing hword hvalues hnil, hfound.1 hnil, hnil]
    exact .absent
  · obtain ⟨seen, hseen, hget⟩ := exists_get_of_mem hword hvalues
      (by rw [hvalue]; exact Nat.lt_irrefl 1) (by rw [hvalue]; exact List.mem_singleton_self value)
    rw [hget, hfound.2 value hvalue, hvalue]
    cases value with
    | scalar written => exact .scalar (denotes_ofValue hseen)
    | sequence tag items => cases htext
    | mapping tag entries => cases htext

/-! ## Modules as both readers have them -/

/-- A module as it is written, as the checks see it and as it is read: its name and its path
are read as they are written. -/
inductive SeesModule : Tree → Node → Module → Prop
  | fields {tag : Option Yaml.TagOctets} {entries : List (Tree × Tree)} {element : Node}
      {module : Module}
      (hname : Shows (Tree.valuesOf "name" entries) (element.get "name") module.name)
      (hpath : Shows (Tree.valuesOf "path" entries) (element.get "path") module.path) :
      SeesModule (.mapping tag entries) element module

/-- The modules of a descriptor as they are written, as the checks see them and as they are
read, in the same order. -/
inductive SeesModules : List Tree → List Node → List Module → Prop
  | nil : SeesModules [] [] []
  | cons {item : Tree} {items : List Tree} {element : Node} {elements : List Node}
      {module : Module} {modules : List Module} (hfirst : SeesModule item element module)
      (hrest : SeesModules items elements modules) :
      SeesModules (item :: items) (element :: elements) (module :: modules)

theorem Module.Fields.text?_of_put? {field : String} (hfield : field ∈ ["name", "path"])
    {fields following : Module.Fields} {value : Tree}
    (hput : put? field fields value = some following) : following.text? field = value.text? := by
  obtain ⟨text, htext, hfollowing⟩ := exists_text_of_put? hfield hput
  rw [hfollowing, if_pos rfl, htext]

theorem Module.Fields.text?_of_put?_of_ne {field other : String} (hother : other ≠ field)
    {fields following : Module.Fields} {value : Tree}
    (hput : put? other fields value = some following) :
    following.text? field = fields.text? field := by
  by_cases hfield : other ∈ ["name", "path"]
  · obtain ⟨text, -, hfollowing⟩ := exists_text_of_put? hfield hput
    rw [hfollowing, if_neg hother.symm]
  · rw [putsOnce_module.other hfield] at hput
    cases hput
    rfl

/-- A module has under its fields what is written under them. -/
theorem Module.Fields.text?_of_foldlM {field : String} (hfield : field ∈ ["name", "path"])
    {entries : List (Tree × Tree)} {last : Module.Fields}
    (hfold : entries.foldlM (Tree.withEntry put?) ⟨none, none⟩ = some last) :
    (Tree.valuesOf field entries = [] → last.text? field = none) ∧
      ∀ value, Tree.valuesOf field entries = [value] → last.text? field = value.text? := by
  have hempty : text? ⟨none, none⟩ field = none := by
    simp only [text?, ite_self]
  rw [← hempty]
  exact field_of_foldlM (·.text? field) Tree.text? (text?_of_put? hfield)
    (fun hother => text?_of_put?_of_ne hother) hfold

theorem seesModule_of_ofTree? {tree : Tree} {tagged : Bool} {value : Value} {module : Module}
    (hvalue : tree.value? tagged = some value) (hmap : (Node.ofValue value).isMap = true)
    (hread : Module.ofTree? tree = some module) : SeesModule tree (.ofValue value) module := by
  obtain ⟨tag, entries, below, values, rfl, hvalues, hnode⟩ := exists_mapping_of_isMap hvalue hmap
  have hmodule : IsModule (.mapping tag entries) := by
    rw [← isSome_module_iff, hread]
    rfl
  obtain ⟨fields, hfold, rfl⟩ := Option.map_eq_some_iff.mp hread
  cases hmodule with
  | fields hkeys hname hpath =>
      refine .fields ?_ ?_
      · rw [hnode]
        exact shows_of_fillable (isWord_field (by simp)) hvalues hname
          (Module.Fields.text?_of_foldlM (by simp) hfold)
      · rw [hnode]
        exact shows_of_fillable (isWord_field (by simp)) hvalues hpath
          (Module.Fields.text?_of_foldlM (by simp) hfold)

theorem seesModules_of_mapM {items : List Tree} {values : List Value} {modules : List Module}
    (hvalues : Tree.itemValues? items = some values)
    (hmaps : ∀ value ∈ values, (Node.ofValue value).isMap = true)
    (hread : items.mapM Module.ofTree? = some modules) :
    SeesModules items (values.map .ofValue) modules := by
  have hpairs := forall₂_itemValues hvalues
  clear hvalues
  induction hpairs generalizing modules with
  | nil =>
      cases hread
      exact .nil
  | cons hvalue _ ih =>
      rw [List.forall_mem_cons] at hmaps
      simp only [List.mapM_cons, Option.bind_eq_bind, Option.bind_eq_some_iff, Option.pure_def,
        Option.some_inj] at hread
      obtain ⟨module, hmodule, rest, hrest, rfl⟩ := hread
      exact .cons (seesModule_of_ofTree? hvalue hmaps.1 hmodule) (ih hmaps.2 hrest)

/-- A sequence of modules is read, and both readers have the same of it. -/
theorem exists_modules_of_sequence {tag : Option Yaml.TagOctets} {items : List Tree} {tagged : Bool}
    {value : Value} (hvalue : (Tree.sequence tag items).value? tagged = some value)
    (haccepted : (Node.ofValue value).MissingOr (Node.IsSequenceOf Node.IsModule))
    (hitems : ∀ item ∈ items, IsModule item) :
    ∃ modules, items.mapM Module.ofTree? = some modules ∧
      SeesModules items (Node.ofValue value).elements modules := by
  obtain ⟨values, hvalues, hnode⟩ := ofValue_sequence hvalue
  rw [hnode] at haccepted ⊢
  have hmaps : ∀ value ∈ values, (Node.ofValue value).isMap = true := by
    rcases haccepted with hmissing | ⟨-, hall⟩
    · cases hmissing
    · intro value hmem
      exact (hall _ (List.mem_map_of_mem hmem)).isMap
  have hsome : (items.mapM Module.ofTree?).isSome = true :=
    isSome_mapM_iff.mpr fun item hitem => (isSome_module_iff item).mpr (hitems item hitem)
  obtain ⟨modules, hread⟩ := Option.isSome_iff_exists.mp hsome
  exact ⟨modules, hread, seesModules_of_mapM hvalues hmaps hread⟩

/-- The modules of a descriptor as they are written. -/
def writtenModules : Tree → List Tree
  | .mapping _ entries =>
      match Tree.valuesOf "modules" entries with
      | .sequence _ items :: _ => items
      | _ => []
  | _ => []

theorem Descriptor.modules_of_foldlM {entries : List (Tree × Tree)} {last : Option (List Module)}
    (hfold : entries.foldlM (Tree.withEntry Descriptor.put?) none = some last) :
    (Tree.valuesOf "modules" entries = [] → last = none) ∧
      ∀ value, Tree.valuesOf "modules" entries = [value] →
        last = value.sequence? Module.ofTree? := by
  refine field_of_foldlM id (Tree.sequence? Module.ofTree?) ?_ ?_ hfold
  · intro modules value following hput
    simp only [put?, Option.ite_none_left_eq_some, Option.map_eq_some_iff] at hput
    obtain ⟨-, found, hfound, rfl⟩ := hput
    exact hfound.symm
  · intro field hfield modules value following hput
    rw [put?_of_ne hfield] at hput
    cases hput
    rfl

theorem seesModules_of_ofTree? {tree : Tree} {value : Value} {descriptor : Descriptor}
    (hvalue : tree.value? false = some value) (haccepted : (Node.ofValue value).IsDescriptor)
    (hread : Descriptor.ofTree? tree = some descriptor) :
    SeesModules (writtenModules tree) ((Node.ofValue value).get "modules").elements
      descriptor.modules := by
  obtain ⟨tag, entries, below, values, rfl, hvalues, hnode⟩ :=
    exists_mapping_of_isMap hvalue haccepted.isMap
  have hdescriptor : IsDescriptor (.mapping tag entries) := by
    rw [← isSome_descriptor_iff, hread]
    rfl
  obtain ⟨modules, hfold, rfl⟩ := Option.map_eq_some_iff.mp hread
  obtain ⟨hnone, hone⟩ := Descriptor.modules_of_foldlM hfold
  have hword : IsWord "modules" := isWord_field (by simp)
  have hseen := haccepted.modules
  rw [hnode] at hseen ⊢
  cases hdescriptor with
  | fields hkeys hmodules =>
      rcases hmodules with hnil | ⟨written, hwritten, -, hgood⟩
      · rw [writtenModules, hnil, hnone hnil, get_eq_missing hword hvalues hnil]
        exact .nil
      · obtain ⟨found, hfound, hget⟩ := exists_get_of_mem hword hvalues
          (by rw [hwritten]; exact Nat.lt_irrefl 1)
          (by rw [hwritten]; exact List.mem_singleton_self written)
        rw [hget] at hseen ⊢
        rw [writtenModules, hwritten, hone written hwritten]
        cases hgood with
        | @empty scalar hempty =>
            -- an empty scalar has no node, or else the schema would not accept it
            rcases hseen with hmissing | ⟨hsequence, -⟩
            · rw [hmissing, Tree.sequence?, if_pos hempty]
              exact .nil
            · rw [(denotes_ofValue hfound).isScalarNode.not_collection.2] at hsequence
              cases hsequence
        | @items tag' items hitems =>
            obtain ⟨modules, hmapM, hsees⟩ := exists_modules_of_sequence hfound hseen hitems
            rw [Tree.sequence?, hmapM]
            exact hsees

/-! ## Whether they are the same -/

/-- Both readers have the same module: its name is the literal form of the name that the
checks see, and its place is that of the path that they see, or its name if they see none. -/
def SameModule (element : Node) (module : Module) : Prop :=
  (element.get "name").literal? = some module.name ∧
    module.relativePath =
      match (element.get "path").literal? with
      | some path => if path = "" then module.name else path
      | none => module.name

/-- A module has something that is written in another way than its literal form. -/
inductive Respelled (element : Node) (module : Module) : Prop
  | name {leaf : Leaf} (hnode : element.get "name" = .scalar leaf)
      (hliteral : leaf.literal ≠ module.name)
  | path {leaf : Leaf} (hnode : element.get "path" = .scalar leaf)
      (hliteral : leaf.literal ≠ module.path)
  /-- The path is a word for null, which is read as if it were a path. -/
  | null (hnode : element.get "path" = .missing) (hword : isNull module.path = true)
      (hname : module.path ≠ module.name)

theorem SeesModule.path {item : Tree} {element : Node} {module : Module}
    (hsees : SeesModule item element module) :
    IsScalarNode module.path (element.get "path") := by
  cases hsees with
  | fields _ hpath => exact hpath.isScalarNode

theorem Module.relativePath_of_empty {module : Module} (hpath : module.path = "") :
    module.relativePath = module.name := by
  rw [relativePath, hpath]
  rfl

theorem Module.relativePath_of_ne {module : Module} (hpath : module.path ≠ "") :
    module.relativePath = module.path := by
  rw [relativePath, if_neg (by simpa using hpath)]

theorem ne_empty_of_isNull {text : String} (hnull : isNull text = true) : text ≠ "" := by
  rintro rfl
  cases hnull

theorem ne_empty_of_truth? {text : String} {value : Bool} (htruth : truth? text = some value) :
    text ≠ "" := by
  rintro rfl
  cases htruth

/-- A scalar that is not shown by its text is no text. -/
theorem literal_ne_empty_of_respelled {text : String} {leaf : Leaf}
    (hscalar : IsScalarNode text (.scalar leaf)) (hliteral : leaf.literal ≠ text) :
    text ≠ "" ∧ leaf.literal ≠ "" := by
  cases hscalar with
  | truth htruth =>
      rename_i value
      refine ⟨ne_empty_of_truth? htruth, ?_⟩
      cases value <;> decide
  | number hne => exact ⟨hne, Yaml.Number.literal_ne_empty _⟩
  | text => exact absurd rfl hliteral

theorem SeesModules.eq_nil {items : List Tree} {modules : List Module}
    (hsees : SeesModules items [] modules) : modules = [] := by
  cases hsees
  rfl

theorem SeesModule.not_respelled {item : Tree} {element : Node} {module : Module}
    (hsees : SeesModule item element module) (hsame : SameModule element module) :
    ¬Respelled element module := by
  obtain ⟨hname, hplace⟩ := hsame
  intro hrespelled
  cases hrespelled with
  | name hnode hliteral =>
      rw [hnode] at hname
      exact hliteral (Option.some_inj.mp hname)
  | path hnode hliteral =>
      -- a path that is not shown as it is written is not empty, so it is the place
      rw [hnode] at hplace
      obtain ⟨htext, hshown⟩ := literal_ne_empty_of_respelled (hnode ▸ hsees.path) hliteral
      simp only [Node.literal?, if_neg hshown, Module.relativePath_of_ne htext] at hplace
      exact hliteral hplace.symm
  | null hnode hword hdiffers =>
      rw [hnode] at hplace
      simp only [Node.literal?, Module.relativePath_of_ne (ne_empty_of_isNull hword)] at hplace
      exact hdiffers hplace

theorem SeesModule.same_of_not_respelled {item : Tree} {element : Node} {module : Module}
    (hsees : SeesModule item element module) {accepts : String → Prop}
    (hname : (element.get "name").HasLiteral accepts) (hsound : ¬Respelled element module) :
    SameModule element module := by
  constructor
  · obtain ⟨leaf, hleaf, -⟩ := hname
    rw [hleaf, Node.literal?]
    by_contra hliteral
    exact hsound (.name hleaf fun heq => hliteral (congrArg some heq))
  · have hpath := hsees.path
    cases hnode : element.get "path" with
    | missing =>
        rw [hnode] at hpath
        simp only [Node.literal?]
        cases hpath with
        | null hnull =>
            rcases hnull with hempty | hword
            · exact Module.relativePath_of_empty hempty
            · rw [Module.relativePath_of_ne (ne_empty_of_isNull hword)]
              by_contra hdiffers
              exact hsound (.null hnode hword hdiffers)
    | scalar leaf =>
        have hliteral : leaf.literal = module.path := by
          by_contra hdiffers
          exact hsound (.path hnode hdiffers)
        simp only [Node.literal?, hliteral]
        split
        · rename_i hempty
          exact Module.relativePath_of_empty hempty
        · rename_i hempty
          exact Module.relativePath_of_ne hempty
    | map entries | sequence items =>
        rw [hnode] at hpath
        cases hpath

theorem SeesModules.same_iff {items : List Tree} {elements : List Node} {modules : List Module}
    (hsees : SeesModules items elements modules) {accepts : String → Prop}
    (hnames : ∀ element ∈ elements, (element.get "name").HasLiteral accepts) :
    List.Forall₂ SameModule elements modules ↔
      List.Forall₂ (fun element module => ¬Respelled element module) elements modules := by
  induction hsees with
  | nil => simp
  | cons hfirst _ ih =>
      rw [List.forall_mem_cons] at hnames
      have hsame := Iff.intro hfirst.not_respelled (hfirst.same_of_not_respelled hnames.1)
      rw [List.forall₂_cons, List.forall₂_cons, hsame, ih hnames.2]

theorem name_of_mem_modules {document : Node} (hdescriptor : document.IsDescriptor) {element : Node}
    (hmem : element ∈ (document.get "modules").elements) :
    (element.get "name").HasLiteral IsName := by
  rcases hdescriptor.modules with hmissing | ⟨-, hall⟩
  · rw [hmissing] at hmem
    cases hmem
  · exact (hall element hmem).name

/-- **What both readers have of the modules.**  For a content that the built-in schema accepts
and that is read as a descriptor, the modules of the descriptor are those that the checks
see, one for one and in the same order, and their names and paths are read as they are
written.  The readers have the same modules if and only if no name and no path is written in
another way than its literal form, and no path is a word for null. -/
theorem CompiledSchema.accepted_modules (content : List UInt8) (descriptor : Descriptor)
    (haccepted : CompiledSchema.descriptor.validate content = .ok [])
    (hread : Descriptor.parse content = .ok descriptor) :
    ∃ value tree, Yaml.parse content = .ok value ∧ (Document.ofOctets content).Holds tree ∧
      (((Node.ofValue value).get "modules") = .missing → descriptor.modules = []) ∧
      SeesModules (writtenModules tree) ((Node.ofValue value).get "modules").elements
        descriptor.modules ∧
      (List.Forall₂ SameModule ((Node.ofValue value).get "modules").elements descriptor.modules ↔
        List.Forall₂ (fun element module => ¬Respelled element module)
          ((Node.ofValue value).get "modules").elements descriptor.modules) := by
  obtain ⟨value, tree, hparse, hholds, hvalue, hdescriptor⟩ := exists_tree_of_accepted haccepted
  have hsees := seesModules_of_ofTree? hvalue hdescriptor ((parse_eq_ok_iff hparse hholds).mp hread)
  refine ⟨value, tree, hparse, hholds, fun hmissing => ?_, hsees,
    hsees.same_iff fun element hmem => name_of_mem_modules hdescriptor hmem⟩
  rw [hmissing] at hsees
  exact hsees.eq_nil

/-- What the checks see of the modules of a text that is a descriptor. -/
theorem forall₂_of_isDemoText {modules : List (String × Option String)} {text : String}
    (hdemo : isDemoText (Node.isPlainModules modules) text.toList = true) {value : Value}
    (hparse : Yaml.parse text.toUTF8.toList = .ok value) :
    List.Forall₂ (fun element module => element.isPlainModule module.1 module.2 = true)
      ((Node.ofValue value).get "modules").elements modules := by
  obtain ⟨value', hparse', hvalue⟩ := exists_value_of_isDemoText hdemo
  rw [hparse] at hparse'
  cases hparse'
  simp only [Node.isDemo, Bool.and_eq_true] at hvalue
  exact (Node.forall₂_of_isPlainModules hvalue.1.2).2

theorem same_of_twoModules {value : Value}
    (hparse : Yaml.parse twoModules.toUTF8.toList = .ok value) :
    List.Forall₂ SameModule ((Node.ofValue value).get "modules").elements
      [⟨"ui", "app/ui"⟩, ⟨"srv", ""⟩] := by
  have hpairs := forall₂_of_isDemoText readings.2.2.1 hparse
  obtain ⟨first, rest, hfirst, hrest, helements⟩ := List.forall₂_cons_right_iff.mp hpairs
  obtain ⟨second, rest', hsecond, hrest', rfl⟩ := List.forall₂_cons_right_iff.mp hrest
  obtain rfl := List.forall₂_nil_right_iff.mp hrest'
  obtain ⟨hname, hpath, -⟩ := Node.literals_of_isPlainModule hfirst
  obtain ⟨hname', hpath', -⟩ := Node.literals_of_isPlainModule hsecond
  rw [helements]
  refine .cons ⟨hname, ?_⟩ (.cons ⟨hname', ?_⟩ .nil)
  · rw [hpath]
    rfl
  · rw [hpath']
    rfl

theorem exists_element_of_nullPath {value : Value}
    (hparse : Yaml.parse nullPath.toUTF8.toList = .ok value) :
    ∃ element, ((Node.ofValue value).get "modules").elements = [element] ∧
      (element.get "name").literal? = some "ui" ∧ element.get "path" = .missing := by
  have hpairs := forall₂_of_isDemoText readings.2.1.1 hparse
  obtain ⟨element, rest, helement, hrest, helements⟩ := List.forall₂_cons_right_iff.mp hpairs
  obtain rfl := List.forall₂_nil_right_iff.mp hrest
  obtain ⟨hname, -, hmissing⟩ := Node.literals_of_isPlainModule helement
  exact ⟨element, helements, hname, hmissing rfl⟩

theorem not_same_of_nullPath {value : Value}
    (hparse : Yaml.parse nullPath.toUTF8.toList = .ok value) :
    ¬List.Forall₂ SameModule ((Node.ofValue value).get "modules").elements [⟨"ui", "~"⟩] := by
  obtain ⟨element, helements, -, hpath⟩ := exists_element_of_nullPath hparse
  rw [helements]
  rintro (_ | ⟨⟨-, hplace⟩, -⟩)
  rw [hpath] at hplace
  exact absurd hplace (by decide)

/-- Of two modules, one of them without a path, both readers have the same; but not of a module
whose path is a word for null, which the checks do not see. -/
theorem CompiledSchema.accepted_modules_twoModules_nullPath :
    (CompiledSchema.descriptor.validate twoModules.toUTF8.toList = .ok [] ∧
      Descriptor.parse twoModules.toUTF8.toList = .ok ⟨[⟨"ui", "app/ui"⟩, ⟨"srv", ""⟩]⟩ ∧
      ∃ value tree, Yaml.parse twoModules.toUTF8.toList = .ok value ∧
        (Document.ofOctets twoModules.toUTF8.toList).Holds tree ∧
        (Node.ofValue value).get "modules" ≠ .missing ∧
        SeesModules (writtenModules tree) ((Node.ofValue value).get "modules").elements
          [⟨"ui", "app/ui"⟩, ⟨"srv", ""⟩] ∧
        List.Forall₂ SameModule ((Node.ofValue value).get "modules").elements
          [⟨"ui", "app/ui"⟩, ⟨"srv", ""⟩] ∧
        List.Forall₂ (fun element module => ¬Respelled element module)
          ((Node.ofValue value).get "modules").elements [⟨"ui", "app/ui"⟩, ⟨"srv", ""⟩]) ∧
    (CompiledSchema.descriptor.validate nullPath.toUTF8.toList = .ok [] ∧
      Descriptor.parse nullPath.toUTF8.toList = .ok ⟨[⟨"ui", "~"⟩]⟩ ∧
      ∃ value tree, Yaml.parse nullPath.toUTF8.toList = .ok value ∧
        (Document.ofOctets nullPath.toUTF8.toList).Holds tree ∧
        (Node.ofValue value).get "modules" ≠ .missing ∧
        SeesModules (writtenModules tree) ((Node.ofValue value).get "modules").elements
          [⟨"ui", "~"⟩] ∧
        ¬List.Forall₂ SameModule ((Node.ofValue value).get "modules").elements [⟨"ui", "~"⟩] ∧
        ¬List.Forall₂ (fun element module => ¬Respelled element module)
          ((Node.ofValue value).get "modules").elements [⟨"ui", "~"⟩]) := by
  constructor
  · obtain ⟨value, tree, hparse, hholds, hmissing, hsees, hsame⟩ :=
      accepted_modules _ _ accepted_twoModules parse_twoModules
    have hboth := same_of_twoModules hparse
    exact ⟨accepted_twoModules, parse_twoModules, value, tree, hparse, hholds,
      fun hnone => List.cons_ne_nil _ _ (hmissing hnone), hsees, hboth, hsame.mp hboth⟩
  · obtain ⟨value, tree, hparse, hholds, hmissing, hsees, hsame⟩ :=
      accepted_modules _ _ accepted_nullPath parse_nullPath
    have hdiffers := not_same_of_nullPath hparse
    exact ⟨accepted_nullPath, parse_nullPath, value, tree, hparse, hholds,
      fun hnone => List.cons_ne_nil _ _ (hmissing hnone), hsees, hdiffers, mt hsame.mpr hdiffers⟩

/-- **A module with two places.**  The checks see no path, so that the module is under its
name; the project is asked for a directory `~`. -/
theorem CompiledSchema.accepted_modules_differ :
    ∃ value descriptor, CompiledSchema.descriptor.validate nullPath.toUTF8.toList = .ok [] ∧
      Yaml.parse nullPath.toUTF8.toList = .ok value ∧
      Descriptor.parse nullPath.toUTF8.toList = .ok descriptor ∧
      (∃ element, ((Node.ofValue value).get "modules").elements = [element] ∧
        (element.get "name").literal? = some "ui" ∧ element.get "path" = .missing) ∧
      descriptor.modules.map Module.relativePath = ["~"] ∧
      ¬List.Forall₂ SameModule ((Node.ofValue value).get "modules").elements
        descriptor.modules := by
  obtain ⟨value, hparse, -⟩ := exists_value_of_isDemoText readings.2.1.1
  exact ⟨value, ⟨[⟨"ui", "~"⟩]⟩, accepted_nullPath, hparse, parse_nullPath,
    exists_element_of_nullPath hparse, rfl, not_same_of_nullPath hparse⟩

end MtaCheck
