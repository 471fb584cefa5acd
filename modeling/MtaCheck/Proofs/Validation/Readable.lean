import MtaCheck.Proofs.Node.Spelling
import MtaCheck.Proofs.Schema.Descriptors
import MtaCheck.Proofs.Validation.Modes
import MtaCheck.Proofs.Yaml.Unique

/-!
# Whether what the schema accepts can be read

Two readers go over a descriptor.  The checks of the schema see a node, the comparison with
the project has a `Descriptor`, and the second reader is stricter in some points about which
the schema says nothing.  `DescriptorFault` lists them, and `accepted_readable_iff` shows that
there are no others: a document that the built-in schema accepts is read as a descriptor just
if it has none of these faults.

One of them is `modules: ~`.  For the checks there are no modules then; the second reader
takes only a scalar without any character for an empty list.
-/

namespace MtaCheck

open Yaml (Document Item Tree Value)
open Yaml.Resolution (isNull truth?)

/-! ## What the second reader cannot take -/

/-- What is wrong with a module that the schema accepts. -/
inductive ModuleFault : Tree → Prop
  /-- A key is a collection. -/
  | key {tag : Option Yaml.TagOctets} {entries : List (Tree × Tree)} {entry : Tree × Tree}
      (hentry : entry ∈ entries) (hkey : ¬IsText entry.1) : ModuleFault (.mapping tag entries)
  /-- A field is written twice, with different tags. -/
  | twice {tag : Option Yaml.TagOctets} {entries : List (Tree × Tree)} {field : String}
      (hfield : field ∈ ["name", "path"]) (htwice : 1 < (Tree.valuesOf field entries).length) :
      ModuleFault (.mapping tag entries)
  /-- The path, of which the schema demands nothing, is a collection. -/
  | path {tag : Option Yaml.TagOctets} {entries : List (Tree × Tree)} {value : Tree}
      (hvalue : value ∈ Tree.valuesOf "path" entries) (htext : ¬IsText value) :
      ModuleFault (.mapping tag entries)

/-- What is wrong with a descriptor that the schema accepts. -/
inductive DescriptorFault : Tree → Prop
  /-- A key is a collection. -/
  | key {tag : Option Yaml.TagOctets} {entries : List (Tree × Tree)} {entry : Tree × Tree}
      (hentry : entry ∈ entries) (hkey : ¬IsText entry.1) : DescriptorFault (.mapping tag entries)
  /-- The modules are written twice, with different tags. -/
  | twice {tag : Option Yaml.TagOctets} {entries : List (Tree × Tree)}
      (htwice : 1 < (Tree.valuesOf "modules" entries).length) :
      DescriptorFault (.mapping tag entries)
  /-- The modules are a word for null. -/
  | null {tag : Option Yaml.TagOctets} {entries : List (Tree × Tree)} {written : Yaml.Scalar}
      (hvalue : .scalar written ∈ Tree.valuesOf "modules" entries)
      (hwritten : (Item.scalar written).isEmpty = false) : DescriptorFault (.mapping tag entries)
  /-- There is something wrong with a module. -/
  | module {tag tag' : Option Yaml.TagOctets} {entries : List (Tree × Tree)} {items : List Tree}
      {item : Tree} (hvalue : .sequence tag' items ∈ Tree.valuesOf "modules" entries)
      (hitem : item ∈ items) (hfault : ModuleFault item) : DescriptorFault (.mapping tag entries)

theorem fillable_iff {good : Tree → Prop} {values : List Tree} :
    Fillable false good values ↔ ¬1 < values.length ∧ ∀ value ∈ values, good value := by
  match values with
  | [] => simp [fillable_nil]
  | [value] => simp [fillable_cons]
  | first :: second :: values => simp [fillable_cons]

theorem IsModule.not_fault {tree : Tree} (hmodule : IsModule tree) : ¬ModuleFault tree := by
  intro hfault
  cases hmodule with
  | empty hempty => cases hfault
  | fields hkeys hname hpath =>
      rw [fillable_iff] at hname hpath
      cases hfault with
      | key hentry hkey => exact hkey (hkeys _ hentry)
      | path hvalue htext => exact htext (hpath.2 _ hvalue)
      | twice hfield htwice =>
          simp only [List.mem_cons, List.not_mem_nil, or_false] at hfield
          rcases hfield with rfl | rfl
          · exact hname.1 htwice
          · exact hpath.1 htwice

theorem IsDescriptor.not_fault {tree : Tree} (hdescriptor : IsDescriptor tree) :
    ¬DescriptorFault tree := by
  intro hfault
  cases hdescriptor with
  | empty hempty => cases hfault
  | fields hkeys hmodules =>
      rw [fillable_iff] at hmodules
      cases hfault with
      | key hentry hkey => exact hkey (hkeys _ hentry)
      | twice htwice => exact hmodules.1 htwice
      | null hvalue hwritten =>
          cases hmodules.2 _ hvalue with
          | empty hempty =>
              rw [hwritten] at hempty
              cases hempty
      | module hvalue hitem hfault =>
          cases hmodules.2 _ hvalue with
          | items hitems => exact (hitems _ hitem).not_fault hfault

/-- The fields that the second reader asks for are written only as themselves. -/
theorem isWord_field {field : String} (hfield : field ∈ ["modules", "name", "path"]) :
    IsWord field := by
  simp only [List.mem_cons, List.not_mem_nil, or_false] at hfield
  constructor
  case plain => rcases hfield with rfl | rfl | rfl <;> rfl
  case tagged => rcases hfield with rfl | rfl | rfl <;> (intro standard; cases standard <;> rfl)
  case no_truth => rcases hfield with rfl | rfl | rfl <;> decide
  case no_number => rcases hfield with rfl | rfl | rfl <;> decide

section Accepted

variable {tree : Tree} {value : Value}

theorem isModule_iff_not_fault (hvalue : tree.value? false = some value)
    (haccepted : (Node.ofValue value).IsModule) : IsModule tree ↔ ¬ModuleFault tree := by
  refine ⟨IsModule.not_fault, fun hsound => ?_⟩
  obtain ⟨tag, entries, below, values, rfl, hvalues, hnode⟩ :=
    exists_mapping_of_isMap hvalue haccepted.isMap
  refine .fields ?keys ?name ?path
  case keys =>
    intro entry hentry
    by_contra hkey
    exact hsound (.key hentry hkey)
  case name =>
    have hlength : ¬1 < (Tree.valuesOf "name" entries).length :=
      fun htwice => hsound (.twice (by simp) htwice)
    refine fillable_iff.mpr ⟨hlength, fun name hname => ?_⟩
    obtain ⟨nameValue, hnameValue, hget⟩ :=
      exists_get_of_mem (isWord_field (by simp)) hvalues hlength hname
    obtain ⟨leaf, hleaf, -⟩ := haccepted.name
    rw [hnode, hget] at hleaf
    obtain ⟨written, rfl, -⟩ := exists_scalar_of_not_collection hnameValue (by rw [hleaf]; rfl)
      (by rw [hleaf]; rfl)
    exact ⟨written.text, rfl⟩
  case path =>
    refine fillable_iff.mpr ⟨fun htwice => hsound (.twice (by simp) htwice), fun path hpath => ?_⟩
    by_contra htext
    exact hsound (.path hpath htext)

theorem isDescriptor_iff_not_fault (hvalue : tree.value? false = some value)
    (haccepted : (Node.ofValue value).IsDescriptor) : IsDescriptor tree ↔ ¬DescriptorFault tree := by
  refine ⟨IsDescriptor.not_fault, fun hsound => ?_⟩
  obtain ⟨tag, entries, below, values, rfl, hvalues, hnode⟩ :=
    exists_mapping_of_isMap hvalue haccepted.isMap
  refine .fields ?keys ?modules
  case keys =>
    intro entry hentry
    by_contra hkey
    exact hsound (.key hentry hkey)
  case modules =>
    -- written only once, the modules that are read are those that the schema has accepted
    have hlength : ¬1 < (Tree.valuesOf "modules" entries).length :=
      fun htwice => hsound (.twice htwice)
    refine fillable_iff.mpr ⟨hlength, fun modules hmodules => ?_⟩
    obtain ⟨modulesValue, hmodulesValue, hget⟩ :=
      exists_get_of_mem (isWord_field (by simp)) hvalues hlength hmodules
    have hseen := haccepted.modules
    rw [hnode, hget] at hseen
    rcases hseen with hmissing | ⟨hsequence, hall⟩
    · obtain ⟨written, rfl, -⟩ := exists_scalar_of_not_collection hmodulesValue
        (by rw [hmissing]; rfl) (by rw [hmissing]; rfl)
      refine .empty ?_
      by_contra hwritten
      exact hsound (.null hmodules (Bool.eq_false_iff.mpr hwritten))
    · obtain ⟨tag', items, itemValues, rfl, hitemValues, hitems⟩ :=
        exists_sequence_of_isSequence hmodulesValue hsequence
      refine .items fun item hitem => ?_
      obtain ⟨index, hindex, rfl⟩ := List.getElem_of_mem hitem
      have hpairs := forall₂_itemValues hitemValues
      have hitemValue := hpairs.get hindex (hpairs.length_eq ▸ hindex)
      refine (isModule_iff_not_fault hitemValue (hall _ ?_)).mpr fun hfault =>
        hsound (.module hmodules hitem hfault)
      rw [hitems, Node.elements]
      exact List.mem_map_of_mem (List.getElem_mem _)

/-- A content of which the schema reports nothing holds one tree, whose node is a
descriptor. -/
theorem exists_tree_of_accepted {content : List UInt8}
    (haccepted : CompiledSchema.descriptor.validate content = .ok []) :
    ∃ value tree, Yaml.parse content = .ok value ∧ (Document.ofOctets content).Holds tree ∧
      tree.value? false = some value ∧ (Node.ofValue value).IsDescriptor := by
  cases hparse : Yaml.parse content with
  | error error =>
      rw [CompiledSchema.validate, Check.validate, hparse] at haccepted
      cases haccepted
  | ok value =>
      rw [CompiledSchema.validate, Check.validate, hparse] at haccepted
      obtain ⟨tree, hholds, hvalue⟩ := Yaml.exists_tree_of_parse hparse
      exact ⟨value, tree, rfl, hholds, hvalue,
        CompiledSchema.run_descriptor_eq_nil_iff.mp (Except.ok.inj haccepted)⟩

end Accepted

/-! ## Whether an accepted descriptor can be read -/

namespace CompiledSchema

theorem validateContent_fails_iff {schema : CompiledSchema} (hvalid : schema.isValid = true)
    {disk : Disk} {root : Path} {mode : Mode} (hmode : mode.runsProject = true)
    {content : List UInt8} :
    (∃ error, schema.validateContent disk root mode content = .error (.noDescriptor error)) ↔
      ¬∃ descriptor, Descriptor.parse content = .ok descriptor := by
  unfold validateContent
  rw [hvalid, Bool.not_true, Bool.and_false, if_neg Bool.false_ne_true]
  simp only [hmode, if_true]
  cases Descriptor.parse content with
  | error error => simp
  | ok descriptor => simp

/-- **What the schema accepts can be read, unless it has one of four faults.**  A content of
which the built-in schema reports nothing holds one tree.  It is read as a descriptor if and
only if that tree has none of the faults of `DescriptorFault`, and otherwise the modes that
look at the project fail. -/
theorem accepted_readable_iff (content : List UInt8)
    (haccepted : CompiledSchema.descriptor.validate content = .ok []) :
    ∃ tree, (Document.ofOctets content).Holds tree ∧
      (∀ other, (Document.ofOctets content).Holds other → other = tree) ∧
      ((∃ descriptor, Descriptor.parse content = .ok descriptor) ↔ ¬DescriptorFault tree) ∧
      ∀ disk root mode, mode = .all ∨ mode = .project →
        ((∃ error, CompiledSchema.descriptor.validateContent disk root mode content =
          .error (.noDescriptor error)) ↔ DescriptorFault tree) := by
  obtain ⟨value, tree, hparse, hholds, hvalue, hdescriptor⟩ := exists_tree_of_accepted haccepted
  have hread : (∃ descriptor, Descriptor.parse content = .ok descriptor) ↔
      ¬DescriptorFault tree :=
    (exists_descriptor_iff hparse hholds).trans (isDescriptor_iff_not_fault hvalue hdescriptor)
  refine ⟨tree, hholds, fun other hother => hother.unique hholds, hread, ?_⟩
  intro disk root mode hmode
  have hproject : mode.runsProject = true := by
    rcases hmode with rfl | rfl <;> rfl
  rw [validateContent_fails_iff isValid_descriptor hproject, hread, not_not]

end CompiledSchema

/-! ## Three descriptors that are accepted -/

/-- A descriptor with something under `modules`. -/
def demoText (modules : String) : String :=
  "_schema-version: '3.1'\nID: demo\nversion: 1.0.0\nmodules: " ++ modules ++ "\n"

/-- A descriptor with a word for null instead of modules. -/
def nullModules : String := demoText "~"

/-- A descriptor with a module whose path is a word for null. -/
def nullPath : String := demoText "[\x7bname: ui, type: html5, path: ~\x7d]"

/-- A descriptor with a module that has a path and one that has none. -/
def twoModules : String :=
  demoText "[\x7bname: ui, type: html5, path: app/ui\x7d, \x7bname: srv, type: nodejs\x7d]"

namespace Node

/-- Whether a node is a descriptor with this head and no resources. -/
def isDemo (isModules : Node → Bool) (node : Node) : Bool :=
  node.isMap && (node.get "_schema-version").literal? == some "3.1" &&
    (node.get "ID").literal? == some "demo" && (node.get "version").literal? == some "1.0.0" &&
    isModules (node.get "modules") && !(node.get "resources").isFound

/-- Whether a node is a module with this name, a type, this path or none, and nothing else. -/
def isPlainModule (node : Node) (name : String) (path : Option String) : Bool :=
  node.isMap && (node.get "name").literal? == some name && (node.get "type").isFound &&
    (node.get "path").literal? == path && (node.get "path").isFound == path.isSome &&
    !(node.get "requires").isFound && !(node.get "provides").isFound &&
    !(node.get "build-parameters").isFound

/-- Whether a node is a sequence of such modules. -/
def isPlainModules (modules : List (String × Option String)) (node : Node) : Bool :=
  node.isSequence && node.elements.length == modules.length &&
    (node.elements.zip modules).all fun (element, name, path) => element.isPlainModule name path

theorem hasLiteral_of_literal? {accepts : String → Prop} {node : Node} {text : String}
    (hliteral : node.literal? = some text) (haccepts : accepts text) : node.HasLiteral accepts := by
  cases node with
  | scalar leaf => exact ⟨leaf, rfl, Option.some_inj.mp hliteral ▸ haccepts⟩
  | _ => cases hliteral

theorem eq_missing_of_isFound {node : Node} (hfound : node.isFound = false) : node = .missing := by
  cases node with
  | missing => rfl
  | _ => cases hfound

theorem isName_of_all {text : String} (hne : text.toList ≠ [])
    (hall : text.toList.all Char.isAlphanum = true) : IsName text :=
  ⟨hne, fun char hchar => .inl (List.all_eq_true.mp hall char hchar)⟩

theorem isVersion_demo : IsVersion "1.0.0" :=
  ⟨['1'], ['0'], ['0'], [], [], .inr ⟨'1', [], rfl, rfl, by decide, nofun⟩, .inl rfl, .inl rfl,
    .inl rfl, .inl rfl, rfl⟩

theorem isSchemaVersion_demo : IsSchemaVersion "3.1" :=
  ⟨[['3'], ['1']], by decide, by decide, by simp, rfl⟩

theorem isDescriptor_of_isDemo {isModules : Node → Bool}
    (hmodules : ∀ {node}, isModules node = true → node.MissingOr (IsSequenceOf IsModule))
    {node : Node} (hdemo : node.isDemo isModules = true) : node.IsDescriptor := by
  simp only [isDemo, Bool.and_eq_true, beq_iff_eq, Bool.not_eq_true'] at hdemo
  obtain ⟨⟨⟨⟨⟨hmap, hschemaVersion⟩, hid⟩, hversion⟩, hsection⟩, hresources⟩ := hdemo
  exact ⟨hmap, hasLiteral_of_literal? hschemaVersion isSchemaVersion_demo,
    hasLiteral_of_literal? hid (isName_of_all (by decide) (by decide)),
    hasLiteral_of_literal? hversion isVersion_demo, hmodules hsection,
    .inl (eq_missing_of_isFound hresources)⟩

theorem isModule_of_isPlainModule {node : Node} {name : String} {path : Option String}
    (hplain : node.isPlainModule name path = true) (hname : IsName name) : node.IsModule := by
  simp only [isPlainModule, Bool.and_eq_true, beq_iff_eq, Bool.not_eq_true'] at hplain
  obtain ⟨⟨⟨⟨⟨⟨⟨hmap, hliteral⟩, htype⟩, -⟩, -⟩, hrequires⟩, hprovides⟩, hbuild⟩ := hplain
  exact ⟨hmap, hasLiteral_of_literal? hliteral hname, htype,
    .inl (eq_missing_of_isFound hrequires), .inl (eq_missing_of_isFound hprovides),
    .inl (eq_missing_of_isFound hbuild)⟩

theorem literals_of_isPlainModule {node : Node} {name : String} {path : Option String}
    (hplain : node.isPlainModule name path = true) :
    (node.get "name").literal? = some name ∧ (node.get "path").literal? = path ∧
      (path = none → node.get "path" = .missing) := by
  simp only [isPlainModule, Bool.and_eq_true, beq_iff_eq, Bool.not_eq_true'] at hplain
  obtain ⟨⟨⟨⟨⟨⟨⟨-, hname⟩, -⟩, hpath⟩, hfound⟩, -⟩, -⟩, -⟩ := hplain
  refine ⟨hname, hpath, ?_⟩
  rintro rfl
  exact eq_missing_of_isFound hfound

theorem forall₂_of_isPlainModules {modules : List (String × Option String)} {node : Node}
    (hplain : node.isPlainModules modules = true) :
    node.isSequence = true ∧ List.Forall₂
      (fun element module => element.isPlainModule module.1 module.2 = true)
      node.elements modules := by
  simp only [isPlainModules, Bool.and_eq_true, beq_iff_eq, List.all_eq_true] at hplain
  obtain ⟨⟨hsequence, hlength⟩, hall⟩ := hplain
  exact ⟨hsequence, List.forall₂_iff_zip.mpr ⟨hlength, fun hmem => hall _ hmem⟩⟩

theorem isSequenceOf_of_isPlainModules {modules : List (String × Option String)}
    (hnames : ∀ module ∈ modules, IsName module.1) {node : Node}
    (hplain : node.isPlainModules modules = true) : node.MissingOr (IsSequenceOf IsModule) := by
  obtain ⟨hsequence, hpairs⟩ := forall₂_of_isPlainModules hplain
  refine .inr ⟨hsequence, fun element hmem => ?_⟩
  obtain ⟨index, hindex, rfl⟩ := List.getElem_of_mem hmem
  have hmodule := hpairs.get hindex (hpairs.length_eq ▸ hindex)
  exact isModule_of_isPlainModule hmodule (hnames _ (List.getElem_mem _))

end Node

/-- Whether a text is a descriptor with this head and no resources. -/
def isDemoText (isModules : Node → Bool) (chars : List Char) : Bool :=
  Yaml.isSimpleText chars && match Value.ofDocument (.ofCharacters chars) with
    | .ok value => (Node.ofValue value).isDemo isModules
    | .error _ => false

theorem exists_value_of_isDemoText {isModules : Node → Bool} {text : String}
    (hdemo : isDemoText isModules text.toList = true) :
    ∃ value, Yaml.parse text.toUTF8.toList = .ok value ∧
      (Node.ofValue value).isDemo isModules = true := by
  rw [isDemoText, Bool.and_eq_true] at hdemo
  obtain ⟨htext, hvalue⟩ := hdemo
  rw [Yaml.parse, Document.ofOctets_toUTF8 htext]
  generalize Value.ofDocument _ = result at hvalue ⊢
  cases result with
  | error error => cases hvalue
  | ok value => exact ⟨value, rfl, hvalue⟩

theorem accepted_of_isDemoText {isModules : Node → Bool}
    (hmodules : ∀ {node}, isModules node = true → node.MissingOr (Node.IsSequenceOf Node.IsModule))
    {text : String} (hdemo : isDemoText isModules text.toList = true) :
    CompiledSchema.descriptor.validate text.toUTF8.toList = .ok [] := by
  obtain ⟨value, hparse, hvalue⟩ := exists_value_of_isDemoText hdemo
  have hdescriptor := Node.isDescriptor_of_isDemo hmodules hvalue
  rw [CompiledSchema.validate, Check.validate, hparse]
  exact congrArg Except.ok (CompiledSchema.run_descriptor_eq_nil_iff.mpr hdescriptor)

/-- What is read of a text as a descriptor. -/
def descriptorOf (chars : List Char) : Except Yaml.ReadError Descriptor :=
  Yaml.Read.run (.ofCharacters chars) (Descriptor.read (.ofCharacters chars))

theorem parse_toUTF8 {isModules : Node → Bool} {text : String}
    (hdemo : isDemoText isModules text.toList = true) :
    Descriptor.parse text.toUTF8.toList = descriptorOf text.toList := by
  rw [isDemoText, Bool.and_eq_true] at hdemo
  simp only [Descriptor.parse, Document.ofOctets_toUTF8 hdemo.1, descriptorOf]

/-- Whether these modules have been read. -/
def hasModules (modules : List Module) (result : Except Yaml.ReadError Descriptor) : Bool :=
  match result with
  | .ok descriptor => descriptor.modules == modules
  | .error _ => false

theorem parse_of_hasModules {isModules : Node → Bool} {text : String}
    (hdemo : isDemoText isModules text.toList = true) {modules : List Module}
    (hmodules : hasModules modules (descriptorOf text.toList) = true) :
    Descriptor.parse text.toUTF8.toList = .ok ⟨modules⟩ := by
  rw [parse_toUTF8 hdemo]
  generalize descriptorOf text.toList = result at hmodules
  cases result with
  | error error => cases hmodules
  | ok descriptor =>
      rw [hasModules, beq_iff_eq] at hmodules
      rw [← hmodules]

/-- What both readers make of the three texts, in one computation. -/
theorem readings :
    (isDemoText (!·.isFound) nullModules.toList ∧ !(descriptorOf nullModules.toList).isOk) ∧
      (isDemoText (Node.isPlainModules [("ui", none)]) nullPath.toList ∧
        hasModules [⟨"ui", "~"⟩] (descriptorOf nullPath.toList)) ∧
      isDemoText (Node.isPlainModules [("ui", some "app/ui"), ("srv", none)]) twoModules.toList ∧
        hasModules [⟨"ui", "app/ui"⟩, ⟨"srv", ""⟩] (descriptorOf twoModules.toList) := by
  decide +kernel

theorem accepted_nullModules :
    CompiledSchema.descriptor.validate nullModules.toUTF8.toList = .ok [] :=
  accepted_of_isDemoText (fun hnode => .inl (Node.eq_missing_of_isFound (by simpa using hnode)))
    readings.1.1

theorem parse_nullModules : ¬∃ descriptor,
    Descriptor.parse nullModules.toUTF8.toList = .ok descriptor := by
  rintro ⟨descriptor, hread⟩
  have hfails := readings.1.2
  rw [parse_toUTF8 readings.1.1] at hread
  rw [hread] at hfails
  cases hfails

theorem accepted_nullPath : CompiledSchema.descriptor.validate nullPath.toUTF8.toList = .ok [] := by
  refine accepted_of_isDemoText (Node.isSequenceOf_of_isPlainModules ?_) readings.2.1.1
  simp only [List.forall_mem_singleton]
  exact Node.isName_of_all (by decide) (by decide)

theorem parse_nullPath :
    Descriptor.parse nullPath.toUTF8.toList = .ok ⟨[⟨"ui", "~"⟩]⟩ :=
  parse_of_hasModules readings.2.1.1 readings.2.1.2

theorem accepted_twoModules :
    CompiledSchema.descriptor.validate twoModules.toUTF8.toList = .ok [] := by
  refine accepted_of_isDemoText (Node.isSequenceOf_of_isPlainModules ?_) readings.2.2.1
  simp only [List.forall_mem_cons, List.not_mem_nil, false_imp_iff, implies_true, and_true]
  exact ⟨Node.isName_of_all (by decide) (by decide), Node.isName_of_all (by decide) (by decide)⟩

theorem parse_twoModules :
    Descriptor.parse twoModules.toUTF8.toList = .ok ⟨[⟨"ui", "app/ui"⟩, ⟨"srv", ""⟩]⟩ :=
  parse_of_hasModules readings.2.2.1 readings.2.2.2

namespace CompiledSchema

/-- A descriptor with a module is accepted and read, and there is no fault in it. -/
theorem accepted_readable_nullPath :
    CompiledSchema.descriptor.validate nullPath.toUTF8.toList = .ok [] ∧
      ∃ tree, (Document.ofOctets nullPath.toUTF8.toList).Holds tree ∧ ¬DescriptorFault tree := by
  obtain ⟨tree, hholds, -, hread, -⟩ :=
    accepted_readable_iff nullPath.toUTF8.toList accepted_nullPath
  exact ⟨accepted_nullPath, tree, hholds, hread.mp ⟨_, parse_nullPath⟩⟩

/-- **A descriptor that is accepted and cannot be read.**  The schema has nothing to say about
a word for null instead of modules, and the modes that look at the project fail. -/
theorem accepted_unreadable_nullModules :
    CompiledSchema.descriptor.validate nullModules.toUTF8.toList = .ok [] ∧
      (¬∃ descriptor, Descriptor.parse nullModules.toUTF8.toList = .ok descriptor) ∧
      ∀ disk root mode, mode = .all ∨ mode = .project →
        ∃ error, CompiledSchema.descriptor.validateContent disk root mode
          nullModules.toUTF8.toList = .error (.noDescriptor error) := by
  refine ⟨accepted_nullModules, parse_nullModules, fun disk root mode hmode => ?_⟩
  have hproject : mode.runsProject = true := by
    rcases hmode with rfl | rfl <;> rfl
  exact (validateContent_fails_iff isValid_descriptor hproject).mpr parse_nullModules

end CompiledSchema

end MtaCheck
