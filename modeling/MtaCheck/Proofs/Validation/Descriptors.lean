import MtaCheck.Descriptor
import MtaCheck.Proofs.Yaml.Records

/-!
# Which documents are descriptors

Reading a descriptor depends on the tree of its document only: `Descriptor.ofTree?` says what
descriptor a tree is, and `parse_eq_ok_iff` that this is what reading comes to, for every
document that can be read as a value at all.

`IsDescriptor` says without reading anything which trees are descriptors: which keys they may
have, how often, and of what kind the values have to be.  `exists_descriptor_iff` is the main
result: just the documents that hold such a tree are read.
-/

namespace MtaCheck

open Yaml (Document Tree Trail Read Item Spells)

/-! ## What trees mean as descriptors -/

/-- The fields of a module with one more of them. -/
def Module.Fields.put? (field : String) (fields : Module.Fields) (value : Tree) :
    Option Module.Fields :=
  match field with
  | "name" =>
      if fields.name.isSome then none
      else value.text?.map fun name => { fields with name := some name }
  | "path" =>
      if fields.path.isSome then none
      else value.text?.map fun path => { fields with path := some path }
  | _ => some fields

/-- The module that a tree is. -/
def Module.ofTree? (tree : Tree) : Option Module :=
  (tree.record? ⟨none, none⟩ Module.Fields.put?).map fun fields =>
    ⟨fields.name.getD "", fields.path.getD ""⟩

/-- The modules of a descriptor with one more of its fields. -/
def Descriptor.put? (field : String) (modules : Option (List Module)) (value : Tree) :
    Option (Option (List Module)) :=
  match field with
  | "modules" =>
      if modules.isSome then none else (value.sequence? Module.ofTree?).map some
  | _ => some modules

/-- The descriptor that a tree is. -/
def Descriptor.ofTree? (tree : Tree) : Option Descriptor :=
  (tree.record? none Descriptor.put?).map fun modules => ⟨modules.getD []⟩

theorem Module.Fields.put?_of_ne {field : String} (hname : field ≠ "name") (hpath : field ≠ "path")
    (fields : Module.Fields) (value : Tree) : fields.put? field value = some fields := by
  unfold put?
  split <;> first | contradiction | rfl

/-- What has been read of a module under a field. -/
def Module.Fields.text? (fields : Module.Fields) (field : String) : Option String :=
  if field = "name" then fields.name else if field = "path" then fields.path else none

/-- A field that is put has the text of its value from then on, and no other field changes. -/
theorem Module.Fields.exists_text_of_put? {field : String} (hfield : field ∈ ["name", "path"])
    {fields following : Module.Fields} {value : Tree}
    (hput : put? field fields value = some following) :
    ∃ text, value.text? = some text ∧
      ∀ other, following.text? other = if other = field then some text else fields.text? other := by
  simp only [List.mem_cons, List.not_mem_nil, or_false] at hfield
  rcases hfield with rfl | rfl
  all_goals
    simp only [put?, Option.ite_none_left_eq_some, Option.map_eq_some_iff] at hput
    obtain ⟨-, text, htext, rfl⟩ := hput
    refine ⟨text, htext, fun other => ?_⟩
    simp only [text?]
    grind

theorem Descriptor.put?_of_ne {field : String} (hmodules : field ≠ "modules")
    (modules : Option (List Module)) (value : Tree) : put? field modules value = some modules := by
  unfold put?
  split <;> first | contradiction | rfl

/-! ## Reading agrees with that -/

theorem agrees_pass {document : Document} {α : Type} {result : α} {means : Tree → Option α}
    (hmeans : ∀ tree, means tree = some result) :
    Read.Agrees document (fun _ => do Read.skip document; return result) means := by
  intro trail tree place next jumps before htree hlimit
  rw [hmeans tree]
  exact (Read.yields_map (Read.yields_skip htree)).mono (Nat.le_add_right _ _)

theorem agrees_module (document : Document) :
    Read.Agrees document (Module.read document) Module.ofTree? := by
  intro trail tree place next jumps before htree hlimit
  refine Read.yields_map (Read.agrees_record ?_ htree hlimit)
  intro complain hcomplain name fields
  split
  · exact Read.agrees_once hcomplain (Read.agrees_text _)
  · exact Read.agrees_once hcomplain (Read.agrees_text _)
  · rename_i hname hpath
    exact agrees_pass fun value => fields.put?_of_ne hname hpath value

theorem yields_descriptor {document : Document} {tree : Tree} {place next jumps before : Nat}
    (htree : Spells document (.value tree) place next jumps)
    (hlimit : before + jumps ≤ document.jumpLimit) :
    Read.Yields (Descriptor.read document) ⟨place, before⟩ (Descriptor.ofTree? tree) next
      (before + jumps) := by
  refine Read.yields_map (Read.agrees_record ?_ htree hlimit)
  intro complain hcomplain name modules
  split
  · exact Read.agrees_once hcomplain (Read.agrees_sequence (agrees_module document))
  · rename_i hmodules
    exact agrees_pass fun value => Descriptor.put?_of_ne hmodules modules value

theorem read_eq_ok_iff {document : Document} {tree : Tree} (hholds : document.Holds tree)
    {descriptor : Descriptor} :
    (∃ last, Descriptor.read document ⟨0, 0⟩ = .ok (descriptor, last)) ↔
      Descriptor.ofTree? tree = some descriptor := by
  cases hholds with
  | value htree hlimit =>
      have hread := yields_descriptor htree (Nat.le_trans (Nat.le_of_eq (Nat.zero_add _)) hlimit)
      cases hmeans : Descriptor.ofTree? tree with
      | none =>
          rw [hmeans] at hread
          refine iff_of_false ?_ (by simp)
          rintro ⟨last, hrun⟩
          exact hread _ hrun
      | some meant =>
          rw [hmeans] at hread
          obtain ⟨jumps, -, hrun⟩ := hread
          rw [hrun, Option.some_inj]
          constructor
          · rintro ⟨_, heq⟩
            cases heq
            rfl
          · rintro rfl
            exact ⟨_, rfl⟩
  | nothing hitem =>
      have hrecord : ∀ readField, Read.record document "struct Descriptor" .root
          (none : Option (List Module)) readField ⟨0, 0⟩ = .ok (none, ⟨1, 0⟩) :=
        fun _ => Read.content_of_item hitem (by simp)
      have hrun : Descriptor.read document ⟨0, 0⟩ = .ok (⟨[]⟩, ⟨1, 0⟩) :=
        Read.bind_of_eq_ok (hrecord _)
      rw [hrun]
      constructor
      · rintro ⟨_, heq⟩
        cases heq
        rfl
      · intro hmeans
        cases hmeans
        exact ⟨_, rfl⟩

/-- **Reading a descriptor is reading its tree.**  For a document that can be read as a value,
its descriptor is that of the tree which it holds. -/
theorem parse_eq_ok_iff {octets : List UInt8} {value : Yaml.Value} {tree : Tree}
    (hparse : Yaml.parse octets = .ok value) (hholds : (Document.ofOctets octets).Holds tree)
    {descriptor : Descriptor} :
    Descriptor.parse octets = .ok descriptor ↔ Descriptor.ofTree? tree = some descriptor := by
  rw [Yaml.parse, Yaml.Value.ofDocument, Read.run_eq_ok_iff] at hparse
  rw [Descriptor.parse, Read.run_eq_ok_iff, read_eq_ok_iff hholds]
  exact and_iff_right hparse.1

/-! ## Fields that may occur once -/

/-- The values of a mapping whose keys are spelled like this. -/
def Yaml.Tree.valuesOf (name : String) (entries : List (Tree × Tree)) : List Tree :=
  entries.filterMap fun entry => if entry.1.text? = some name then some entry.2 else none

/-- Whether a field can take these values: at most one, and a good one, if it is not taken. -/
def Fillable (taken : Bool) (good : Tree → Prop) (values : List Tree) : Prop :=
  values = [] ∨ ∃ value, values = [value] ∧ taken = false ∧ good value

/-- Putting a value into a record is putting it into one of these fields, which then is taken,
or into none of them, which changes nothing. -/
structure PutsOnce {σ : Type} (put? : String → σ → Tree → Option σ) (fields : List String)
    (taken : σ → String → Bool) (good : String → Tree → Prop) : Prop where
  other : ∀ {field}, field ∉ fields → ∀ state value, put? field state value = some state
  isSome_iff : ∀ {field}, field ∈ fields → ∀ {state value},
    (put? field state value).isSome = true ↔ taken state field = false ∧ good field value
  taken_eq : ∀ {field}, field ∈ fields → ∀ {state value following},
    put? field state value = some following →
      ∀ name, taken following name = (name == field || taken state name)

section Fields

variable {σ : Type} {put? : String → σ → Tree → Option σ} {fields : List String}
  {taken : σ → String → Bool} {good : String → Tree → Prop}

theorem fillable_nil {found : Bool} {good : Tree → Prop} : Fillable found good [] := .inl rfl

theorem fillable_cons {found : Bool} {good : Tree → Prop} {value : Tree} {values : List Tree} :
    Fillable found good (value :: values) ↔ found = false ∧ good value ∧ values = [] := by
  constructor
  · rintro (hnil | ⟨other, hother, hfound, hgood⟩)
    · cases hnil
    · cases hother
      exact ⟨hfound, hgood, rfl⟩
  · rintro ⟨hfound, hgood, rfl⟩
    exact .inr ⟨value, rfl, hfound, hgood⟩

theorem fillable_taken {good : Tree → Prop} {values : List Tree} :
    Fillable true good values ↔ values = [] := by
  constructor
  · rintro (hnil | ⟨_, -, htaken, -⟩)
    · exact hnil
    · cases htaken
  · exact .inl

theorem valuesOf_cons {key value : Tree} {name : String} (hname : key.text? = some name)
    (field : String) (entries : List (Tree × Tree)) :
    Tree.valuesOf field ((key, value) :: entries) =
      if name = field then value :: Tree.valuesOf field entries
      else Tree.valuesOf field entries := by
  simp only [Tree.valuesOf, List.filterMap_cons, hname, Option.some_inj]
  by_cases hfield : name = field
  · simp only [if_pos hfield]
  · simp only [if_neg hfield]

/-- Once a value has been put into its field, that field can take no other value, and nothing
has changed about the rest. -/
theorem fillable_following (hputs : PutsOnce put? fields taken good) {name field : String}
    {state following : σ} {value : Tree} {values : List Tree} (hfield : name ∈ fields)
    (hput : put? name state value = some following) :
    Fillable (taken following field) (good field) values ↔
      Fillable (taken state field) (good field)
        (if name = field then value :: values else values) := by
  have hgood : taken state name = false ∧ good name value :=
    (hputs.isSome_iff hfield).mp (by rw [hput, Option.isSome_some])
  rw [hputs.taken_eq hfield hput]
  by_cases hsame : name = field
  · cases hsame
    rw [if_pos rfl, fillable_cons, BEq.rfl, Bool.true_or, fillable_taken]
    constructor
    · intro hnil
      exact ⟨hgood.1, hgood.2, hnil⟩
    · rintro ⟨-, -, hnil⟩
      exact hnil
  · rw [if_neg hsame, beq_false_of_ne (Ne.symm hsame), Bool.false_or]

/-- A mapping comes to something just if its keys are scalars, and what stands under a field of
the record can be put there. -/
theorem isSome_fields_iff (hputs : PutsOnce put? fields taken good) (entries : List (Tree × Tree))
    (state : σ) :
    (entries.foldlM (Tree.withEntry put?) state).isSome = true ↔
      (∀ entry ∈ entries, ∃ name, entry.1.text? = some name) ∧
        ∀ field ∈ fields,
          Fillable (taken state field) (good field) (Tree.valuesOf field entries) := by
  -- a field that has been put is taken for all entries behind it, so the state is general
  induction entries generalizing state with
  | nil => simp [Tree.valuesOf, fillable_nil]
  | cons entry entries ih =>
      obtain ⟨key, value⟩ := entry
      rw [List.foldlM_cons, Tree.withEntry]
      cases hname : key.text? with
      | none => simp [hname]
      | some name =>
          simp only [List.forall_mem_cons, hname, Option.some_inj, exists_eq', true_and,
            valuesOf_cons hname]
          by_cases hfield : name ∈ fields
          · cases hput : put? name state value with
            | none =>
                refine iff_of_false (by simp [hput]) ?_
                rintro ⟨-, hall⟩
                have hfillable := hall name hfield
                rw [if_pos rfl, fillable_cons] at hfillable
                have hsome := (hputs.isSome_iff hfield).mpr ⟨hfillable.1, hfillable.2.1⟩
                rw [hput] at hsome
                cases hsome
            | some following =>
                rw [Option.bind_some, hput]
                refine (ih following).trans
                  (and_congr_right fun _ => forall₂_congr fun field hmem => ?_)
                exact fillable_following hputs hfield hput
          · rw [Option.bind_some, hputs.other hfield]
            refine (ih state).trans (and_congr_right fun _ => forall₂_congr fun field hmem => ?_)
            have hother : name ≠ field := by
              rintro rfl
              exact hfield hmem
            rw [if_neg hother]

end Fields

/-! ## The shape of descriptors -/

/-- A tree is a text. -/
def IsText (tree : Tree) : Prop := ∃ text, tree.text? = some text

/-- A tree is a module: an empty scalar, or a mapping from scalars in which name and path occur
at most once and are scalars. -/
inductive IsModule : Tree → Prop
  | empty {written : Yaml.Scalar} (hempty : (Item.scalar written).isEmpty = true) :
      IsModule (.scalar written)
  | fields {tag : Option Yaml.TagOctets} {entries : List (Tree × Tree)}
      (hkeys : ∀ entry ∈ entries, IsText entry.1)
      (hname : Fillable false IsText (Tree.valuesOf "name" entries))
      (hpath : Fillable false IsText (Tree.valuesOf "path" entries)) :
      IsModule (.mapping tag entries)

/-- A tree is a list of modules: an empty scalar, or a sequence of modules. -/
inductive IsModules : Tree → Prop
  | empty {written : Yaml.Scalar} (hempty : (Item.scalar written).isEmpty = true) :
      IsModules (.scalar written)
  | items {tag : Option Yaml.TagOctets} {items : List Tree}
      (hitems : ∀ item ∈ items, IsModule item) :
      IsModules (.sequence tag items)

/-- A tree is a descriptor: an empty scalar, or a mapping from scalars in which modules occur at
most once and are a list of modules. -/
inductive IsDescriptor : Tree → Prop
  | empty {written : Yaml.Scalar} (hempty : (Item.scalar written).isEmpty = true) :
      IsDescriptor (.scalar written)
  | fields {tag : Option Yaml.TagOctets} {entries : List (Tree × Tree)}
      (hkeys : ∀ entry ∈ entries, IsText entry.1)
      (hmodules : Fillable false IsModules (Tree.valuesOf "modules" entries)) :
      IsDescriptor (.mapping tag entries)

theorem isText_iff {tree : Tree} : IsText tree ↔ tree.text?.isSome = true :=
  Option.isSome_iff_exists.symm

theorem putsOnce_module :
    PutsOnce Module.Fields.put? ["name", "path"] (fun fields name => (fields.text? name).isSome)
      (fun _ => IsText) where
  other := by
    intro field hfield fields value
    simp only [List.mem_cons, List.not_mem_nil, or_false, not_or] at hfield
    exact Module.Fields.put?_of_ne hfield.1 hfield.2 fields value
  isSome_iff := by
    intro field hfield fields value
    simp only [List.mem_cons, List.not_mem_nil, or_false] at hfield
    rcases hfield with rfl | rfl
    · cases hname : fields.name <;> simp [Module.Fields.put?, Module.Fields.text?, hname, isText_iff]
    · cases hpath : fields.path <;> simp [Module.Fields.put?, Module.Fields.text?, hpath, isText_iff]
  taken_eq := by
    intro field hfield fields value following hput name
    obtain ⟨text, -, hfollowing⟩ := Module.Fields.exists_text_of_put? hfield hput
    by_cases hname : name = field <;> simp [hfollowing, hname]

/-- Whether a record can be read off a tree. -/
theorem isSome_record?_iff {σ : Type} {put? : String → σ → Tree → Option σ} {fields : List String}
    {taken : σ → String → Bool} {good : String → Tree → Prop}
    (hputs : PutsOnce put? fields taken good) (empty : σ) (tree : Tree) :
    (tree.record? empty put?).isSome = true ↔
      match tree with
      | .scalar written => (Item.scalar written).isEmpty = true
      | .sequence _ _ => False
      | .mapping _ entries =>
          (∀ entry ∈ entries, IsText entry.1) ∧
            ∀ field ∈ fields,
              Fillable (taken empty field) (good field) (Tree.valuesOf field entries) := by
  cases tree with
  | scalar written => simp [Tree.record?]
  | sequence tag items => simp [Tree.record?]
  | mapping tag entries => exact isSome_fields_iff hputs entries empty

theorem isSome_module_iff (tree : Tree) : (Module.ofTree? tree).isSome = true ↔ IsModule tree := by
  rw [Module.ofTree?, Option.isSome_map, isSome_record?_iff putsOnce_module]
  constructor
  · intro hshape
    cases tree with
    | scalar written => exact .empty hshape
    | sequence tag items => cases hshape
    | mapping tag entries =>
        exact .fields hshape.1 (hshape.2 "name" (by simp)) (hshape.2 "path" (by simp))
  · rintro (hempty | ⟨hkeys, hname, hpath⟩)
    · exact hempty
    · refine ⟨hkeys, ?_⟩
      simp only [List.forall_mem_cons]
      exact ⟨hname, hpath, by simp⟩

theorem isSome_mapM_iff {α β : Type} {means : α → Option β} {items : List α} :
    (items.mapM means).isSome = true ↔ ∀ item ∈ items, (means item).isSome = true := by
  induction items with
  | nil => simp
  | cons item items ih =>
      rw [List.mapM_cons, List.forall_mem_cons, ← ih]
      cases means item <;> cases items.mapM means <;> simp

theorem isSome_modules_iff {tree : Tree} :
    (tree.sequence? Module.ofTree?).isSome = true ↔ IsModules tree := by
  cases tree with
  | scalar written =>
      constructor
      · intro hshape
        exact .empty (by simpa [Tree.sequence?] using hshape)
      · rintro (hempty | _)
        simp [Tree.sequence?, hempty]
  | sequence tag items =>
      rw [Tree.sequence?, isSome_mapM_iff]
      simp only [isSome_module_iff]
      constructor
      · exact .items
      · rintro (_ | hitems)
        exact hitems
  | mapping tag entries =>
      refine iff_of_false (by simp [Tree.sequence?]) ?_
      intro hshape
      cases hshape

theorem putsOnce_descriptor :
    PutsOnce Descriptor.put? ["modules"] (fun modules name => name == "modules" && modules.isSome)
      (fun _ => IsModules) where
  other := by
    intro field hfield modules value
    exact Descriptor.put?_of_ne (by simpa using hfield) modules value
  isSome_iff := by
    intro field hfield modules value
    obtain rfl : field = "modules" := by simpa using hfield
    cases modules <;> simp [Descriptor.put?, isSome_modules_iff]
  taken_eq := by
    intro field hfield modules value following hput name
    obtain rfl : field = "modules" := by simpa using hfield
    simp only [Descriptor.put?, Option.ite_none_left_eq_some, Option.map_eq_some_iff] at hput
    obtain ⟨-, found, -, rfl⟩ := hput
    by_cases hname : name = "modules" <;> simp [hname]

/-- A tree is a descriptor if and only if it has the shape of one. -/
theorem isSome_descriptor_iff (tree : Tree) :
    (Descriptor.ofTree? tree).isSome = true ↔ IsDescriptor tree := by
  rw [Descriptor.ofTree?, Option.isSome_map, isSome_record?_iff putsOnce_descriptor]
  constructor
  · intro hshape
    cases tree with
    | scalar written => exact .empty hshape
    | sequence tag items => cases hshape
    | mapping tag entries => exact .fields hshape.1 (hshape.2 "modules" (by simp))
  · rintro (hempty | ⟨hkeys, hmodules⟩)
    · exact hempty
    · refine ⟨hkeys, ?_⟩
      simp only [List.forall_mem_cons]
      exact ⟨hmodules, by simp⟩

/-- **Which documents are descriptors.**  A document that can be read as a value is read as a
descriptor if and only if the tree that it holds has the shape of one. -/
theorem exists_descriptor_iff {octets : List UInt8} {value : Yaml.Value} {tree : Tree}
    (hparse : Yaml.parse octets = .ok value) (hholds : (Document.ofOctets octets).Holds tree) :
    (∃ descriptor, Descriptor.parse octets = .ok descriptor) ↔ IsDescriptor tree := by
  rw [← isSome_descriptor_iff, Option.isSome_iff_exists]
  exact exists_congr fun descriptor => parse_eq_ok_iff hparse hholds

end MtaCheck
