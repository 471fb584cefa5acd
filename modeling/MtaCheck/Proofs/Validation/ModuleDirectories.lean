import MtaCheck.Proofs.Files.Below
import MtaCheck.Validator

/-!
# The directories of modules

Every module of a descriptor has to have its directory in the project.  The path of a module, or its
name if it has no path, is joined to the root of the project, and the result is looked up on the
disk.  Two things are said here of this check.

* `moduleIssues_exact`: the report is as the lookup of each module decides, on every disk and
  whatever its links look like.  The steps of a lookup are those of `Lookup.Step`, and the reasons
  for which it does not arrive in a directory are listed by `FileTree.Absent`.
* `located_of_accepted`: what is known of a module that nothing is reported of.  It has a directory,
  but not always one below the project, for the path of a module is not looked at before it is
  joined.  `Module.Located` says when it is one and when it is not.
-/

namespace MtaCheck

open Lookup (Reaches)

/-- Where a module is, relative to the project. -/
def Module.relative (module : Module) : Path := ⟨module.relativePath⟩

theorem Module.location_eq_join (root : Path) (module : Module) :
    module.location root = root.join module.relative := rfl

/-! ## What is reported -/

/-- A module is reported just if the lookup of its location does not lead to a directory. -/
theorem moduleIssues_eq (tree : FileTree) (root : Path) (modules : List Module) :
    moduleIssues tree.disk root modules =
      (modules.filter fun module => ¬ tree.LeadsToDirectory (module.location root)).map
        fun module => .moduleNotFound module.name module.relativePath := by
  induction modules with
  | nil => rfl
  | cons module modules ih =>
      rw [moduleIssues] at ih
      rw [moduleIssues, List.filterMap_cons]
      by_cases hleads : tree.LeadsToDirectory (module.location root)
      · have hdirectory : tree.disk.isDirectory (module.location root) = true :=
          FileTree.isDirectory_iff.mpr hleads
        rw [List.filter_cons_of_neg (by simpa using hleads), if_pos hdirectory]
        exact ih
      · have hdirectory : ¬ tree.disk.isDirectory (module.location root) = true :=
          mt FileTree.isDirectory_iff.mp hleads
        rw [List.filter_cons_of_pos (by simpa using hleads), if_neg hdirectory, List.map_cons]
        exact congrArg _ ih

theorem moduleIssues_append (disk : Disk) (root : Path) (modules more : List Module) :
    moduleIssues disk root (modules ++ more) =
      moduleIssues disk root modules ++ moduleIssues disk root more :=
  List.filterMap_append

/-- **The report on module directories.**  On any disk, with links to wherever they may point, one
message is reported for each module whose location does not lead to a directory, in the order of the
modules and also if a module is listed twice.  A location leads to no directory if it is refused, if
its lookup comes to a file or to a name that is not there, or if there are too many links on the
way, as there are when the lookup goes on forever.  Up to that many links every lookup comes to an end.
What is reported of two lists of modules is reported of both together. -/
theorem moduleIssues_exact (tree : FileTree) (root : Path) (modules : List Module) :
    (moduleIssues tree.disk root modules).map Issue.message =
        (modules.filter fun module => ¬ tree.LeadsToDirectory (root.join module.relative)).map
          (fun module => "Module <" ++ module.name ++ "> not found in project. Expected path: <"
            ++ module.relativePath ++ ">") ∧
      (∀ module : Module,
        module.relativePath = if module.path = "" then module.name else module.path) ∧
      (∀ path, ¬ tree.LeadsToDirectory path ↔ tree.Absent path) ∧
      (∀ path, tree.Loops path → ¬ tree.LeadsToDirectory path) ∧
      (WellFounded fun next lookup =>
        Lookup.Step tree.root lookup next ∧ lookup.followed ≤ linkLimit) ∧
      ∀ more, moduleIssues tree.disk root (modules ++ more) =
        moduleIssues tree.disk root modules ++ moduleIssues tree.disk root more := by
  refine ⟨?_, ?_, ?_, ?_, Lookup.wellFounded_within tree.root linkLimit,
    moduleIssues_append tree.disk root modules⟩
  · rw [moduleIssues_eq, List.map_map]
    rfl
  · intro module
    simp [Module.relativePath]
  · intro path
    exact FileTree.absent_iff.symm
  · intro path hloops
    exact FileTree.absent_iff.mp (FileTree.absent_of_loops hloops)

/-- A directory, a file and links of all kinds. -/
def linkedEntries : List (String × Entry) :=
  [("app", .directory [("lib", .directory [])]), ("notes", .file []), ("again", .link ⟨"app"⟩),
    ("chain", .link ⟨"again/lib/.."⟩), ("dangling", .link ⟨"nowhere"⟩), ("loop", .link ⟨"loop"⟩),
    ("ping", .link ⟨"pong/x"⟩), ("pong", .link ⟨"/work/ping/y"⟩)]

/-- A project that holds them. -/
def linkedProject : FileTree := ⟨.directory [("work", .directory linkedEntries)], ["work"]⟩

example :
    (moduleIssues linkedProject.disk ⟨"."⟩ [⟨"app", ""⟩, ⟨"b", "chain/lib"⟩, ⟨"notes", ""⟩,
        ⟨"d", "dangling"⟩, ⟨"notes", ""⟩, ⟨"f", "notes/lib"⟩, ⟨"loop", ""⟩, ⟨"h", "ping"⟩]).map
        Issue.message =
      ["Module <notes> not found in project. Expected path: <notes>",
        "Module <d> not found in project. Expected path: <dangling>",
        "Module <notes> not found in project. Expected path: <notes>",
        "Module <f> not found in project. Expected path: <notes/lib>",
        "Module <loop> not found in project. Expected path: <loop>",
        "Module <h> not found in project. Expected path: <ping>"] := by
  decide +kernel

/-- A link to itself leads on forever. -/
example : linkedProject.Loops ⟨"loop"⟩ := by
  have hname : Lookup.IsEntryName "loop" := ⟨by decide, by decide, by decide⟩
  have hplace : linkedProject.root.at? ["work"] = some (.directory linkedEntries) := rfl
  have hentry : linkedEntries.lookup "loop" = some (.link ⟨"loop"⟩) := rfl
  have htarget : (⟨"loop"⟩ : Path).isAbsolute = false ∧ (⟨"loop"⟩ : Path).steps = ["loop"] := by
    decide +kernel
  refine ⟨fun count => ⟨["work"], ["loop"], count⟩, rfl, fun count => ?_⟩
  have hstep : Lookup.Step linkedProject.root ⟨["work"], ["loop"], count⟩ _ :=
    .follow hplace hname hentry
  simpa [htarget] using hstep

/-! ## Where an accepted module is -/

theorem mem_moduleIssues {tree : FileTree} {root : Path} {modules : List Module} {module : Module}
    (hmodule : module ∈ modules) (hleads : ¬ tree.LeadsToDirectory (module.location root)) :
    .moduleNotFound module.name module.relativePath ∈ moduleIssues tree.disk root modules := by
  rw [moduleIssues_eq, List.mem_map]
  exact ⟨module, List.mem_filter.mpr ⟨hmodule, by simpa using hleads⟩, rfl⟩

/-- What is known of a module that has its directory. -/
structure Module.Located (tree : FileTree) (root : Path) (module : Module) : Prop where
  directory : tree.LeadsToDirectory (module.location root)
  /-- The names of a relative path are put behind those of the root. -/
  of_relative : module.relative.isAbsolute = false →
    (module.location root).isAbsolute = root.isAbsolute ∧
      (module.location root).components = root.components ++ module.relative.components
  /-- An absolute path takes the place of the root. -/
  of_absolute : module.relative.isAbsolute = true → module.location root = module.relative
  /-- The location lies under the root if the path of the module does not lead up too far, or if it
  is absolute and begins with the root. -/
  isUnder_iff : (module.location root).IsUnder root ↔
    module.relative.isAbsolute = false ∧ staysBelow 0 module.relative.components = true ∨
      module.relative.isAbsolute = true ∧ module.relative.IsUnder root
  /-- If the path does not lead up too far, then its place on the disk is below that of the root,
  as far as no link leads elsewhere. -/
  below : module.relative.isAbsolute = false → staysBelow 0 module.relative.components = true →
    ∀ top place followed, Reaches tree.root ⟨tree.start root, root.names, 0⟩ ⟨top, [], followed⟩ →
      Reaches tree.root (tree.lookup (module.location root)) ⟨place, [], followed⟩ → top <+: place

/-- **Where an accepted module is.**  A module that nothing is reported of has a directory, where
its path leads from the root of the project.  This lies under the root unless the path leads up too far
or is absolute and begins elsewhere. -/
theorem located_of_accepted (tree : FileTree) (root : Path) (modules : List Module)
    (module : Module) (hmodule : module ∈ modules)
    (haccepted : .moduleNotFound module.name module.relativePath ∉
      moduleIssues tree.disk root modules) :
    module.Located tree root where
  directory := by
    by_contra hleads
    exact haccepted (mem_moduleIssues hmodule hleads)
  of_relative := by
    intro hrelative
    exact ⟨Path.isAbsolute_join hrelative, Path.components_join hrelative⟩
  of_absolute := by
    intro habsolute
    exact Path.join_of_isAbsolute habsolute
  isUnder_iff := Path.isUnder_join_iff
  below := by
    intro hrelative hbelow top place followed hroot hlocation
    exact FileTree.below_of_join hrelative hbelow hroot hlocation

/-- Two modules of which nothing is reported. -/
def acceptedModules : List Module := [⟨"lib", "app/./lib/"⟩, ⟨"parent", "app/../.."⟩]

/-- Both have a directory, but only the first has it below the root. -/
theorem located_of_accepted_modules :
    moduleIssues linkedProject.disk ⟨"./"⟩ acceptedModules = [] ∧
      ∀ module ∈ acceptedModules, module.Located linkedProject ⟨"./"⟩ ∧
        ((module.location ⟨"./"⟩).IsUnder ⟨"./"⟩ ↔ module.name = "lib") := by
  have hsilent : moduleIssues linkedProject.disk ⟨"./"⟩ acceptedModules = [] :=
    List.isEmpty_iff.mp (by decide +kernel)
  refine ⟨hsilent, fun module hmodule => ?_⟩
  have hlocated := located_of_accepted linkedProject ⟨"./"⟩ acceptedModules module hmodule
    (by simp [hsilent])
  refine ⟨hlocated, ?_⟩
  rw [hlocated.isUnder_iff]
  simp only [acceptedModules, List.mem_cons, List.not_mem_nil, or_false] at hmodule
  rcases hmodule with rfl | rfl
  · have hlib : (⟨"lib", "app/./lib/"⟩ : Module).relative.isAbsolute = false ∧
        staysBelow 0 (⟨"lib", "app/./lib/"⟩ : Module).relative.components = true := by
      decide +kernel
    simp [hlib]
  · have hparent : (⟨"parent", "app/../.."⟩ : Module).relative.isAbsolute = false ∧
        staysBelow 0 (⟨"parent", "app/../.."⟩ : Module).relative.components = false := by
      decide +kernel
    simp [hparent]

/-- A module is accepted that lies outside of the project, since its path leads up, and another one
since its path is absolute. -/
theorem accepts_not_isUnder :
    moduleIssues linkedProject.disk ⟨"app"⟩ [⟨"parent", ".."⟩, ⟨"top", "/"⟩] = [] ∧
      ¬ (Module.location ⟨"app"⟩ ⟨"parent", ".."⟩).IsUnder ⟨"app"⟩ ∧
      ¬ (Module.location ⟨"app"⟩ ⟨"top", "/"⟩).IsUnder ⟨"app"⟩ := by
  have hparent : (⟨".."⟩ : Path).isAbsolute = false ∧
      staysBelow 0 (⟨".."⟩ : Path).components = false := by
    decide +kernel
  refine ⟨List.isEmpty_iff.mp (by decide +kernel), ?_, ?_⟩
  · intro hunder
    have hcases := Path.isUnder_join_iff.mp hunder
    simp [Module.relativePath, hparent] at hcases
  · intro hunder
    have hstart := hunder.same_start
    rw [Module.location_eq_join, Path.join_of_isAbsolute (by decide +kernel)] at hstart
    exact absurd hstart (by decide +kernel)

end MtaCheck
