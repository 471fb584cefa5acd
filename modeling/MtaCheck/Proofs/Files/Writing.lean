import MtaCheck.Files.Edit
import MtaCheck.Proofs.Files.Below
import MtaCheck.Proofs.Files.Keeping

/-!
# Reading what has been written

The disk of a run is set up by writing and removing files, directories and links.  This file says
what lookups find on it then.

* `read_of_write`: a file that has been written is read back, through whatever links its path leads.
* `isDirectory_of_makeDirectory` and `reaches_of_makeLink`: a directory that has been made is one,
  and a link leads where its target does.
* `find_of_remove`: what has been removed is gone, and there is nothing new.

An operation looks up a directory and changes its entries.  The lookup is made again when the result
is read, in another tree, and it may well lead through the directory itself; this is why the lookups
of both trees are compared (`FileTree.Keeps`) and not only the entries at one place.  All operations
but the last keep what was there before, so directories stay directories (`Keeps.isDirectory`).
-/

namespace MtaCheck

open Lookup (Step Reaches Ends Blocked IsEntryName)

/-! ## Lookups before their last name -/

/-- A lookup that is left with its last name in a directory, where it is the name of this entry or
of none, and has replaced at most `limit` links by then. -/
structure Lookup.EndsBefore (root : Entry) (limit : Nat) (lookup : Lookup) (directory : Place)
    (name : String) (found : Option Entry) : Prop where
  isName : IsEntryName name
  lookup_eq : ∃ entries, root.at? directory = some (.directory entries) ∧
    entries.lookup name = found
  reaches : ∃ followed ≤ limit, Reaches root lookup ⟨directory, [name], followed⟩

namespace Lookup

variable {root : Entry} {limit followed : Nat} {lookup next : Lookup} {directory : Place}
  {name : String}

theorem endsBefore_of_step {found : Option Entry} (hstep : Step root lookup next)
    (hends : EndsBefore root limit next directory name found) :
    EndsBefore root limit lookup directory name found := by
  obtain ⟨followed, hlimit, hreaches⟩ := hends.reaches
  exact ⟨hends.isName, hends.lookup_eq, followed, hlimit, .head hstep hreaches⟩

theorem EndsBefore.at?_eq {found : Option Entry}
    (hends : EndsBefore root limit lookup directory name found) :
    root.at? (directory ++ [name]) = found := by
  obtain ⟨entries, hplace, hentry⟩ := hends.lookup_eq
  rw [Entry.at?_concat hplace, hentry]

/-- The name of an entry that is no link leads to this entry. -/
theorem EndsBefore.ends {entry : Entry}
    (hends : EndsBefore root limit lookup directory name (some entry))
    (hlink : ∀ target, entry ≠ .link target) : Ends root limit lookup (directory ++ [name]) := by
  obtain ⟨entries, hplace, hentry⟩ := hends.lookup_eq
  obtain ⟨followed, hlimit, hreaches⟩ := hends.reaches
  exact ⟨followed, hlimit, .tail hreaches (.enter hplace hends.isName hentry hlink)⟩

/-- Walking along names leads to a free name only by the steps of a lookup, if this is so of what
`follow` does behind a link. -/
theorem endsBefore_of_walkFrom {follow : Place → List String → Except FileError Landing}
    (hlimit : followed ≤ limit)
    (hfollow : ∀ place names, follow place names = .ok (.vacancy directory name) →
      EndsBefore root limit ⟨place, names, followed + 1⟩ directory name none)
    (names : List String) :
    ∀ place, root.walkFrom follow place names = .ok (.vacancy directory name) →
      EndsBefore root limit ⟨place, names, followed⟩ directory name none := by
  induction names with
  | nil =>
      intro place hwalk
      cases hwalk
  | cons first rest ih =>
      intro place hwalk
      rcases walkFrom_cons root follow place first rest followed with
        ⟨error, hfirst, -⟩ | ⟨entries, hfirst, rfl, hplace, hname, hentry⟩ |
          ⟨next, hfirst, hstep⟩ | ⟨next, names, hfirst, hstep⟩
      · rw [hfirst] at hwalk
        cases hwalk
      · rw [hfirst] at hwalk
        cases hwalk
        exact ⟨hname, ⟨entries, hplace, hentry⟩, followed, hlimit, .refl⟩
      · exact endsBefore_of_step hstep (ih next (hfirst.symm.trans hwalk))
      · exact endsBefore_of_step hstep (hfollow next names (hfirst.symm.trans hwalk))

theorem endsBefore_of_walk (links : Nat) :
    ∀ followed place names, root.walk links place names = .ok (.vacancy directory name) →
      EndsBefore root (followed + links) ⟨place, names, followed⟩ directory name none := by
  induction links with
  | zero =>
      intro followed place names hwalk
      rw [Entry.walk] at hwalk
      refine endsBefore_of_walkFrom (Nat.le_add_right _ _) ?_ names place hwalk
      intro place names hfollow
      cases hfollow
  | succ links ih =>
      intro followed place names hwalk
      rw [Entry.walk] at hwalk
      refine endsBefore_of_walkFrom (Nat.le_add_right _ _) ?_ names place hwalk
      intro place names hfollow
      have hends := ih (followed + 1) place names hfollow
      rwa [Nat.add_right_comm, Nat.add_assoc] at hends

end Lookup

namespace FileTree

open Lookup (EndsBefore)

variable {tree after : FileTree} {path : Path}

theorem endsBefore_of_resolve {directory : Place} {name : String}
    (hresolve : tree.resolve path = .ok (.vacancy directory name)) :
    path.IsAllowed ∧ EndsBefore tree.root linkLimit (tree.lookup path) directory name none := by
  rw [resolve] at hresolve
  cases hfault : path.fault? with
  | some error =>
      rw [hfault] at hresolve
      cases hresolve
  | none =>
      rw [hfault] at hresolve
      refine ⟨Path.fault?_eq_none_iff.mp hfault, ?_⟩
      have hends := Lookup.endsBefore_of_walk linkLimit 0 _ _ hresolve
      rwa [Nat.zero_add] at hends

theorem read_disk (tree : FileTree) (path : Path) : tree.disk.read path = tree.read path := rfl

theorem isDirectory_disk (tree : FileTree) (path : Path) :
    tree.disk.isDirectory path = tree.isDirectory path := rfl

/-! ## Trees that keep others -/

/-- A tree of files that keeps what there is in another one. -/
structure Keeps (tree after : FileTree) : Prop where
  root : tree.root.Keeps after.root
  working : after.working = tree.working

theorem Keeps.refl (tree : FileTree) : tree.Keeps tree := ⟨.refl _, rfl⟩

theorem Keeps.trans {last : FileTree} (hfirst : tree.Keeps after) (hsecond : after.Keeps last) :
    tree.Keeps last :=
  ⟨hfirst.root.trans hsecond.root, hsecond.working.trans hfirst.working⟩

theorem Keeps.start (hkeeps : tree.Keeps after) (path : Path) :
    after.start path = tree.start path := by
  rw [FileTree.start, FileTree.start, hkeeps.working]

theorem Keeps.lookup (hkeeps : tree.Keeps after) (path : Path) :
    after.lookup path = tree.lookup path := by
  rw [FileTree.lookup, FileTree.lookup, hkeeps.start]

/-- What was a directory still is one. -/
theorem Keeps.isDirectory (hkeeps : tree.Keeps after) (hdirectory : tree.isDirectory path = true) :
    after.isDirectory path = true := by
  obtain ⟨hallowed, last, hreaches, ⟨hfinished, entries, hplace⟩, hlimit⟩ :=
    isDirectory_iff.mp hdirectory
  refine isDirectory_iff.mpr ⟨hallowed, last, ?_, ⟨hfinished, hkeeps.root.directory hplace⟩, hlimit⟩
  rw [hkeeps.lookup]
  exact hkeeps.root.reaches hreaches

/-- A new entry, or a file in place of another one, changes nothing else. -/
theorem keeps_change_putChild {directory : Place} {name : String} {new : Entry}
    (hold : ∀ old, tree.root.at? (directory ++ [name]) = some old → old.Keeps new) :
    tree.Keeps (tree.change directory (Entry.putChild name new)) := by
  refine ⟨Entry.keeps_change fun entries hplace => ?_, rfl⟩
  refine Entry.keeps_putChild fun old hentry => hold old ?_
  rw [Entry.at?_concat hplace, hentry]

/-- An entry that is put under a free name stands there, and lookups find it. -/
theorem endsBefore_change {lookup : Lookup} {limit : Nat} {directory : Place} {name : String}
    (hends : EndsBefore tree.root limit lookup directory name none) (new : Entry) :
    tree.Keeps (tree.change directory (Entry.putChild name new)) ∧
      EndsBefore (tree.change directory (Entry.putChild name new)).root limit lookup directory name
        (some new) := by
  have hkeeps : tree.Keeps (tree.change directory (Entry.putChild name new)) := by
    refine keeps_change_putChild fun old hold => ?_
    rw [hends.at?_eq] at hold
    cases hold
  obtain ⟨entries, hplace, -⟩ := hends.lookup_eq
  obtain ⟨followed, hlimit, hreaches⟩ := hends.reaches
  refine ⟨hkeeps, hends.isName, ⟨_, Entry.at?_change_self hplace, ?_⟩, followed, hlimit,
    hkeeps.root.reaches hreaches⟩
  rw [Entry.lookup_putChild, if_pos rfl]

/-! ## Files -/

theorem read_of_ends {place : Place} {content : List UInt8} (hallowed : path.IsAllowed)
    (hends : Ends tree.root linkLimit (tree.lookup path) place)
    (hfile : tree.root.at? place = some (.file content)) : tree.read path = .ok content := by
  rw [read, find, resolve_eq_ok_entry_iff.mpr ⟨hallowed, hends⟩]
  simp only [hfile, Option.elim_some]

/-- A file that has been put is read back, whether its name was free or was that of a file. -/
theorem putFile_spec {content : List UInt8} (hput : tree.putFile path content = (after, true)) :
    tree.Keeps after ∧ after.read path = .ok content := by
  rw [putFile] at hput
  cases hresolve : tree.resolve path with
  | error error =>
      rw [hresolve] at hput
      cases hput
  | ok landing =>
      rw [hresolve] at hput
      cases landing with
      | vacancy directory name =>
          obtain ⟨hallowed, hends⟩ := endsBefore_of_resolve hresolve
          obtain ⟨hkeeps, hends'⟩ := endsBefore_change hends (.file content)
          obtain rfl := congrArg Prod.fst hput
          refine ⟨hkeeps, read_of_ends hallowed ?_ hends'.at?_eq⟩
          rw [hkeeps.lookup]
          exact hends'.ends (by simp)
      | entry place =>
          obtain ⟨hallowed, hends⟩ := resolve_eq_ok_entry_iff.mp hresolve
          simp only at hput
          split at hput
          · rename_i old name hfile hlast
            obtain ⟨directory, rfl⟩ := List.getLast?_eq_some_iff.mp hlast
            obtain ⟨entries, hplace, hentry⟩ := Entry.exists_entries_of_concat hfile
            rw [List.dropLast_concat] at hput
            have hkeeps : tree.Keeps
                (tree.change directory (Entry.putChild name (.file content))) := by
              refine keeps_change_putChild fun other hother => ?_
              rw [hfile] at hother
              cases hother
              exact Entry.keeps_file old content
            obtain rfl := congrArg Prod.fst hput
            refine ⟨hkeeps, read_of_ends hallowed ?_ (Entry.at?_change_putChild hplace name _)⟩
            rw [hkeeps.lookup]
            exact hkeeps.root.ends hends
          · cases hput

/-! ## Directories -/

theorem directory?_eq_some_iff {start place : Place} {names : List String} :
    tree.directory? start names = some place ↔
      Ends tree.root linkLimit ⟨start, names, 0⟩ place ∧
        ∃ entries, tree.root.at? place = some (.directory entries) := by
  have hwalk : tree.root.walk linkLimit start names = .ok (.entry place) ↔
      Ends tree.root (0 + linkLimit) ⟨start, names, 0⟩ place :=
    Lookup.walk_eq_ok_entry_iff linkLimit 0 start names
  rw [Nat.zero_add] at hwalk
  rw [directory?, ← hwalk]
  cases tree.root.walk linkLimit start names with
  | error error => simp
  | ok landing =>
      cases landing with
      | vacancy directory name => simp
      | entry final =>
          simp only [Except.ok.injEq, Landing.entry.injEq, Option.ite_none_right_eq_some,
            Option.some_inj]
          constructor
          · rintro ⟨hany, rfl⟩
            refine ⟨rfl, ?_⟩
            cases hplace : tree.root.at? final with
            | none => simp [hplace] at hany
            | some entry => cases entry <;> simp [hplace, Entry.isDirectory] at hany ⊢
          · rintro ⟨rfl, entries, hplace⟩
            simp [hplace, Entry.isDirectory]

theorem isProper_iff {name : String} : isProper name = true ↔ IsEntryName name := by
  simp only [isProper, Bool.and_eq_true, bne_iff_ne, decide_eq_true_eq]
  exact ⟨fun ⟨⟨hdot, hdots⟩, hshort⟩ => ⟨hdot, hdots, hshort⟩,
    fun ⟨hdot, hdots, hshort⟩ => ⟨⟨hdot, hdots⟩, hshort⟩⟩

/-- An entry that has been created is found under its name. -/
theorem create?_spec {start : Place} {names : List String} {entry : Entry}
    (hcreate : tree.create? start names entry = some after) :
    tree.Keeps after ∧ ∃ directory name,
      EndsBefore after.root linkLimit ⟨start, names, 0⟩ directory name (some entry) := by
  simp only [create?, Option.bind_eq_bind, Option.bind_eq_some_iff, Bool.and_eq_true,
    Option.ite_none_right_eq_some, Option.some_inj, isProper_iff, Option.isNone_iff_eq_none]
    at hcreate
  obtain ⟨name, hlast, directory, hdirectory, ⟨hname, hfree⟩, rfl⟩ := hcreate
  obtain ⟨front, rfl⟩ := List.getLast?_eq_some_iff.mp hlast
  rw [List.dropLast_concat, directory?_eq_some_iff] at hdirectory
  obtain ⟨⟨followed, hlimit, hreaches⟩, entries, hplace⟩ := hdirectory
  have hends : EndsBefore tree.root linkLimit ⟨start, front ++ [name], 0⟩ directory name none := by
    rw [Entry.at?_concat hplace] at hfree
    exact ⟨hname, ⟨entries, hplace, hfree⟩, followed, hlimit,
      Lookup.reaches_append hreaches [name]⟩
  obtain ⟨hkeeps, hends'⟩ := endsBefore_change hends entry
  exact ⟨hkeeps, directory, name, hends'⟩

theorem keeps_makeAlong (start : Place) (rest : List String) :
    ∀ (tree : FileTree) (passed : List String),
      tree.Keeps (tree.makeAlong start passed rest).1 := by
  induction rest with
  | nil =>
      intro tree passed
      exact .refl tree
  | cons name rest ih =>
      intro tree passed
      rw [makeAlong]
      split
      · exact ih tree _
      · cases hcreate : tree.create? start (passed ++ [name]) (.directory []) with
        | none => exact .refl tree
        | some next => exact (create?_spec hcreate).1.trans (ih next _)

/-- The names that directories have been made along lead to a directory. -/
theorem isSome_directory?_of_makeAlong {start : Place} {rest : List String} :
    ∀ {tree : FileTree} {passed : List String},
      tree.makeAlong start passed rest = (after, true) →
      (rest = [] → (tree.directory? start passed).isSome = true) →
        (after.directory? start (passed ++ rest)).isSome = true := by
  -- each name is passed when it leads to a directory, at once or after one has been made
  induction rest with
  | nil =>
      intro tree passed hmake hpassed
      obtain rfl : tree = after := congrArg Prod.fst hmake
      rw [List.append_nil]
      exact hpassed rfl
  | cons name rest ih =>
      intro tree passed hmake _
      rw [makeAlong] at hmake
      rw [List.append_cons]
      split at hmake
      · rename_i hfound
        exact ih hmake fun _ => hfound
      · cases hcreate : tree.create? start (passed ++ [name]) (.directory []) with
        | none =>
            rw [hcreate] at hmake
            cases hmake
        | some next =>
            rw [hcreate] at hmake
            refine ih hmake fun _ => ?_
            obtain ⟨-, directory, last, hends⟩ := create?_spec hcreate
            rw [Option.isSome_iff_exists]
            exact ⟨_, directory?_eq_some_iff.mpr ⟨hends.ends (by simp), [], hends.at?_eq⟩⟩

theorem isDirectory_of_directory? {place : Place} (hallowed : path.IsAllowed)
    (hdirectory : tree.directory? (tree.start path) path.names = some place) :
    tree.isDirectory path = true := by
  obtain ⟨⟨followed, hlimit, hreaches⟩, entries, hplace⟩ := directory?_eq_some_iff.mp hdirectory
  refine isDirectory_iff.mpr ⟨hallowed, ⟨place, [], followed⟩, ?_, ⟨rfl, entries, hplace⟩, hlimit⟩
  rw [lookup, Path.steps]
  split
  · -- a slash at the end stays where it is
    exact .tail (Lookup.reaches_append hreaches ["."]) (.stay hplace rfl)
  · rwa [List.append_nil]

theorem keeps_makeDirectory (tree : FileTree) (path : Path) :
    tree.Keeps (tree.makeDirectory path).1 := by
  rw [makeDirectory]
  split
  · exact .refl tree
  · split
    · exact .refl tree
    · exact keeps_makeAlong _ _ tree []

/-- **A directory that has been made is one.** -/
theorem isDirectory_of_makeDirectory (hmake : tree.makeDirectory path = (after, true))
    (hnames : path.names ≠ []) : after.isDirectory path = true := by
  have hkeeps : tree.Keeps after := by
    have hkeeps := keeps_makeDirectory tree path
    rwa [hmake] at hkeeps
  rw [makeDirectory] at hmake
  split at hmake
  · rename_i hempty
    exact absurd (Path.names_of_empty (String.isEmpty_iff.mp hempty)) hnames
  · split at hmake
    · cases hmake
    · rename_i hfault
      have hsome := isSome_directory?_of_makeAlong hmake fun hnil => absurd hnil hnames
      obtain ⟨place, hplace⟩ := Option.isSome_iff_exists.mp hsome
      rw [← hkeeps.start] at hplace
      exact isDirectory_of_directory? (Path.fault?_eq_none_iff.mp hfault) hplace

/-- **A file that has been written is read back**, and all that there was before is still there. -/
theorem read_of_write {content : List UInt8} (hwrite : tree.write path content = (after, true)) :
    tree.Keeps after ∧ after.read path = .ok content := by
  rw [write] at hwrite
  split at hwrite
  · cases hwrite
  · have hkeeps := keeps_makeAlong (tree.start path) (ownNames path).dropLast tree []
    split at hwrite
    · rename_i made hmade
      rw [hmade] at hkeeps
      obtain ⟨hkeeps', hread⟩ := putFile_spec hwrite
      exact ⟨hkeeps.trans hkeeps', hread⟩
    · cases hwrite

/-- **A link leads where its target leads**, seen from the directory that it is in. -/
theorem reaches_of_makeLink {target : Path} (hmake : tree.makeLink path target = (after, true)) :
    tree.Keeps after ∧ ∃ directory followed,
      (∃ entries, after.root.at? directory = some (.directory entries)) ∧ followed ≤ linkLimit ∧
      Reaches after.root (after.lookup path)
        ⟨if target.isAbsolute then [] else directory, target.steps, followed + 1⟩ := by
  rw [makeLink] at hmake
  split at hmake
  · cases hmake
  · rename_i hsound
    simp only [Bool.or_eq_true, not_or, Bool.not_eq_true] at hsound
    cases hcreate : tree.create? (tree.start path) path.names (.link target) with
    | none =>
        rw [hcreate] at hmake
        cases hmake
    | some next =>
        rw [hcreate] at hmake
        obtain rfl : next = after := congrArg Prod.fst hmake
        obtain ⟨hkeeps, directory, name, hends⟩ := create?_spec hcreate
        obtain ⟨entries, hplace, hentry⟩ := hends.lookup_eq
        obtain ⟨followed, hlimit, hreaches⟩ := hends.reaches
        refine ⟨hkeeps, directory, followed, ⟨entries, hplace⟩, hlimit, ?_⟩
        have hsteps : path.steps = path.names := by
          rw [Path.steps, hsound.2]
          simp
        rw [hkeeps.lookup, lookup, hsteps]
        have hfollow : Step next.root ⟨directory, [name], followed⟩
            ⟨if target.isAbsolute then [] else directory, target.steps ++ [], followed + 1⟩ :=
          .follow hplace hends.isName hentry
        rw [List.append_nil] at hfollow
        exact .tail hreaches hfollow

/-! ## Removing -/

theorem exists_of_remove (hremove : tree.remove path = (after, true)) :
    ∃ front name directory, path.names = front ++ [name] ∧ name ≠ "." ∧ name ≠ ".." ∧
      tree.directory? (tree.start path) front = some directory ∧
      after = tree.change directory fun entries => entries.filter (·.1 != name) := by
  rw [remove] at hremove
  split at hremove
  · cases hremove
  · cases hremove
  · rename_i name _ hlast
    obtain ⟨front, hfront⟩ := List.getLast?_eq_some_iff.mp hlast
    rw [hfront, List.dropLast_concat] at hremove
    split at hremove
    · split at hremove <;> cases hremove
    · rename_i hdots
      simp only [Bool.or_eq_true, beq_iff_eq, not_or] at hdots
      split at hremove
      · cases hremove
      · rename_i directory hdirectory
        split at hremove
        · cases hremove
        · split at hremove
          · cases hremove
          · exact ⟨front, name, directory, hfront, hdots.1, hdots.2, hdirectory,
              (congrArg Prod.fst hremove).symm⟩

/-- **What has been removed is gone**: its path leads to no entry, and there is nothing new. -/
theorem find_of_remove (hremove : tree.remove path = (after, true)) :
    after.Keeps tree ∧ ∀ entry, after.find path ≠ .ok entry := by
  obtain ⟨front, name, directory, hnames, hdot, hdots, hdirectory, hafter⟩ :=
    exists_of_remove hremove
  obtain ⟨⟨followed, -, hreaches⟩, entries, hplace⟩ := directory?_eq_some_iff.mp hdirectory
  have hkeeps : after.Keeps tree := by
    rw [hafter]
    exact ⟨Entry.change_keeps fun entries _ => Entry.filter_keeps name entries, rfl⟩
  refine ⟨hkeeps, fun entry hfind => ?_⟩
  -- the lookup still comes to the directory, where there is no such name any more
  have hmiddle := Lookup.reaches_append hreaches
    (name :: if path.endsInSlash then ["."] else [])
  have hlookup : after.lookup path = ⟨tree.start path,
      front ++ name :: (if path.endsInSlash then ["."] else []), 0⟩ := by
    rw [← hkeeps.lookup, lookup, Path.steps, hnames, List.append_assoc]
    rfl
  have hblocked : Blocked after.root
      ⟨directory, name :: (if path.endsInSlash then ["."] else []), followed⟩ := by
    rw [hafter]
    refine Entry.blocked_of_lookup_eq_none (Entry.at?_change_self hplace) hdot hdots ?_
    rw [Entry.lookup_filter, if_pos rfl]
  have hnowhere : ∀ place, ¬ Ends after.root linkLimit (after.lookup path) place := by
    intro place
    rw [hlookup]
    exact hkeeps.root.not_ends hmiddle hblocked (List.cons_ne_nil _ _)
  rw [find] at hfind
  split at hfind
  · cases hfind
  · cases hfind
  · rename_i place hresolve
    exact hnowhere place (resolve_eq_ok_entry_iff.mp hresolve).2

end FileTree

end MtaCheck
