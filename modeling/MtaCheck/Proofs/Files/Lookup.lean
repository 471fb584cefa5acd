import Mathlib.Logic.Relation
import Mathlib.Order.WellFounded
import Mathlib.Data.Prod.Lex
import MtaCheck.Files.Resolve

/-!
# Looking up a path, step by step

`Entry.walk` follows a path by a recursion on its names inside of one on the number of links that
may still be replaced.  This file says without any recursion where a path leads.

* `Lookup.Step` is one step of a lookup in any tree of files, with links to wherever they may point:
  back to themselves, around a circle, or to nothing.  It has no limit.
* A lookup that makes no step has arrived in a directory or is blocked, and `Lookup.Blocked` lists
  the obstacles (`arrived_or_step_or_blocked`).
* Some lookups are endless, but those with a limit for their links are not (`wellFounded_within`):
  they arrive, or come to an obstacle or to too many links (`exists_end`).

`FileTree.isDirectory_iff` ties the recursion to the steps, and `absent_iff` says for what reasons a
path may lead to no directory.
-/

namespace MtaCheck

/-- A lookup on its way: the place that it has come to, the names that it has yet to follow, and
the number of links that it has replaced so far. -/
structure Lookup where
  place : Place
  names : List String
  followed : Nat

namespace Lookup

open Relation (ReflTransGen)

/-! ## Steps -/

/-- A name that an entry of a directory can have. -/
structure IsEntryName (name : String) : Prop where
  not_dot : name ≠ "."
  not_dots : name ≠ ".."
  short : name.utf8ByteSize ≤ nameLimit

/-- One step of a lookup.  It starts from a directory.  A dot stays there, two dots lead up, and the
name of an entry leads into it; but a link is replaced by the names of its target, which begin at
the root if the target does. -/
inductive Step (root : Entry) : Lookup → Lookup → Prop
  | stay {place : Place} {entries : List (String × Entry)} {name : String} {rest : List String}
      {followed : Nat} (hplace : root.at? place = some (.directory entries)) (hname : name = ".") :
      Step root ⟨place, name :: rest, followed⟩ ⟨place, rest, followed⟩
  | up {place : Place} {entries : List (String × Entry)} {name : String} {rest : List String}
      {followed : Nat} (hplace : root.at? place = some (.directory entries)) (hname : name = "..") :
      Step root ⟨place, name :: rest, followed⟩ ⟨place.dropLast, rest, followed⟩
  | enter {place : Place} {entries : List (String × Entry)} {name : String} {entry : Entry}
      {rest : List String} {followed : Nat} (hplace : root.at? place = some (.directory entries))
      (hname : IsEntryName name) (hentry : entries.lookup name = some entry)
      (hlink : ∀ target, entry ≠ .link target) :
      Step root ⟨place, name :: rest, followed⟩ ⟨place ++ [name], rest, followed⟩
  | follow {place : Place} {entries : List (String × Entry)} {name : String} {target : Path}
      {rest : List String} {followed : Nat} (hplace : root.at? place = some (.directory entries))
      (hname : IsEntryName name) (hentry : entries.lookup name = some (.link target)) :
      Step root ⟨place, name :: rest, followed⟩
        ⟨if target.isAbsolute then [] else place, target.steps ++ rest, followed + 1⟩

/-- A lookup that has come to its end in a directory. -/
structure Arrived (root : Entry) (lookup : Lookup) : Prop where
  finished : lookup.names = []
  directory : ∃ entries, root.at? lookup.place = some (.directory entries)

/-- A lookup that cannot go on and has not arrived in a directory. -/
inductive Blocked (root : Entry) : Lookup → Prop
  /-- The place that it started from is not there. -/
  | gone {lookup : Lookup} (hplace : root.at? lookup.place = none) : Blocked root lookup
  /-- It has come to a file, with or without more names to follow. -/
  | notDirectory {lookup : Lookup} {entry : Entry} (hplace : root.at? lookup.place = some entry)
      (hentry : entry.isDirectory = false) : Blocked root lookup
  /-- The directory has no entry of the next name. -/
  | missing {place : Place} {entries : List (String × Entry)} {name : String} {rest : List String}
      {followed : Nat} (hplace : root.at? place = some (.directory entries))
      (hname : IsEntryName name) (hentry : entries.lookup name = none) :
      Blocked root ⟨place, name :: rest, followed⟩
  /-- No entry can have the next name. -/
  | longName {place : Place} {entries : List (String × Entry)} {name : String} {rest : List String}
      {followed : Nat} (hplace : root.at? place = some (.directory entries))
      (hlong : nameLimit < name.utf8ByteSize) : Blocked root ⟨place, name :: rest, followed⟩

/-- The lookups that come from another one by any number of steps. -/
abbrev Reaches (root : Entry) : Lookup → Lookup → Prop := ReflTransGen (Step root)

variable {root : Entry} {lookup next last : Lookup}

theorem entries_unique {place : Place} {entries entries' : List (String × Entry)}
    (hplace : root.at? place = some (.directory entries))
    (hplace' : root.at? place = some (.directory entries')) : entries = entries' := by
  rw [hplace] at hplace'
  cases hplace'
  rfl

/-- The next name and the entry that it has decide between the steps. -/
theorem step_unique {next' : Lookup} (hstep : Step root lookup next)
    (hstep' : Step root lookup next') : next = next' := by
  have hdots : ¬ IsEntryName ".." := fun hname => hname.not_dots rfl
  have hdot : ¬ IsEntryName "." := fun hname => hname.not_dot rfl
  cases hstep <;> cases hstep' <;> grind

theorem not_step_of_nil (hnames : lookup.names = []) : ¬ Step root lookup next := by
  intro hstep
  cases hstep <;> cases hnames

theorem not_step_of_blocked (hblocked : Blocked root lookup) : ¬ Step root lookup next := by
  intro hstep
  cases hblocked with
  | gone hplace => cases hstep <;> simp_all
  | notDirectory hplace hentry => cases hstep <;> simp_all [Entry.isDirectory]
  | missing hplace hname hentry =>
      cases hstep with
      | stay _ hdot => exact hname.not_dot hdot
      | up _ hdots => exact hname.not_dots hdots
      | enter hplace' _ hentry' | follow hplace' _ hentry' =>
          obtain rfl := entries_unique hplace hplace'
          rw [hentry] at hentry'
          cases hentry'
  | longName hplace hlong =>
      have hdot : ".".utf8ByteSize ≤ nameLimit := by decide
      have hdots : "..".utf8ByteSize ≤ nameLimit := by decide
      cases hstep with
      | stay _ hname => exact absurd (hname ▸ hdot) (Nat.not_le_of_lt hlong)
      | up _ hname => exact absurd (hname ▸ hdots) (Nat.not_le_of_lt hlong)
      | enter _ hname | follow _ hname => exact absurd hname.short (Nat.not_le_of_lt hlong)

theorem not_blocked_of_arrived (harrived : Arrived root lookup) : ¬ Blocked root lookup := by
  obtain ⟨entries, hplace⟩ := harrived.directory
  have hnames := harrived.finished
  intro hblocked
  cases hblocked with
  | gone hgone => simp [hplace] at hgone
  | notDirectory hother hentry =>
      rw [hplace, Option.some_inj] at hother
      simp [← hother, Entry.isDirectory] at hentry
  | missing | longName => cases hnames

/-- A lookup that makes no step has come to an end, in a directory or before an obstacle. -/
theorem arrived_or_step_or_blocked (root : Entry) (lookup : Lookup) :
    Arrived root lookup ∨ (∃ next, Step root lookup next) ∨ Blocked root lookup := by
  obtain ⟨place, names, followed⟩ := lookup
  -- the cases are asked for in the order in which the walk asks for them
  cases hplace : root.at? place with
  | none => exact .inr (.inr (.gone hplace))
  | some here =>
      cases here with
      | file content => exact .inr (.inr (.notDirectory hplace rfl))
      | link target => exact .inr (.inr (.notDirectory hplace rfl))
      | directory entries =>
          cases names with
          | nil => exact .inl ⟨rfl, entries, hplace⟩
          | cons name rest =>
              right
              by_cases hdot : name = "."
              · exact .inl ⟨_, .stay hplace hdot⟩
              by_cases hdots : name = ".."
              · exact .inl ⟨_, .up hplace hdots⟩
              by_cases hshort : name.utf8ByteSize ≤ nameLimit
              · have hname : IsEntryName name := ⟨hdot, hdots, hshort⟩
                cases hentry : entries.lookup name with
                | none => exact .inr (.missing hplace hname hentry)
                | some entry =>
                    left
                    cases entry with
                    | link target => exact ⟨_, .follow hplace hname hentry⟩
                    | file | directory => exact ⟨_, .enter hplace hname hentry (by simp)⟩
              · exact .inr (.longName hplace (Nat.lt_of_not_le hshort))

/-! ## Many steps -/

theorem followed_le (hreaches : Reaches root lookup last) : lookup.followed ≤ last.followed := by
  induction hreaches with
  | refl => exact Nat.le_refl _
  | tail _ hstep ih =>
      cases hstep with
      | follow => exact Nat.le_succ_of_le ih
      | _ => exact ih

/-- A lookup that can go on goes on to where it ends. -/
theorem reaches_end_iff (hstep : Step root lookup next) (hnames : last.names = []) :
    Reaches root lookup last ↔ Reaches root next last := by
  rw [Reaches, ReflTransGen.cases_head_iff]
  constructor
  · rintro (rfl | ⟨next', hstep', hreaches⟩)
    · exact absurd hstep (not_step_of_nil hnames)
    · rwa [step_unique hstep hstep']
  · intro hreaches
    exact .inr ⟨next, hstep, hreaches⟩

/-- A step is either one name further or one link further. -/
theorem step_progress (hstep : Step root lookup next) :
    next.followed = lookup.followed ∧ next.names.length < lookup.names.length ∨
      next.followed = lookup.followed + 1 := by
  cases hstep with
  | follow => exact .inr rfl
  | stay | up | enter => exact .inl ⟨rfl, Nat.lt_succ_self _⟩

/-- How far a lookup may still go: the links that are left, and the names before the next one. -/
def remaining (limit : Nat) (lookup : Lookup) : ℕ ×ₗ ℕ :=
  toLex (limit + 1 - lookup.followed, lookup.names.length)

/-- No lookup makes endless steps if there is a limit for its links. -/
theorem wellFounded_within (root : Entry) (limit : Nat) :
    WellFounded fun next lookup => Step root lookup next ∧ lookup.followed ≤ limit := by
  refine Subrelation.wf ?_ (InvImage.wf (remaining limit) wellFounded_lt)
  rintro next lookup ⟨hstep, hlimit⟩
  change remaining limit next < remaining limit lookup
  rw [remaining, remaining, Prod.Lex.toLex_lt_toLex]
  -- a link may bring in any number of names, so the links that are left count first
  rcases step_progress hstep with ⟨hfollowed, hnames⟩ | hfollowed
  · exact .inr ⟨by rw [hfollowed], hnames⟩
  · left
    simp only [hfollowed]
    omega

/-! ## The recursion makes these steps -/

/-- A lookup that ends at a place and has replaced at most `limit` links by then. -/
def Ends (root : Entry) (limit : Nat) (lookup : Lookup) (place : Place) : Prop :=
  ∃ followed ≤ limit, Reaches root lookup ⟨place, [], followed⟩

section Ends

variable {limit followed : Nat} {place final : Place}

theorem ends_of_nil (hlimit : followed ≤ limit) :
    Ends root limit ⟨place, [], followed⟩ final ↔ place = final := by
  constructor
  · rintro ⟨followed', -, hreaches⟩
    rcases hreaches.cases_head with heq | ⟨next, hstep, -⟩
    · cases heq
      rfl
    · exact absurd hstep (not_step_of_nil rfl)
  · rintro rfl
    exact ⟨followed, hlimit, .refl⟩

theorem ends_iff_of_step (hstep : Step root lookup next) :
    Ends root limit lookup final ↔ Ends root limit next final := by
  simp only [Ends, reaches_end_iff hstep]

theorem not_ends_of_blocked {name : String} {rest : List String}
    (hblocked : Blocked root ⟨place, name :: rest, followed⟩) :
    ¬ Ends root limit ⟨place, name :: rest, followed⟩ final := by
  rintro ⟨followed', -, hreaches⟩
  rcases hreaches.cases_head with heq | ⟨next, hstep, -⟩
  · cases heq
  · exact not_step_of_blocked hblocked hstep

theorem not_ends_of_lt (hlimit : limit < lookup.followed) : ¬ Ends root limit lookup final := by
  rintro ⟨followed', hfollowed, hreaches⟩
  have := followed_le hreaches
  exact absurd (hlimit.trans_le this) (Nat.not_lt_of_le hfollowed)

/-- What walking does with a name: it fails at an obstacle, or finds a free name at the end, or takes
the step of a lookup, behind which `follow` goes on if a link has been replaced. -/
theorem walkFrom_cons (root : Entry) (follow : Place → List String → Except FileError Landing)
    (place : Place) (name : String) (rest : List String) (followed : Nat) :
    (∃ error, root.walkFrom follow place (name :: rest) = .error error ∧
        Blocked root ⟨place, name :: rest, followed⟩) ∨
      (∃ entries, root.walkFrom follow place (name :: rest) = .ok (.vacancy place name) ∧
        rest = [] ∧ root.at? place = some (.directory entries) ∧ IsEntryName name ∧
        entries.lookup name = none) ∨
      (∃ next, root.walkFrom follow place (name :: rest) = root.walkFrom follow next rest ∧
        Step root ⟨place, name :: rest, followed⟩ ⟨next, rest, followed⟩) ∨
      ∃ next names, root.walkFrom follow place (name :: rest) = follow next names ∧
        Step root ⟨place, name :: rest, followed⟩ ⟨next, names, followed + 1⟩ := by
  rw [Entry.walkFrom]
  cases hplace : root.at? place with
  | none => exact .inl ⟨_, rfl, .gone hplace⟩
  | some here =>
      cases here with
      | file | link => exact .inl ⟨_, rfl, .notDirectory hplace rfl⟩
      | directory entries =>
          simp only [Entry.isDirectory, Bool.not_true, Bool.false_eq_true, if_false, beq_iff_eq,
            Entry.child?]
          by_cases hdot : name = "."
          · exact .inr (.inr (.inl ⟨place, if_pos hdot, .stay hplace hdot⟩))
          rw [if_neg hdot]
          by_cases hdots : name = ".."
          · exact .inr (.inr (.inl ⟨place.dropLast, if_pos hdots, .up hplace hdots⟩))
          rw [if_neg hdots]
          by_cases hlong : name.utf8ByteSize > nameLimit
          · exact .inl ⟨_, if_pos hlong, .longName hplace hlong⟩
          rw [if_neg hlong]
          have hname : IsEntryName name := ⟨hdot, hdots, Nat.le_of_not_lt hlong⟩
          cases hentry : entries.lookup name with
          | none =>
              cases rest with
              | nil => exact .inr (.inl ⟨entries, rfl, rfl, rfl, hname, hentry⟩)
              | cons => exact .inl ⟨_, rfl, .missing hplace hname hentry⟩
          | some entry =>
              cases entry with
              | link target => exact .inr (.inr (.inr ⟨_, _, rfl, .follow hplace hname hentry⟩))
              | file | directory =>
                  exact .inr (.inr (.inl ⟨_, rfl, .enter hplace hname hentry (by simp)⟩))

/-- Walking along names makes the steps of a lookup, if `follow` goes on as a lookup does behind
a link. -/
theorem walkFrom_eq_ok_entry_iff {follow : Place → List String → Except FileError Landing}
    (hlimit : followed ≤ limit)
    (hfollow : ∀ place names,
      follow place names = .ok (.entry final) ↔ Ends root limit ⟨place, names, followed + 1⟩ final)
    (names : List String) :
    ∀ place, root.walkFrom follow place names = .ok (.entry final) ↔
      Ends root limit ⟨place, names, followed⟩ final := by
  -- by induction on the names: a link hands over what is left of them to `follow`, and every other
  -- step takes one name off
  induction names with
  | nil =>
      intro place
      rw [ends_of_nil hlimit, Entry.walkFrom]
      simp
  | cons name rest ih =>
      intro place
      rcases walkFrom_cons root follow place name rest followed with
        ⟨error, hwalk, hblocked⟩ | ⟨entries, hwalk, -, hplace, hname, hentry⟩ |
          ⟨next, hwalk, hstep⟩ | ⟨next, names, hwalk, hstep⟩
      · simp [hwalk, not_ends_of_blocked hblocked]
      · simp [hwalk, not_ends_of_blocked (.missing hplace hname hentry)]
      · rw [hwalk, ih, ends_iff_of_step hstep]
      · rw [hwalk, hfollow, ends_iff_of_step hstep]

/-- So does walking over links, where those that may still be replaced are counted down. -/
theorem walk_eq_ok_entry_iff (links : Nat) :
    ∀ followed place names, root.walk links place names = .ok (.entry final) ↔
      Ends root (followed + links) ⟨place, names, followed⟩ final := by
  induction links with
  | zero =>
      intro followed place names
      rw [Entry.walk]
      refine walkFrom_eq_ok_entry_iff (Nat.le_add_right _ _) ?_ names place
      intro place names
      -- no link may be replaced any more, and no lookup with one more ends within the limit
      have hover : ¬ Ends root followed ⟨place, names, followed + 1⟩ final :=
        not_ends_of_lt (Nat.lt_succ_self _)
      simp [hover]
  | succ links ih =>
      intro followed place names
      rw [Entry.walk]
      refine walkFrom_eq_ok_entry_iff (Nat.le_add_right _ _) ?_ names place
      intro place names
      rw [ih (followed + 1), Nat.add_right_comm, Nat.add_assoc]

end Ends

/-! ## Every lookup comes to an end -/

theorem reaches_total {last' : Lookup} (hreaches : Reaches root lookup last)
    (hreaches' : Reaches root lookup last') : Reaches root last last' ∨ Reaches root last' last :=
  ReflTransGen.total_of_right_unique (fun _ _ _ => step_unique) hreaches hreaches'

theorem eq_of_reaches (hstuck : ∀ next, ¬ Step root lookup next)
    (hreaches : Reaches root lookup last) : lookup = last := by
  rcases hreaches.cases_head with heq | ⟨next, hstep, -⟩
  · exact heq
  · exact absurd hstep (hstuck next)

theorem eq_of_reaches_arrived (harrived : Arrived root lookup)
    (hreaches : Reaches root lookup last) : lookup = last :=
  eq_of_reaches (fun _ => not_step_of_nil harrived.finished) hreaches

/-- A lookup arrives in a directory, comes to an obstacle, or comes to too many links. -/
theorem exists_end (root : Entry) (limit : Nat) (lookup : Lookup) :
    ∃ last, Reaches root lookup last ∧
      (Arrived root last ∧ last.followed ≤ limit ∨ Blocked root last ∨ limit < last.followed) := by
  -- within the limit the steps come to an end, and they end in one of the three ways
  induction lookup using (wellFounded_within root limit).induction with
  | _ lookup ih =>
      by_cases hlimit : limit < lookup.followed
      · exact ⟨lookup, .refl, .inr (.inr hlimit)⟩
      have hwithin : lookup.followed ≤ limit := Nat.le_of_not_lt hlimit
      rcases arrived_or_step_or_blocked root lookup with harrived | ⟨next, hstep⟩ | hblocked
      · exact ⟨lookup, .refl, .inl ⟨harrived, hwithin⟩⟩
      · obtain ⟨last, hreaches, hlast⟩ := ih next ⟨hstep, hwithin⟩
        exact ⟨last, .head hstep hreaches, hlast⟩
      · exact ⟨lookup, .refl, .inr (.inl hblocked)⟩

/-- The three ways exclude each other. -/
theorem not_blocked_of_reaches {last' : Lookup} (hreaches : Reaches root lookup last)
    (harrived : Arrived root last) (hreaches' : Reaches root lookup last') :
    ¬ Blocked root last' ∧ last'.followed ≤ last.followed := by
  rcases reaches_total hreaches hreaches' with hfirst | hfirst
  · obtain rfl := eq_of_reaches_arrived harrived hfirst
    exact ⟨not_blocked_of_arrived harrived, Nat.le_refl _⟩
  · refine ⟨?_, followed_le hfirst⟩
    intro hblocked
    obtain rfl := eq_of_reaches (fun _ => not_step_of_blocked hblocked) hfirst
    exact not_blocked_of_arrived harrived hblocked

end Lookup

/-! ## Where a path leads -/

/-- What a path must be for any lookup to begin. -/
structure Path.IsAllowed (path : Path) : Prop where
  not_empty : path.text ≠ ""
  no_nul : '\x00' ∉ path.text.toList
  short : path.text.utf8ByteSize ≤ pathLimit

theorem Path.fault?_eq_none_iff {path : Path} : path.fault? = none ↔ path.IsAllowed := by
  have hnul : path.text.toList.contains '\x00' = true ↔ '\x00' ∈ path.text.toList :=
    List.contains_iff_mem
  have hempty : path.text.isEmpty = true ↔ path.text = "" := String.isEmpty_iff
  rw [Path.fault?]
  constructor
  · intro hfault
    split_ifs at hfault with hfirst hsecond hthird
    exact ⟨mt hempty.mpr hsecond, mt hnul.mpr hfirst, Nat.le_of_not_lt hthird⟩
  · rintro ⟨htext, hletters, hshort⟩
    rw [if_neg (mt hnul.mp hletters), if_neg (mt hempty.mp htext), if_neg (Nat.not_lt_of_le hshort)]

namespace FileTree

open Lookup

variable {tree : FileTree} {path : Path}

/-- The lookup of a path, at its beginning. -/
def lookup (tree : FileTree) (path : Path) : Lookup := ⟨tree.start path, path.steps, 0⟩

/-- A path leads to a directory if its lookup arrives in one before there are too many links. -/
structure LeadsToDirectory (tree : FileTree) (path : Path) : Prop where
  allowed : path.IsAllowed
  arrives : ∃ last, Reaches tree.root (tree.lookup path) last ∧ Arrived tree.root last ∧
    last.followed ≤ linkLimit

theorem resolve_eq_ok_entry_iff {place : Place} :
    tree.resolve path = .ok (.entry place) ↔
      path.IsAllowed ∧ Ends tree.root linkLimit (tree.lookup path) place := by
  rw [resolve, ← Path.fault?_eq_none_iff]
  cases hfault : path.fault? with
  | some error => simp
  | none =>
      have hwalk : tree.root.walk linkLimit (tree.start path) path.steps = .ok (.entry place) ↔
          Ends tree.root (0 + linkLimit) ⟨tree.start path, path.steps, 0⟩ place :=
        walk_eq_ok_entry_iff linkLimit 0 _ _
      rw [Nat.zero_add] at hwalk
      simp only [hwalk, true_and]
      rfl

theorem isDirectory_iff : tree.isDirectory path = true ↔ tree.LeadsToDirectory path := by
  have hdirectory : tree.isDirectory path = true ↔
      ∃ place entries, tree.resolve path = .ok (.entry place) ∧
        tree.root.at? place = some (.directory entries) := by
    rw [isDirectory, find]
    cases tree.resolve path with
    | error error => simp
    | ok landing =>
        cases landing with
        | vacancy directory name => simp
        | entry place =>
            cases hplace : tree.root.at? place with
            | none => simp [hplace]
            | some entry => cases entry <;> simp [hplace, Entry.isDirectory]
  rw [hdirectory]
  constructor
  · rintro ⟨place, entries, hresolve, hplace⟩
    obtain ⟨hallowed, followed, hlimit, hreaches⟩ := resolve_eq_ok_entry_iff.mp hresolve
    exact ⟨hallowed, _, hreaches, ⟨rfl, entries, hplace⟩, hlimit⟩
  · rintro ⟨hallowed, ⟨place, names, followed⟩, hreaches, ⟨hnames, entries, hplace⟩, hlimit⟩
    obtain rfl : names = [] := hnames
    have hresolve : tree.resolve path = .ok (.entry place) :=
      resolve_eq_ok_entry_iff.mpr ⟨hallowed, followed, hlimit, hreaches⟩
    exact ⟨place, entries, hresolve, hplace⟩

instance (tree : FileTree) (path : Path) : Decidable (tree.LeadsToDirectory path) :=
  decidable_of_iff _ isDirectory_iff

/-- Why a path leads to no directory. -/
inductive Absent (tree : FileTree) (path : Path) : Prop
  /-- There is no lookup of it. -/
  | refused (hrefused : ¬ path.IsAllowed)
  /-- The lookup comes to an obstacle. -/
  | blocked {last : Lookup} (hreaches : Reaches tree.root (tree.lookup path) last)
      (hblocked : Blocked tree.root last)
  /-- The lookup comes to more links than it may follow. -/
  | tooManyLinks {last : Lookup} (hreaches : Reaches tree.root (tree.lookup path) last)
      (hlimit : linkLimit < last.followed)

/-- The lookup of a path goes on forever. -/
def Loops (tree : FileTree) (path : Path) : Prop :=
  ∃ lookups : Nat → Lookup, lookups 0 = tree.lookup path ∧
    ∀ count, Lookup.Step tree.root (lookups count) (lookups (count + 1))

theorem absent_iff : tree.Absent path ↔ ¬ tree.LeadsToDirectory path := by
  constructor
  · rintro habsent ⟨hallowed, last, hreaches, harrived, hlimit⟩
    cases habsent with
    | refused hrefused => exact hrefused hallowed
    | blocked hreaches' hblocked =>
        exact (not_blocked_of_reaches hreaches harrived hreaches').1 hblocked
    | tooManyLinks hreaches' hlimit' =>
        have hfollowed := (not_blocked_of_reaches hreaches harrived hreaches').2
        exact absurd (hlimit'.trans_le hfollowed) (Nat.not_lt_of_le hlimit)
  · intro hnowhere
    by_cases hallowed : path.IsAllowed
    · obtain ⟨last, hreaches, harrived | hblocked | hlimit⟩ :=
        exists_end tree.root linkLimit (tree.lookup path)
      · exact absurd ⟨hallowed, last, hreaches, harrived⟩ hnowhere
      · exact .blocked hreaches hblocked
      · exact .tooManyLinks hreaches hlimit
    · exact .refused hallowed

/-- A path whose lookup goes on forever leads to no directory, for it comes to too many links. -/
theorem absent_of_loops (hloops : tree.Loops path) : tree.Absent path := by
  obtain ⟨lookups, hfirst, hsteps⟩ := hloops
  have hreaches : ∀ count, Reaches tree.root (tree.lookup path) (lookups count) := by
    intro count
    induction count with
    | zero => rw [hfirst]
    | succ count ih => exact .tail ih (hsteps count)
  by_cases hlimit : ∀ count, (lookups count).followed ≤ linkLimit
  · have hdescends := wellFounded_iff_isEmpty_descending_chain.mp
      (wellFounded_within tree.root linkLimit)
    exact (hdescends.false ⟨lookups, fun count => ⟨hsteps count, hlimit count⟩⟩).elim
  · push Not at hlimit
    obtain ⟨count, hcount⟩ := hlimit
    exact .tooManyLinks (hreaches count) hcount

end FileTree

end MtaCheck
