import MtaCheck.Proofs.Files.Lookup

/-!
# Trees that keep what is in others

`Entry.Keeps` says of two trees that every entry of the first is one of the second, of the same
kind, and that no link has another target.  Then a lookup makes the same steps in both
(`Keeps.reaches`).  In the other direction it makes the same first steps, and if it is blocked there,
it ends nowhere (`Keeps.not_ends`).

`Entry.change` changes the entries of one directory of a tree.  What this does to the directory it
does to the tree, which `change_induction` says for any relation: a tree keeps what there is in
another one if the directory does that is changed (`keeps_change`, `change_keeps`).
-/

namespace MtaCheck

open Lookup (Step Reaches Ends Blocked IsEntryName)

namespace Entry

/-! ## Entries at places -/

theorem at?_append (front back : Place) :
    ∀ entry : Entry, entry.at? (front ++ back) = (entry.at? front).bind (·.at? back) := by
  induction front with
  | nil =>
      intro entry
      rfl
  | cons name front ih =>
      intro entry
      rw [List.cons_append, at?, at?, Option.bind_assoc]
      exact congrArg _ (funext ih)

theorem at?_directory_cons (entries : List (String × Entry)) (name : String) (place : Place) :
    (directory entries).at? (name :: place) = (entries.lookup name).bind (·.at? place) := rfl

theorem at?_concat {root : Entry} {place : Place} {entries : List (String × Entry)}
    (hplace : root.at? place = some (.directory entries)) (name : String) :
    root.at? (place ++ [name]) = entries.lookup name := by
  rw [at?_append, hplace, Option.bind_some, at?_directory_cons]
  exact Option.bind_fun_some _

/-- What has an entry below it is a directory. -/
theorem exists_entries_of_concat {root entry : Entry} {place : Place} {name : String}
    (hentry : root.at? (place ++ [name]) = some entry) :
    ∃ entries, root.at? place = some (.directory entries) ∧ entries.lookup name = some entry := by
  rw [at?_append, Option.bind_eq_some_iff] at hentry
  obtain ⟨above, habove, hentry⟩ := hentry
  cases above with
  | file | link => cases hentry
  | directory entries =>
      rw [at?_directory_cons] at hentry
      exact ⟨entries, habove, by simpa [at?] using hentry⟩

theorem lookup_putChild (name key : String) (new : Entry) (entries : List (String × Entry)) :
    (putChild name new entries).lookup key =
      if key = name then some new else entries.lookup key := by
  induction entries with
  | nil => grind [putChild]
  | cons head entries ih =>
      obtain ⟨other, entry⟩ := head
      rw [putChild]
      grind

theorem lookup_map (key name : String) (f : Entry → Entry) (entries : List (String × Entry)) :
    (entries.map fun (other, entry) =>
        (other, if other == name then f entry else entry)).lookup key =
      (entries.lookup key).map fun entry => if key = name then f entry else entry := by
  induction entries with
  | nil => rfl
  | cons head entries ih =>
      obtain ⟨other, entry⟩ := head
      rw [List.map_cons]
      grind

theorem lookup_filter (key name : String) (entries : List (String × Entry)) :
    (entries.filter (·.1 != name)).lookup key =
      if key = name then none else entries.lookup key := by
  induction entries with
  | nil => simp
  | cons head entries ih =>
      obtain ⟨other, entry⟩ := head
      grind

/-- The directory that is changed stands where it stood. -/
theorem at?_change_self {edit : List (String × Entry) → List (String × Entry)} {place : Place}
    {entries : List (String × Entry)} :
    ∀ {root : Entry}, root.at? place = some (.directory entries) →
      (root.change edit place).at? place = some (.directory (edit entries)) := by
  induction place with
  | nil =>
      intro root hplace
      obtain rfl : root = .directory entries := Option.some_inj.mp hplace
      rfl
  | cons name place ih =>
      intro root hplace
      cases root with
      | file | link => cases hplace
      | directory children =>
          rw [at?_directory_cons, Option.bind_eq_some_iff] at hplace
          obtain ⟨child, hchild, hplace⟩ := hplace
          rw [change, at?_directory_cons, lookup_map, hchild, Option.map_some, if_pos rfl]
          exact ih hplace

theorem at?_change_putChild {root : Entry} {directory : Place} {entries : List (String × Entry)}
    (hplace : root.at? directory = some (.directory entries)) (name : String) (new : Entry) :
    (root.change (putChild name new) directory).at? (directory ++ [name]) = some new := by
  rw [at?_concat (at?_change_self hplace), lookup_putChild, if_pos rfl]

/-! ## What stays -/

/-- An entry that may stand in the place of another one for all lookups that lead through it. -/
inductive SameKind : Entry → Entry → Prop
  | file (content content' : List UInt8) : SameKind (.file content) (.file content')
  | directory (entries entries' : List (String × Entry)) :
      SameKind (.directory entries) (.directory entries')
  | link (target : Path) : SameKind (.link target) (.link target)

theorem SameKind.refl (entry : Entry) : SameKind entry entry := by
  cases entry with
  | file content => exact .file content content
  | directory entries => exact .directory entries entries
  | link target => exact .link target

theorem SameKind.trans {first second third : Entry} (hfirst : SameKind first second)
    (hsecond : SameKind second third) : SameKind first third := by
  cases hfirst <;> cases hsecond <;> constructor

/-- Every entry of a tree is one of another tree, of the same kind. -/
def Keeps (root root' : Entry) : Prop :=
  ∀ place entry, root.at? place = some entry →
    ∃ entry', root'.at? place = some entry' ∧ SameKind entry entry'

theorem Keeps.refl (root : Entry) : root.Keeps root :=
  fun _ entry hentry => ⟨entry, hentry, .refl entry⟩

theorem Keeps.trans {first second third : Entry} (hfirst : first.Keeps second)
    (hsecond : second.Keeps third) : first.Keeps third := by
  intro place entry hentry
  obtain ⟨entry', hentry', hkind⟩ := hfirst place entry hentry
  obtain ⟨entry'', hentry'', hkind'⟩ := hsecond place entry' hentry'
  exact ⟨entry'', hentry'', hkind.trans hkind'⟩

theorem Keeps.directory {root root' : Entry} (hkeeps : root.Keeps root') {place : Place}
    {entries : List (String × Entry)} (hplace : root.at? place = some (.directory entries)) :
    ∃ entries', root'.at? place = some (.directory entries') := by
  obtain ⟨entry', hplace', hkind⟩ := hkeeps place _ hplace
  cases hkind with
  | directory _ entries' => exact ⟨entries', hplace'⟩

theorem keeps_file (content content' : List UInt8) : Keeps (.file content) (.file content') := by
  intro place entry hentry
  cases place with
  | nil =>
      obtain rfl : Entry.file content = entry := Option.some_inj.mp hentry
      exact ⟨_, rfl, .file content content'⟩
  | cons name place => cases hentry

/-- Two directories, if the entries of the first are kept one by one. -/
theorem keeps_directory {entries entries' : List (String × Entry)}
    (hentries : ∀ name child, entries.lookup name = some child →
      ∃ child', entries'.lookup name = some child' ∧ child.Keeps child') :
    Keeps (.directory entries) (.directory entries') := by
  intro place entry hentry
  cases place with
  | nil =>
      obtain rfl : Entry.directory entries = entry := Option.some_inj.mp hentry
      exact ⟨_, rfl, .directory entries entries'⟩
  | cons name place =>
      rw [at?_directory_cons, Option.bind_eq_some_iff] at hentry
      obtain ⟨child, hchild, hentry⟩ := hentry
      obtain ⟨child', hchild', hkeeps⟩ := hentries name child hchild
      rw [at?_directory_cons, hchild', Option.bind_some]
      exact hkeeps place entry hentry

theorem keeps_putChild {name : String} {new : Entry} {entries : List (String × Entry)}
    (hold : ∀ old, entries.lookup name = some old → old.Keeps new) :
    Keeps (.directory entries) (.directory (putChild name new entries)) := by
  refine keeps_directory fun key child hchild => ?_
  rw [lookup_putChild]
  by_cases hkey : key = name
  · subst hkey
    exact ⟨new, if_pos rfl, hold child hchild⟩
  · exact ⟨child, by rw [if_neg hkey, hchild], .refl child⟩

theorem filter_keeps (name : String) (entries : List (String × Entry)) :
    Keeps (.directory (entries.filter (·.1 != name))) (.directory entries) := by
  refine keeps_directory fun key child hchild => ?_
  rw [lookup_filter] at hchild
  split at hchild
  · cases hchild
  · exact ⟨child, hchild, .refl child⟩

/-- What holds of a directory and its change holds of the trees that they are in, if it is reflexive
and holds of directories whenever it holds of their entries. -/
theorem change_induction (rel : Entry → Entry → Prop) (hrefl : ∀ entry, rel entry entry)
    (hdirectory : ∀ {entries entries'},
      (∀ name, (∀ child, entries.lookup name = some child →
          ∃ child', entries'.lookup name = some child' ∧ rel child child') ∧
        ∀ child', entries'.lookup name = some child' →
          ∃ child, entries.lookup name = some child ∧ rel child child') →
      rel (.directory entries) (.directory entries'))
    {edit : List (String × Entry) → List (String × Entry)} {place : Place} :
    ∀ {root : Entry},
      (∀ entries, root.at? place = some (.directory entries) →
        rel (.directory entries) (.directory (edit entries))) →
      rel root (root.change edit place) := by
  induction place with
  | nil =>
      intro root hedit
      cases root with
      | file | link => exact hrefl _
      | directory entries => exact hedit entries rfl
  | cons name place ih =>
      intro root hedit
      cases root with
      | file | link => exact hrefl _
      | directory entries =>
          -- the change is made in the child of this name, and the other children are as before
          have hchildren : ∀ key child, entries.lookup key = some child →
              rel child (if key = name then change edit place child else child) := by
            intro key child hchild
            split
            · rename_i hkey
              subst hkey
              refine ih fun below hbelow => hedit below ?_
              rw [at?_directory_cons, hchild, Option.bind_some, hbelow]
            · exact hrefl child
          rw [change]
          refine hdirectory fun key => ⟨fun child hchild => ?_, fun child' hchild' => ?_⟩
          · exact ⟨_, by rw [lookup_map, hchild, Option.map_some], hchildren key child hchild⟩
          · rw [lookup_map, Option.map_eq_some_iff] at hchild'
            obtain ⟨child, hchild, rfl⟩ := hchild'
            exact ⟨child, hchild, hchildren key child hchild⟩

/-- A tree is kept if the directory is that is changed in it. -/
theorem keeps_change {edit : List (String × Entry) → List (String × Entry)} {place : Place}
    {root : Entry}
    (hedit : ∀ entries, root.at? place = some (.directory entries) →
      Keeps (.directory entries) (.directory (edit entries))) :
    root.Keeps (root.change edit place) :=
  change_induction Keeps .refl (fun hentries => keeps_directory fun name => (hentries name).1) hedit

/-- There is nothing new in a tree if there is not in the directory that is changed in it. -/
theorem change_keeps {edit : List (String × Entry) → List (String × Entry)} {place : Place}
    {root : Entry}
    (hedit : ∀ entries, root.at? place = some (.directory entries) →
      Keeps (.directory (edit entries)) (.directory entries)) :
    (root.change edit place).Keeps root :=
  change_induction (fun entry entry' => entry'.Keeps entry) .refl
    (fun hentries => keeps_directory fun name => (hentries name).2) hedit

/-- What is kept is enough for every step of a lookup. -/
theorem Keeps.step {root root' : Entry} (hkeeps : root.Keeps root') {lookup next : Lookup}
    (hstep : Step root lookup next) : Step root' lookup next := by
  have hchild : ∀ {place entries name entry}, root.at? place = some (.directory entries) →
      entries.lookup name = some entry → ∃ entries' entry',
        root'.at? place = some (.directory entries') ∧ entries'.lookup name = some entry' ∧
          SameKind entry entry' := by
    intro place entries name entry hplace hentry
    obtain ⟨entries', hplace'⟩ := hkeeps.directory hplace
    obtain ⟨entry', hentry', hkind⟩ := hkeeps _ entry ((at?_concat hplace name).trans hentry)
    exact ⟨entries', entry', hplace', (at?_concat hplace' name).symm.trans hentry', hkind⟩
  cases hstep with
  | stay hplace hname =>
      obtain ⟨entries', hplace'⟩ := hkeeps.directory hplace
      exact .stay hplace' hname
  | up hplace hname =>
      obtain ⟨entries', hplace'⟩ := hkeeps.directory hplace
      exact .up hplace' hname
  | enter hplace hname hentry hlink =>
      obtain ⟨entries', entry', hplace', hentry', hkind⟩ := hchild hplace hentry
      refine .enter hplace' hname hentry' ?_
      rintro target rfl
      cases hkind with
      | link => exact hlink target rfl
  | follow hplace hname hentry =>
      obtain ⟨entries', entry', hplace', hentry', hkind⟩ := hchild hplace hentry
      cases hkind with
      | link => exact .follow hplace' hname hentry'

theorem Keeps.reaches {root root' : Entry} (hkeeps : root.Keeps root') {lookup last : Lookup}
    (hreaches : Reaches root lookup last) : Reaches root' lookup last :=
  Relation.ReflTransGen.mono (fun _ _ => hkeeps.step) _ _ hreaches

theorem Keeps.ends {root root' : Entry} (hkeeps : root.Keeps root') {limit : Nat}
    {lookup : Lookup} {place : Place} (hends : Ends root limit lookup place) :
    Ends root' limit lookup place := by
  obtain ⟨followed, hlimit, hreaches⟩ := hends
  exact ⟨followed, hlimit, hkeeps.reaches hreaches⟩

/-- A lookup that ends in a tree makes the same first steps in every tree that keeps it. -/
theorem Keeps.reaches_back {root root' : Entry} (hkeeps : root'.Keeps root)
    {lookup middle last : Lookup} (hlast : Reaches root' lookup last) (hnames : last.names = [])
    (hmiddle : Reaches root lookup middle) : Reaches root' lookup middle := by
  induction hlast using Relation.ReflTransGen.head_induction_on with
  | refl =>
      obtain rfl := Lookup.eq_of_reaches (fun _ => Lookup.not_step_of_nil hnames) hmiddle
      exact .refl
  | head hstep _ ih =>
      rcases hmiddle.cases_head with rfl | ⟨next, hstep', hmiddle⟩
      · exact .refl
      · obtain rfl := Lookup.step_unique (hkeeps.step hstep) hstep'
        exact .head hstep (ih hmiddle)

/-- A lookup ends nowhere in a tree where it is blocked on the way that it takes in another. -/
theorem Keeps.not_ends {root root' : Entry} (hkeeps : root'.Keeps root) {limit : Nat}
    {lookup middle : Lookup} {place : Place} (hmiddle : Reaches root lookup middle)
    (hblocked : Blocked root' middle) (hnames : middle.names ≠ []) :
    ¬ Ends root' limit lookup place := by
  rintro ⟨followed, -, hlast⟩
  refine hnames ?_
  have hmiddle' := hkeeps.reaches_back hlast rfl hmiddle
  rcases Lookup.reaches_total hmiddle' hlast with hreaches | hreaches
  · rw [Lookup.eq_of_reaches (fun _ => Lookup.not_step_of_blocked hblocked) hreaches]
  · rw [← Lookup.eq_of_reaches (fun _ => Lookup.not_step_of_nil rfl) hreaches]

/-- No lookup goes on to a name that a directory does not have, whether or not it may have it. -/
theorem blocked_of_lookup_eq_none {root : Entry} {place : Place}
    {entries : List (String × Entry)} {name : String} {rest : List String} {followed : Nat}
    (hplace : root.at? place = some (.directory entries)) (hdot : name ≠ ".") (hdots : name ≠ "..")
    (hentry : entries.lookup name = none) : Blocked root ⟨place, name :: rest, followed⟩ := by
  by_cases hshort : name.utf8ByteSize ≤ nameLimit
  · exact .missing hplace ⟨hdot, hdots, hshort⟩ hentry
  · exact .longName hplace (Nat.lt_of_not_le hshort)

end Entry

end MtaCheck
