import MtaCheck.Proofs.Files.Lookup

/-!
# Paths below another path

Joining keeps both paths as they are written, and an absolute one replaces the other altogether.
So the result may lie anywhere: the names of a relative path follow those of the path in front of it
(`components_join`), but dots among them may lead up again.

* `Path.IsUnder` says by the texts alone that a path lies under another one: it begins with its
  names, and those that are left never lead above it.  `isUnder_join_iff` says when this is so of a
  joined path.
* `FileTree.below_of_join` says what this means on a disk.  A step that replaces no link keeps a
  lookup below a place if its names never lead above it (`keepsBelow_step`), and so does a lookup as
  a whole (`keepsBelow_of_reaches`).
-/

namespace MtaCheck

/-! ## The names of joined paths -/

namespace Path

theorem splitNames_slash (front back : List Char) :
    ∀ name,
      splitNames (front ++ '/' :: back) name = splitNames front name ++ splitNames back [] := by
  induction front with
  | nil =>
      intro name
      rfl
  | cons char front ih =>
      intro name
      rw [List.cons_append, splitNames, splitNames]
      split
      · rw [ih, List.cons_append]
      · exact ih _

/-- A slash separates the names before it from those behind it. -/
theorem names_of_slash {path front back : Path}
    (htext : path.text.toList = front.text.toList ++ '/' :: back.text.toList) :
    path.names = front.names ++ back.names := by
  rw [names, names, names, htext, splitNames_slash, List.filter_append, List.map_append]

theorem names_of_empty {path : Path} (htext : path.text = "") : path.names = [] := by
  rw [names, htext]
  rfl

theorem join_of_isAbsolute {base path : Path} (habsolute : path.isAbsolute = true) :
    base.join path = path := by
  rw [join, habsolute]
  rfl

variable {base path : Path}

/-- The names of a relative path come behind those of the path that it is joined to. -/
theorem names_join (hrelative : path.isAbsolute = false) :
    (base.join path).names = base.names ++ path.names := by
  rw [join, hrelative, Bool.false_or]
  by_cases hempty : base.text = ""
  · rw [if_pos (String.isEmpty_iff.mpr hempty), names_of_empty hempty, List.nil_append]
  rw [if_neg (mt String.isEmpty_iff.mp hempty)]
  by_cases hslash : base.endsInSlash = true
  · rw [if_pos hslash]
    -- the slash is the last character of the base, with nothing behind it
    obtain ⟨front, hfront⟩ : ∃ front, base.text.toList = front ++ ['/'] := by
      rw [endsInSlash, beq_iff_eq, List.getLast?_eq_some_iff] at hslash
      exact hslash
    have hbase : base.names = (⟨String.ofList front⟩ : Path).names := by
      have hnames : base.names = (⟨String.ofList front⟩ : Path).names ++ (⟨""⟩ : Path).names :=
        names_of_slash (by simpa using hfront)
      rw [hnames, names_of_empty rfl, List.append_nil]
    rw [hbase]
    exact names_of_slash (by simp [hfront])
  · rw [if_neg hslash]
    exact names_of_slash (by simp)

theorem isAbsolute_join (hrelative : path.isAbsolute = false) :
    (base.join path).isAbsolute = base.isAbsolute := by
  by_cases hempty : base.text = ""
  · have hbase : base.isAbsolute = false := by
      rw [isAbsolute, hempty]
      rfl
    rw [join, hempty, hbase]
    simpa using hrelative
  · -- the first character of the base stays the first one
    obtain ⟨first, rest, hletters⟩ :=
      List.exists_cons_of_ne_nil (mt String.toList_eq_nil_iff.mp hempty)
    rw [join, hrelative, Bool.false_or, if_neg (mt String.isEmpty_iff.mp hempty)]
    split
    · simp [isAbsolute, hletters]
    · simp [isAbsolute, hletters]

/-- The names that a path passes through.  A dot alone stays where it is. -/
def components (path : Path) : List String := path.names.filter (· != ".")

theorem components_join (hrelative : path.isAbsolute = false) :
    (base.join path).components = base.components ++ path.components := by
  rw [components, names_join hrelative, List.filter_append]
  rfl

end Path

/-! ## Names that lead up -/

/-- Whether names that start `depth` places below another one never lead above it. -/
def staysBelow : Nat → List String → Bool
  | _, [] => true
  | depth, name :: rest =>
      if name == "." then staysBelow depth rest
      else if name == ".." then 0 < depth && staysBelow (depth - 1) rest
      else staysBelow (depth + 1) rest

theorem staysBelow_dots (depth : Nat) (rest : List String) :
    staysBelow depth (".." :: rest) = (decide (0 < depth) && staysBelow (depth - 1) rest) := rfl

theorem staysBelow_name {name : String} (hname : Lookup.IsEntryName name) (depth : Nat)
    (rest : List String) : staysBelow depth (name :: rest) = staysBelow (depth + 1) rest := by
  rw [staysBelow, if_neg (by simpa using hname.not_dot), if_neg (by simpa using hname.not_dots)]

/-- A dot leads nowhere. -/
theorem staysBelow_filter (names : List String) :
    ∀ depth, staysBelow depth (names.filter (· != ".")) = staysBelow depth names := by
  induction names with
  | nil =>
      intro depth
      rfl
  | cons name rest ih =>
      intro depth
      by_cases hdot : name = "."
      · rw [List.filter_cons_of_neg (by simp [hdot]), ih, hdot]
        rfl
      · rw [List.filter_cons_of_pos (by simpa using hdot), staysBelow, staysBelow]
        simp only [ih]

/-- A path lies under another one, as they are written: it begins with the names of the other path,
and what is left never leads above it. -/
structure Path.IsUnder (path base : Path) : Prop where
  same_start : path.isAbsolute = base.isAbsolute
  below : ∃ rest, path.components = base.components ++ rest ∧ staysBelow 0 rest = true

/-- A relative path is joined to lie under the path in front of it if its own names never lead up
too far.  An absolute one has to begin with that path itself. -/
theorem Path.isUnder_join_iff {base path : Path} :
    (base.join path).IsUnder base ↔
      path.isAbsolute = false ∧ staysBelow 0 path.components = true ∨
        path.isAbsolute = true ∧ path.IsUnder base := by
  cases hstart : path.isAbsolute with
  | true => simp [join_of_isAbsolute hstart]
  | false =>
      constructor
      · rintro ⟨-, rest, hrest, hbelow⟩
        rw [components_join hstart, List.append_cancel_left_eq] at hrest
        exact .inl ⟨rfl, hrest ▸ hbelow⟩
      · rintro (⟨-, hbelow⟩ | ⟨habsolute, -⟩)
        · exact ⟨isAbsolute_join hstart, path.components, components_join hstart, hbelow⟩
        · cases habsolute

/-! ## Lookups that stay below a place -/

namespace Lookup

variable {root : Entry} {base : Place} {lookup next last : Lookup}

/-- A lookup is below a place, and the names that it has yet to follow keep it there. -/
def KeepsBelow (base : Place) (lookup : Lookup) : Prop :=
  ∃ depth, base <+: lookup.place ∧ lookup.place.length = base.length + depth ∧
    staysBelow depth lookup.names = true

theorem keepsBelow_step (hstep : Step root lookup next) (hlinks : next.followed = lookup.followed)
    (hkeeps : KeepsBelow base lookup) : KeepsBelow base next := by
  obtain ⟨depth, hbase, hlength, hbelow⟩ := hkeeps
  cases hstep with
  | stay hplace hdot =>
      rw [hdot] at hbelow
      exact ⟨depth, hbase, hlength, hbelow⟩
  -- going up is fine as long as the lookup is deeper than the base
  | @up place entries name rest followed hplace hdots =>
      rw [hdots, staysBelow_dots, Bool.and_eq_true, decide_eq_true_eq] at hbelow
      obtain ⟨hdepth, hbelow⟩ := hbelow
      have hplaceLength : place.length = base.length + depth := hlength
      refine ⟨depth - 1, ?_, ?_, hbelow⟩
      · refine List.prefix_of_prefix_length_le hbase (List.dropLast_prefix place) ?_
        rw [List.length_dropLast]
        omega
      · rw [List.length_dropLast]
        omega
  | @enter place entries name entry rest followed hplace hname hentry hlink =>
      rw [staysBelow_name hname] at hbelow
      have hplaceLength : place.length = base.length + depth := hlength
      refine ⟨depth + 1, hbase.trans (List.prefix_append _ _), ?_, hbelow⟩
      rw [List.length_append, List.length_singleton]
      omega
  | follow => simp at hlinks

/-- As long as no link is replaced, a lookup stays below a place if its names never lead above. -/
theorem keepsBelow_of_reaches (hreaches : Reaches root lookup last)
    (hlinks : last.followed = lookup.followed) (hkeeps : KeepsBelow base lookup) :
    KeepsBelow base last := by
  induction hreaches with
  | refl => exact hkeeps
  | tail hbefore hstep ih =>
      -- the number of links only grows, so it has been the same all along
      have hfirst := followed_le hbefore
      have hsecond := followed_le (.single hstep)
      have hlinks' := le_antisymm (hlinks ▸ hsecond) hfirst
      exact keepsBelow_step hstep (hlinks.trans hlinks'.symm) (ih hlinks')

theorem step_append (hstep : Step root lookup next) (more : List String) :
    Step root ⟨lookup.place, lookup.names ++ more, lookup.followed⟩
      ⟨next.place, next.names ++ more, next.followed⟩ := by
  cases hstep with
  | stay hplace hname => exact .stay hplace hname
  | up hplace hname => exact .up hplace hname
  | enter hplace hname hentry hlink => exact .enter hplace hname hentry hlink
  | follow hplace hname hentry =>
      rw [List.append_assoc]
      exact .follow hplace hname hentry

/-- What a lookup does with its first names does not depend on the others. -/
theorem reaches_append (hreaches : Reaches root lookup last) (more : List String) :
    Reaches root ⟨lookup.place, lookup.names ++ more, lookup.followed⟩
      ⟨last.place, last.names ++ more, last.followed⟩ := by
  induction hreaches with
  | refl => exact .refl
  | tail _ hstep ih => exact .tail ih (step_append hstep more)

end Lookup

/-- The names of a relative path lead on from where those of the path in front of it have led, and
they lead to a place below if they never lead up too far and no link is replaced among them. -/
theorem FileTree.below_of_join {tree : FileTree} {base path : Path}
    (hrelative : path.isAbsolute = false) (hbelow : staysBelow 0 path.components = true)
    {top place : Place} {followed : Nat}
    (hbase : Lookup.Reaches tree.root ⟨tree.start base, base.names, 0⟩ ⟨top, [], followed⟩)
    (hjoin : Lookup.Reaches tree.root (tree.lookup (base.join path)) ⟨place, [], followed⟩) :
    top <+: place := by
  -- the names that are left when the base has been followed; a slash at the end is a dot
  obtain ⟨rest, hrest, hsteps⟩ : ∃ rest, staysBelow 0 rest = true ∧
      (base.join path).steps = base.names ++ rest := by
    refine ⟨path.names ++ if (base.join path).endsInSlash then ["."] else [], ?_, ?_⟩
    · rw [← staysBelow_filter, List.filter_append]
      split <;> simpa [Path.components] using hbelow
    · rw [Path.steps, Path.names_join hrelative, List.append_assoc]
  have hstart : tree.start (base.join path) = tree.start base := by
    rw [start, start, Path.isAbsolute_join hrelative]
  have hfirst := Lookup.reaches_append hbase rest
  rw [lookup, hsteps, hstart] at hjoin
  have hlast : Lookup.Reaches tree.root ⟨top, rest, followed⟩ ⟨place, [], followed⟩ := by
    rcases Lookup.reaches_total hfirst hjoin with hreaches | hreaches
    · exact hreaches
    · rw [Lookup.eq_of_reaches (fun _ => Lookup.not_step_of_nil rfl) hreaches]
      exact .refl
  obtain ⟨-, hplace, -⟩ :=
    Lookup.keepsBelow_of_reaches hlast rfl ⟨0, List.prefix_refl top, rfl, hrest⟩
  exact hplace

end MtaCheck
