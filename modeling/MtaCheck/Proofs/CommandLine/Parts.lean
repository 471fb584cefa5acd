import MtaCheck.CommandLine.Arguments
import Mathlib.Data.List.Basic

/-!
# The parts of a command line

A command line is a row of parts: switches, and settings with their values.  `Given.add` says what
has been given with one more part, and `Given.AdmitsAll` that no part is forbidden by those in front
of it, which is so if no two of them clash (`admitsAll_of_pairwise`).  Then the order of the parts
does not count: a switch is on if it is among them (`isOn_addAll`), and a setting has the value that
is among them (`value?_addAll`).  `Arguments.ofParts` puts the arguments together from the parts on
both sides of the command.
-/

namespace MtaCheck.CommandLine

/-! ## Parts -/

/-- A part of a command line. -/
inductive Part
  | switch (which : Switch)
  | setting (which : Setting) (value : String)
deriving DecidableEq

/-- Two parts that must not both be given. -/
def Part.Clashes : Part → Part → Prop
  | .switch which, .switch other => which = other ∧ which ≠ .verbose
  | .setting which _, .setting other _ => which = other
  | _, _ => False

/-- A part that sets something.  No path is empty. -/
def Part.IsSound : Part → Prop
  | .switch which => which = .quiet ∨ which = .json ∨ which = .verbose
  | .setting which value => which = .mode ∨ value ≠ ""

/-- The value of a setting in a part. -/
def Part.value? (which : Setting) : Part → Option String
  | .setting other value => if other = which then some value else none
  | .switch _ => none

/-- The value of a setting among parts. -/
def valueIn (which : Setting) (parts : List Part) : Option String :=
  parts.findSome? (·.value? which)

/-! ## What has been given -/

namespace Given

/-- What has been given with one more part. -/
def add (given : Given) : Part → Given
  | .switch .quiet => { given with quiet := true }
  | .switch .json => { given with json := true }
  | .switch .verbose => { given with verbose := min Reading.mostVerbose (given.verbose + 1) }
  | .switch _ => given
  | .setting .source value => { given with source := some value }
  | .setting .descriptor value => { given with descriptor := some value }
  | .setting .mode value => { given with mode := some value }

/-- What has been given with more parts. -/
def addAll (given : Given) (parts : List Part) : Given := parts.foldl add given

/-- The value that has been given for a setting. -/
def value? (given : Given) : Setting → Option String
  | .source => given.source
  | .descriptor => given.descriptor
  | .mode => given.mode

/-- Whether a switch that counts only once has been given. -/
def isOn (given : Given) : Switch → Bool
  | .quiet => given.quiet
  | .json => given.json
  | _ => false

/-- Nothing that has been given forbids a part. -/
def Admits (given : Given) (part : Part) : Prop :=
  part.IsSound ∧ match part with
    | .switch which => given.isOn which = false
    | .setting which _ => given.value? which = none

/-- Nothing that has been given by then forbids any of the parts. -/
def AdmitsAll (given : Given) : List Part → Prop
  | [] => True
  | part :: parts => given.Admits part ∧ (given.add part).AdmitsAll parts

variable {given : Given}

theorem pending_add (part : Part) : (given.add part).pending = given.pending := by
  cases part with
  | switch which => cases which <;> rfl
  | setting which value => cases which <;> rfl

theorem pending_addAll (parts : List Part) : (given.addAll parts).pending = given.pending := by
  induction parts generalizing given with
  | nil => rfl
  | cons part parts ih => exact ih.trans (pending_add part)

theorem addAll_append (front parts : List Part) :
    given.addAll (front ++ parts) = (given.addAll front).addAll parts :=
  List.foldl_append

theorem admitsAll_append {front parts : List Part} :
    given.AdmitsAll (front ++ parts) ↔
      given.AdmitsAll front ∧ (given.addAll front).AdmitsAll parts := by
  induction front generalizing given with
  | nil => simp [AdmitsAll, addAll]
  | cons part front ih =>
      simp only [List.cons_append, AdmitsAll, ih, and_assoc]
      rfl

/-- A part that clashes with no other one takes nothing from it. -/
theorem admits_add {part other : Part} (hother : given.Admits other)
    (hclash : ¬part.Clashes other) : (given.add part).Admits other := by
  obtain ⟨hsound, hfree⟩ := hother
  refine ⟨hsound, ?_⟩
  rcases part with which | ⟨which, value⟩ <;> rcases other with which' | ⟨which', value'⟩ <;>
    cases which <;> cases which' <;> simp_all [add, value?, isOn, Part.Clashes]

theorem admitsAll_of_pairwise {parts : List Part} (hadmits : ∀ part ∈ parts, given.Admits part)
    (hclash : parts.Pairwise fun part other => ¬part.Clashes other) : given.AdmitsAll parts := by
  induction parts generalizing given with
  | nil => trivial
  | cons part parts ih =>
      rw [List.forall_mem_cons] at hadmits
      rw [List.pairwise_cons] at hclash
      refine ⟨hadmits.1, ih (fun other hmem => ?_) hclash.2⟩
      exact admits_add (hadmits.2 other hmem) (hclash.1 other hmem)

theorem isOn_addAll {which : Switch} (hwhich : which = .quiet ∨ which = .json)
    (parts : List Part) :
    (given.addAll parts).isOn which = (given.isOn which || decide (.switch which ∈ parts)) := by
  induction parts generalizing given with
  | nil => simp [addAll]
  | cons part parts ih =>
      have hadd : (given.add part).isOn which =
          (given.isOn which || decide (part = .switch which)) := by
        rcases hwhich with rfl | rfl <;> rcases part with other | ⟨other, value⟩ <;>
          cases other <;> simp [add, isOn]
      rw [addAll, List.foldl_cons, ← addAll, ih, hadd]
      simp [Bool.or_assoc, eq_comm]

theorem verbose_addAll (parts : List Part) (hverbose : given.verbose ≤ Reading.mostVerbose) :
    (given.addAll parts).verbose =
      min Reading.mostVerbose (given.verbose + parts.count (.switch .verbose)) := by
  induction parts generalizing given with
  | nil => simp [addAll, hverbose]
  | cons part parts ih =>
      have hadd : (given.add part).verbose = min Reading.mostVerbose
          (given.verbose + if part = .switch .verbose then 1 else 0) := by
        rcases part with which | ⟨which, value⟩ <;> cases which <;> simp [add, hverbose]
      rw [addAll, List.foldl_cons, ← addAll, ih (hadd ▸ Nat.min_le_left _ _), hadd,
        List.count_cons]
      simp only [beq_iff_eq]
      omega

theorem value?_addAll {parts : List Part} (hadmits : given.AdmitsAll parts) (which : Setting) :
    (given.addAll parts).value? which = (given.value? which).or (valueIn which parts) := by
  induction parts generalizing given with
  | nil => simp [addAll, valueIn]
  | cons part parts ih =>
      obtain ⟨⟨-, hfree⟩, hrest⟩ := hadmits
      rw [addAll, List.foldl_cons, ← addAll, ih hrest, valueIn, valueIn, List.findSome?_cons]
      -- a setting that has a value is not given again
      rcases part with other | ⟨other, value⟩
      · cases other <;> cases which <;> rfl
      · by_cases hsame : other = which
        · subst hsame
          simp only at hfree
          cases other <;> simp_all [add, value?, Part.value?]
        · simp only [Part.value?, if_neg hsame]
          cases other <;> cases which <;> simp_all [add, value?]

end Given

/-! ## The arguments -/

theorem ne_empty_of_valueIn {which : Setting} (hwhich : which ≠ .mode) {parts : List Part}
    (hsound : ∀ part ∈ parts, part.IsSound) {value : String}
    (hvalue : valueIn which parts = some value) : value ≠ "" := by
  obtain ⟨part, hmem, hpart⟩ := List.exists_of_findSome?_eq_some hvalue
  cases part with
  | switch other => cases hpart
  | setting other text =>
      simp only [Part.value?, Option.ite_none_right_eq_some, Option.some_inj] at hpart
      obtain ⟨rfl, rfl⟩ := hpart
      exact (hsound _ hmem).resolve_left hwhich

namespace Given

variable {parts : List Part}

theorem nothing_admits {part : Part} (hsound : part.IsSound) : nothing.Admits part := by
  refine ⟨hsound, ?_⟩
  rcases part with which | ⟨which, value⟩ <;> cases which <;> rfl

theorem nothing_admitsAll (hsound : ∀ part ∈ parts, part.IsSound)
    (hclash : parts.Pairwise fun part other => ¬part.Clashes other) : nothing.AdmitsAll parts :=
  admitsAll_of_pairwise (fun part hmem => nothing_admits (hsound part hmem)) hclash

theorem isOn_nothing {which : Switch} (hwhich : which = .quiet ∨ which = .json)
    (parts : List Part) : (nothing.addAll parts).isOn which = decide (.switch which ∈ parts) := by
  rw [isOn_addAll hwhich]
  rcases hwhich with rfl | rfl <;> exact Bool.false_or _

theorem verbose_nothing (parts : List Part) : (nothing.addAll parts).verbose =
    min Reading.mostVerbose (parts.count (.switch .verbose)) := by
  rw [verbose_addAll parts (Nat.zero_le _)]
  exact congrArg _ (Nat.zero_add _)

theorem value?_nothing (hadmits : nothing.AdmitsAll parts) (which : Setting) :
    (nothing.addAll parts).value? which = valueIn which parts := by
  rw [value?_addAll hadmits]
  cases which <;> rfl

end Given

/-- What the parts in front of the command and behind it ask for.  The switches may stand on both
sides, and those that are counted behind it replace the count in front of it.  A setting replaces the
environment, and what is not given at all has its default. -/
def Arguments.ofParts (front behind : List Part) (environment : Environment) : Arguments where
  quiet := decide (.switch .quiet ∈ front ++ behind)
  json := decide (.switch .json ∈ front ++ behind)
  verbose := min Reading.mostVerbose
    (if behind.count (.switch .verbose) = 0 then front.count (.switch .verbose)
      else behind.count (.switch .verbose))
  source := ((valueIn .source behind).or environment.source).getD "."
  descriptor := (valueIn .descriptor behind).getD "mta.yaml"
  mode := ((valueIn .mode behind).or environment.mode).getD ""

theorem Arguments.ofGiven_parts {front behind : List Part} {environment : Environment}
    (hsound : ∀ part ∈ behind, part.IsSound) (hadmits : Given.nothing.AdmitsAll behind)
    (henvironment : environment.source = some "" → valueIn .source behind ≠ none) :
    ofGiven (Given.nothing.addAll front) (Given.nothing.addAll behind) environment =
      .ok (ofParts front behind environment) := by
  have hsource := Given.value?_nothing hadmits .source
  have hdescriptor := Given.value?_nothing hadmits .descriptor
  have hmode := Given.value?_nothing hadmits .mode
  have hgiven : ((valueIn .source behind).or environment.source == some "") = false := by
    rw [beq_eq_false_iff_ne]
    cases hfound : valueIn .source behind with
    | none => exact fun hempty => henvironment hempty hfound
    | some value =>
        rw [Option.some_or, ne_eq, Option.some_inj]
        exact ne_empty_of_valueIn (by decide) hsound hfound
  have hquiet : ∀ parts, (Given.nothing.addAll parts).quiet = decide (.switch .quiet ∈ parts) :=
    Given.isOn_nothing (.inl rfl)
  have hjson : ∀ parts, (Given.nothing.addAll parts).json = decide (.switch .json ∈ parts) :=
    Given.isOn_nothing (.inr rfl)
  have hcount : ∀ count other : Nat, (if (min Reading.mostVerbose count == 0) = true then
      min Reading.mostVerbose other else min Reading.mostVerbose count) =
        min Reading.mostVerbose (if count = 0 then other else count) := by
    intro count other
    have hzero : min Reading.mostVerbose count = 0 ↔ count = 0 := by
      simp only [Reading.mostVerbose]
      omega
    simp only [beq_iff_eq, hzero]
    split <;> rfl
  simp only [Given.value?] at hsource hdescriptor hmode
  simp only [ofParts, ofGiven, hsource, hgiven, Bool.false_eq_true, if_false, hdescriptor, hmode, hquiet,
    hjson, Given.verbose_nothing, hcount, List.mem_append, Bool.decide_or]
  rfl

end MtaCheck.CommandLine
