import MtaCheck.Regex.Pattern

/-!
# Where a pattern leads

`Pattern.action` moves whole sets of places, written as binary numbers.  This file says
what it does to a single place: `Leads` relates the places at which a pattern may begin
and end, by recursion over the pattern, and `follows_action` shows that an action goes
from a set to all that its members lead to.  `isMatch_iff` is the main result.

The action cuts every repetition down to as many rounds as there are places.  That loses
nothing, because a pattern never leads back: of more rounds than places some stay where
they are, and such rounds can be left out or added (`Walks.min_iff`).
-/

namespace MtaCheck.Regex

/-! ## Walks -/

/-- So many steps of a relation between places. -/
def Walks (leads : Nat → Nat → Prop) : Nat → Nat → Nat → Prop
  | 0, start, stop => start = stop
  | count + 1, start, stop => ∃ middle, leads start middle ∧ Walks leads count middle stop

namespace Walks

variable {leads : Nat → Nat → Prop}

theorem add_iff {first second start stop : Nat} :
    Walks leads (first + second) start stop ↔
      ∃ middle, Walks leads first start middle ∧ Walks leads second middle stop := by
  induction first generalizing start with
  | zero => simp [Walks]
  | succ first ih =>
      rw [Nat.succ_add]
      simp only [Walks, ih]
      constructor
      · rintro ⟨next, hnext, middle, hfirst, hsecond⟩
        exact ⟨middle, ⟨next, hnext, hfirst⟩, hsecond⟩
      · rintro ⟨middle, ⟨next, hnext, hfirst⟩, hsecond⟩
        exact ⟨next, hnext, middle, hfirst, hsecond⟩

theorem le (hforward : ∀ {start stop}, leads start stop → start ≤ stop) {count start stop : Nat}
    (hwalk : Walks leads count start stop) : start ≤ stop := by
  induction count generalizing start with
  | zero => exact Nat.le_of_eq hwalk
  | succ count ih =>
      obtain ⟨middle, hstep, hrest⟩ := hwalk
      exact Nat.le_trans (hforward hstep) (ih hrest)

theorem le_bound {bound : Nat}
    (hbound : ∀ {start stop}, leads start stop → start ≤ bound → stop ≤ bound)
    {count start stop : Nat} (hstart : start ≤ bound) (hwalk : Walks leads count start stop) :
    stop ≤ bound := by
  induction count generalizing start with
  | zero =>
      cases hwalk
      exact hstart
  | succ count ih =>
      obtain ⟨middle, hstep, hrest⟩ := hwalk
      exact ih (hbound hstep hstart) hrest

/-- A walk with more steps than it gets ahead stays in place at some step, which can be left
out, or made twice. -/
theorem shorter_longer (hforward : ∀ {start stop}, leads start stop → start ≤ stop)
    {count start stop : Nat} (hcount : stop - start ≤ count)
    (hwalk : Walks leads (count + 1) start stop) :
    Walks leads count start stop ∧ Walks leads (count + 2) start stop := by
  induction count generalizing start with
  | zero =>
      obtain ⟨middle, hstep, rfl⟩ := hwalk
      have hstay : start = middle := Nat.le_antisymm (hforward hstep) (by omega)
      subst hstay
      exact ⟨rfl, start, hstep, start, hstep, rfl⟩
  | succ count ih =>
      obtain ⟨middle, hstep, hrest⟩ := hwalk
      by_cases hstay : start = middle
      · subst hstay
        exact ⟨hrest, start, hstep, start, hstep, hrest⟩
      · have hahead : start < middle := Nat.lt_of_le_of_ne (hforward hstep) hstay
        obtain ⟨hshorter, hlonger⟩ := ih (by omega) hrest
        exact ⟨⟨middle, hstep, hshorter⟩, ⟨middle, hstep, hlonger⟩⟩

/-- Walks with more steps than there are places reach the same as walks with as many steps as
there are. -/
theorem min_iff (hforward : ∀ {start stop}, leads start stop → start ≤ stop)
    {bound count start stop : Nat} (hbound : stop < bound) :
    Walks leads (min count bound) start stop ↔ Walks leads count start stop := by
  obtain hcount | hcount := Nat.le_total count bound
  · rw [Nat.min_eq_left hcount]
  · rw [Nat.min_eq_right hcount]
    -- one step more than there are places never reaches more, and never less
    induction hcount with
    | refl => exact Iff.rfl
    | @step count hle ih =>
        have hcount : bound ≤ count := hle
        rw [ih]
        constructor
        · intro hwalk
          obtain ⟨less, rfl⟩ : ∃ less, count = less + 1 := ⟨count - 1, by omega⟩
          exact (shorter_longer hforward (by omega) hwalk).2
        · intro hwalk
          exact (shorter_longer hforward (by omega) hwalk).1

/-- Rounds of a repetition: those that it has to make, and as many more as it may, both cut
down to the number of places. -/
theorem rounds_iff (hforward : ∀ {start stop}, leads start stop → start ≤ stop)
    {bound least start stop : Nat} {most : Option Nat} (hstop : stop < bound) :
    (∃ middle, Walks leads (min least bound) start middle ∧
        ∃ steps ≤ most.elim bound (fun most => min (most - least) bound),
          Walks leads steps middle stop) ↔
      ∃ extra, (∀ limit ∈ most, extra ≤ limit - least) ∧
        Walks leads (least + extra) start stop := by
  have hmiddle : ∀ {middle steps}, Walks leads steps middle stop → middle < bound := by
    intro middle steps hwalk
    exact Nat.lt_of_le_of_lt (hwalk.le hforward) hstop
  constructor
  · rintro ⟨middle, hleast, steps, hsteps, hmore⟩
    rw [min_iff hforward (hmiddle hmore)] at hleast
    refine ⟨steps, ?_, add_iff.mpr ⟨middle, hleast, hmore⟩⟩
    rintro limit hlimit
    cases hlimit
    exact Nat.le_trans hsteps (Nat.min_le_left _ _)
  · rintro ⟨extra, hextra, hwalk⟩
    obtain ⟨middle, hleast, hmore⟩ := add_iff.mp hwalk
    refine ⟨middle, (min_iff hforward (hmiddle hmore)).mpr hleast, min extra bound, ?_,
      (min_iff hforward hstop).mpr hmore⟩
    cases most with
    | none => exact Nat.min_le_right _ _
    | some limit =>
        have hlimit : extra ≤ limit - least := hextra limit rfl
        simp only [Option.elim_some]
        omega

end Walks

/-! ## Where patterns lead -/

section Leads

variable (text : List Char)

/-- The character before a place. -/
def charBefore (place : Nat) : Option Char := if place = 0 then none else text[place - 1]?

/-- Whether a pattern that begins at a place of the text may end at another one. -/
def Pattern.Leads : Pattern → Nat → Nat → Prop
  | .empty, start, stop => start = stop
  | .chars set, start, stop =>
      (∃ char, text[start]? = some char ∧ set.contains char.toNat = true) ∧ start + 1 = stop
  | .look assertion, start, stop =>
      assertion.holds (charBefore text start) text[start]? = true ∧ start = stop
  | .both first second, start, stop =>
      ∃ middle, first.Leads start middle ∧ second.Leads middle stop
  | .either first second, start, stop => first.Leads start stop ∨ second.Leads start stop
  | .repeated inner least most, start, stop =>
      ∃ extra, (∀ bound ∈ most, extra ≤ bound - least) ∧
        Walks inner.Leads (least + extra) start stop

variable {text}

/-- A pattern never leads back. -/
theorem Pattern.le_of_leads (pattern : Pattern) {start stop : Nat}
    (hleads : pattern.Leads text start stop) : start ≤ stop := by
  induction pattern generalizing start stop with
  | empty => exact Nat.le_of_eq hleads
  | chars set => exact hleads.2 ▸ Nat.le_succ start
  | look assertion => exact Nat.le_of_eq hleads.2
  | both first second ihFirst ihSecond =>
      obtain ⟨middle, hfirst, hsecond⟩ := hleads
      exact Nat.le_trans (ihFirst hfirst) (ihSecond hsecond)
  | either first second ihFirst ihSecond => exact hleads.elim ihFirst ihSecond
  | repeated inner least most ih =>
      obtain ⟨extra, -, hwalk⟩ := hleads
      exact hwalk.le ih

/-- A pattern that begins inside the text ends inside the text. -/
theorem Pattern.le_length_of_leads (pattern : Pattern) {start stop : Nat}
    (hleads : pattern.Leads text start stop) (hstart : start ≤ text.length) :
    stop ≤ text.length := by
  induction pattern generalizing start stop with
  | empty => exact hleads ▸ hstart
  | chars set =>
      obtain ⟨⟨char, hchar, -⟩, rfl⟩ := hleads
      exact (List.getElem?_eq_some_iff.mp hchar).1
  | look assertion => exact hleads.2 ▸ hstart
  | both first second ihFirst ihSecond =>
      obtain ⟨middle, hfirst, hsecond⟩ := hleads
      exact ihSecond hsecond (ihFirst hfirst hstart)
  | either first second ihFirst ihSecond =>
      exact hleads.elim (ihFirst · hstart) (ihSecond · hstart)
  | repeated inner least most ih =>
      obtain ⟨extra, -, hwalk⟩ := hleads
      exact hwalk.le_bound ih hstart

end Leads

/-! ## Sets of places -/

/-- Whether all places of a set are places of a text. -/
def Inside (text : List Char) (places : Nat) : Prop :=
  ∀ place, places.testBit place = true → place ≤ text.length

theorem getElem?_neighbours (before : Option Char) (text : List Char) (place : Nat) :
    (neighbours before text)[place]? =
      if place ≤ text.length then some ((before :: text.map some)[place]?.join, text[place]?)
      else none := by
  induction text generalizing before place with
  | nil => cases place <;> simp [neighbours]
  | cons char rest ih =>
      cases place with
      | zero => simp [neighbours]
      | succ place => simp [neighbours, ih]

theorem testBit_placesWhere (condition : Option Char → Option Char → Bool)
    (places : List (Option Char × Option Char)) (place : Nat) :
    (placesWhere condition places).testBit place =
      places[place]?.any fun around => condition around.1 around.2 := by
  induction places generalizing place with
  | nil => simp [placesWhere]
  | cons around rest ih =>
      obtain ⟨before, behind⟩ := around
      cases place with
      | zero => cases hholds : condition before behind <;> simp [placesWhere, hholds]
      | succ place =>
          rw [placesWhere, List.getElem?_cons_succ, ← ih, Nat.testBit_succ]
          congr 1
          split <;> omega

/-- The character before a place and the one behind it. -/
theorem getElem?_neighbours_none (text : List Char) (place : Nat) :
    (neighbours none text)[place]? =
      if place ≤ text.length then some (charBefore text place, text[place]?) else none := by
  rw [getElem?_neighbours]
  cases place with
  | zero => rfl
  | succ place => cases hchar : text[place]? <;> simp [charBefore, hchar]

@[simp] theorem length_neighbours (before : Option Char) (text : List Char) :
    (neighbours before text).length = text.length + 1 := by
  induction text generalizing before with
  | nil => rfl
  | cons char rest ih => simp [neighbours, ih]

theorem testBit_placesWhere_neighbours (condition : Option Char → Option Char → Bool)
    (text : List Char) (place : Nat) :
    (placesWhere condition (neighbours none text)).testBit place = true ↔
      place ≤ text.length ∧ condition (charBefore text place) text[place]? = true := by
  rw [testBit_placesWhere, getElem?_neighbours_none]
  by_cases hplace : place ≤ text.length <;> simp [hplace]

/-! ## Actions -/

/-- An action follows a relation between places if it goes from the places of a set to those
that they lead to. -/
def Action.Follows (text : List Char) (action : Action) (leads : Nat → Nat → Prop) : Prop :=
  ∀ ⦃places⦄, Inside text places → ∀ stop,
    (action.apply places).testBit stop = true ↔
      ∃ start, places.testBit start = true ∧ leads start stop

namespace Action.Follows

variable {text : List Char} {action : Action} {leads : Nat → Nat → Prop}

/-- A relation that stays inside the text keeps sets inside of it. -/
theorem inside (hfollows : action.Follows text leads)
    (hbound : ∀ {start stop}, leads start stop → start ≤ text.length → stop ≤ text.length)
    {places : Nat} (hplaces : Inside text places) : Inside text (action.apply places) := by
  intro stop hstop
  obtain ⟨start, hstart, hleads⟩ := (hfollows hplaces stop).mp hstop
  exact hbound hleads (hplaces start hstart)

/-- What an action follows matters only for places of the text. -/
theorem congr {leads' : Nat → Nat → Prop} (hfollows : action.Follows text leads)
    (hiff : ∀ start stop, start ≤ text.length → (leads start stop ↔ leads' start stop)) :
    action.Follows text leads' := by
  intro places hplaces stop
  refine (hfollows hplaces stop).trans (exists_congr fun start => and_congr_right fun hstart => ?_)
  exact hiff start stop (hplaces start hstart)

/-- Of two actions the second one goes on from where the first one leads to. -/
theorem comp {second : Action} {leads' : Nat → Nat → Prop} (hfollows : action.Follows text leads)
    (hbound : ∀ {start stop}, leads start stop → start ≤ text.length → stop ≤ text.length)
    (hsecond : second.Follows text leads') :
    Action.Follows text ⟨fun places => second.apply (action.apply places)⟩
      (fun start stop => ∃ middle, leads start middle ∧ leads' middle stop) := by
  intro places hplaces stop
  refine (hsecond (hfollows.inside hbound hplaces) stop).trans ?_
  simp only [hfollows hplaces]
  constructor
  · rintro ⟨middle, ⟨start, hstart, hfirst⟩, hrest⟩
    exact ⟨start, hstart, middle, hfirst, hrest⟩
  · rintro ⟨start, hstart, middle, hfirst, hrest⟩
    exact ⟨middle, ⟨start, hstart, hfirst⟩, hrest⟩

theorem iterate (hfollows : action.Follows text leads)
    (hbound : ∀ {start stop}, leads start stop → start ≤ text.length → stop ≤ text.length)
    (count : Nat) : Action.Follows text ⟨action.iterate count⟩ (Walks leads count) := by
  induction count with
  | zero => simp [Follows, Action.iterate, Walks]
  | succ count ih => exact hfollows.comp hbound ih

/-- A set that an action adds nothing to is never left again. -/
theorem testBit_of_walks (hfollows : action.Follows text leads) {places : Nat}
    (hplaces : Inside text places) (hclosed : places ||| action.apply places = places)
    {count start stop : Nat} (hstart : places.testBit start = true)
    (hwalk : Walks leads count start stop) : places.testBit stop = true := by
  induction count generalizing start with
  | zero =>
      cases hwalk
      exact hstart
  | succ count ih =>
      obtain ⟨middle, hstep, hrest⟩ := hwalk
      refine ih ?_ hrest
      rw [← hclosed, Nat.testBit_or, (hfollows hplaces middle).mpr ⟨start, hstart, hstep⟩,
        Bool.or_true]

theorem reach (hfollows : action.Follows text leads)
    (hbound : ∀ {start stop}, leads start stop → start ≤ text.length → stop ≤ text.length)
    (count : Nat) : Action.Follows text ⟨action.reach count⟩
      (fun start stop => ∃ steps ≤ count, Walks leads steps start stop) := by
  induction count with
  | zero => simp [Follows, Action.reach, Walks]
  | succ count ih =>
      intro places hplaces stop
      have hnext : ∀ place, (places ||| action.apply places).testBit place = true ↔
          places.testBit place = true ∨ ∃ start, places.testBit start = true ∧ leads start place := by
        intro place
        rw [Nat.testBit_or, Bool.or_eq_true, hfollows hplaces]
      simp only [Action.reach, beq_iff_eq]
      -- the action stops early once a round adds nothing, as then no further round does
      split
      · rename_i hclosed
        constructor
        · intro hstop
          exact ⟨stop, hstop, 0, Nat.zero_le _, rfl⟩
        · rintro ⟨start, hstart, steps, -, hwalk⟩
          exact hfollows.testBit_of_walks hplaces hclosed hstart hwalk
      · have hinside : Inside text (places ||| action.apply places) := by
          intro place hplace
          rw [Nat.testBit_or, Bool.or_eq_true] at hplace
          exact hplace.elim (hplaces place) (hfollows.inside hbound hplaces place)
        refine (ih hinside stop).trans ?_
        simp only [hnext]
        constructor
        · rintro ⟨middle, hmiddle | ⟨start, hstart, hstep⟩, steps, hsteps, hwalk⟩
          · exact ⟨middle, hmiddle, steps, by omega, hwalk⟩
          · exact ⟨start, hstart, steps + 1, by omega, middle, hstep, hwalk⟩
        · rintro ⟨start, hstart, steps, hsteps, hwalk⟩
          cases steps with
          | zero => exact ⟨start, .inl hstart, 0, Nat.zero_le _, hwalk⟩
          | succ steps =>
              obtain ⟨middle, hstep, hrest⟩ := hwalk
              exact ⟨middle, .inr ⟨start, hstart, hstep⟩, steps, by omega, hrest⟩

/-- To make the rounds of a repetition is to walk as far as they may lead, although both the
rounds that have to be made and those that may be are cut down to the number of places. -/
theorem rounds (hfollows : action.Follows text leads)
    (hforward : ∀ {start stop}, leads start stop → start ≤ stop)
    (hbound : ∀ {start stop}, leads start stop → start ≤ text.length → stop ≤ text.length)
    (least : Nat) (most : Option Nat) :
    Action.Follows text
      ⟨fun places => action.reach
        (most.elim (neighbours none text).length
          fun most => min (most - least) (neighbours none text).length)
        (action.iterate (min least (neighbours none text).length) places)⟩
      (fun start stop => ∃ extra, (∀ limit ∈ most, extra ≤ limit - least) ∧
        Walks leads (least + extra) start stop) := by
  have hwalks : ∀ {count start stop}, Walks leads count start stop → start ≤ text.length →
      stop ≤ text.length :=
    fun hwalk hstart => hwalk.le_bound hbound hstart
  refine ((hfollows.iterate hbound _).comp hwalks (hfollows.reach hbound _)).congr ?_
  intro start stop hstart
  rw [length_neighbours]
  constructor
  · rintro ⟨middle, hleast, steps, hsteps, hmore⟩
    have hstop : stop ≤ text.length := hwalks hmore (hwalks hleast hstart)
    exact (Walks.rounds_iff hforward (Nat.lt_succ_of_le hstop)).mp
      ⟨middle, hleast, steps, hsteps, hmore⟩
  · rintro ⟨extra, hextra, hwalk⟩
    have hstop : stop ≤ text.length := hwalks hwalk hstart
    exact (Walks.rounds_iff hforward (Nat.lt_succ_of_le hstop)).mpr ⟨extra, hextra, hwalk⟩

end Action.Follows

/-- **An action follows its pattern.** -/
theorem Pattern.follows_action (text : List Char) (pattern : Pattern) :
    (pattern.action (neighbours none text)).Follows text (pattern.Leads text) := by
  induction pattern with
  | empty =>
      intro places hplaces stop
      simp [Pattern.action, Pattern.Leads]
  | chars set =>
      intro places hplaces stop
      simp only [Pattern.action, Pattern.Leads, Nat.testBit_shiftLeft, Nat.testBit_and,
        Bool.and_eq_true, decide_eq_true_eq, testBit_placesWhere_neighbours, Option.any_eq_true]
      constructor
      · rintro ⟨hstop, hplace, -, hset⟩
        exact ⟨stop - 1, hplace, hset, Nat.sub_add_cancel hstop⟩
      · rintro ⟨start, hplace, hset, rfl⟩
        exact ⟨Nat.le_add_left 1 start, hplace, hplaces start hplace, hset⟩
  | look assertion =>
      intro places hplaces stop
      simp only [Pattern.action, Pattern.Leads, Nat.testBit_and, Bool.and_eq_true,
        testBit_placesWhere_neighbours]
      constructor
      · rintro ⟨hplace, -, hholds⟩
        exact ⟨stop, hplace, hholds, rfl⟩
      · rintro ⟨start, hplace, hholds, rfl⟩
        exact ⟨hplace, hplaces start hplace, hholds⟩
  | both first second ihFirst ihSecond =>
      exact ihFirst.comp first.le_length_of_leads ihSecond
  | either first second ihFirst ihSecond =>
      intro places hplaces stop
      simp only [Pattern.action, Pattern.Leads, Nat.testBit_or, Bool.or_eq_true,
        ihFirst hplaces, ihSecond hplaces, and_or_left, exists_or]
  | repeated inner least most ih =>
      have hbound : ∀ {start stop}, inner.Leads text start stop → start ≤ text.length →
          stop ≤ text.length := inner.le_length_of_leads
      exact ih.rounds inner.le_of_leads hbound least most

/-- **What matching means.**  A pattern matches a text if it leads from some place of it to
another one. -/
theorem Pattern.isMatch_iff (pattern : Pattern) (text : List Char) :
    pattern.isMatch text = true ↔
      ∃ start stop, start ≤ text.length ∧ pattern.Leads text start stop := by
  have hall : ∀ place, (Nat.pow 2 (neighbours none text).length - 1).testBit place = true ↔
      place ≤ text.length := by
    intro place
    rw [length_neighbours, Nat.pow_eq, Nat.testBit_two_pow_sub_one, decide_eq_true_eq,
      Nat.lt_succ_iff]
  have hfollows := pattern.follows_action text (fun place hplace => (hall place).mp hplace)
  simp only [hall] at hfollows
  rw [Pattern.isMatch, bne_iff_ne]
  constructor
  · intro hne
    obtain ⟨stop, hstop⟩ := Nat.exists_testBit_of_ne_zero hne
    obtain ⟨start, hstart, hleads⟩ := (hfollows stop).mp hstop
    exact ⟨start, stop, hstart, hleads⟩
  · rintro ⟨start, stop, hstart, hleads⟩ hzero
    have hstop := (hfollows stop).mpr ⟨start, hstart, hleads⟩
    rw [hzero, Nat.zero_testBit] at hstop
    cases hstop

end MtaCheck.Regex
