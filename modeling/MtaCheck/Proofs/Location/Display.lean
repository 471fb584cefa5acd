import Mathlib.Data.List.Chain
import MtaCheck.Proofs.Check.Relocation
import MtaCheck.Proofs.Schema.BuiltIn

/-!
# What the text of a place tells

The text of a place has dots between its segments, and the bracket of an index takes the place of
the dot in front of it (`Location.joinIndices`).  The text of the root is the word `root`, and
the places directly below it have the text of a place that begins with this name.  If all names are
plain, the text can be read back nevertheless:

* In front of each segment but the first stands a dot or a bracket, and no segment has one inside
  of it (`Step.mark`, `Step.body`).  So a text falls apart into segments in only one way
  (`text_injective`).
* The root and the places directly below it are written with the name `root` in front of their
  steps (`fromRoot`), so only a place that really begins with this name could be taken for one of
  them (`withoutRoot_fromRoot`).

The main result, `display_unambiguous`, adds that the reports about deployment descriptors are about
places of this kind.
-/

namespace MtaCheck

open Check

/-! ## Plain names -/

/-- A name that has no mark of a place in it. -/
structure IsPlainName (name : String) : Prop where
  ne_empty : name ≠ ""
  no_dot : '.' ∉ name.toList
  no_bracket : '[' ∉ name.toList

namespace Step

/-- A step to an element, or to a property with a plain name. -/
def IsPlain : Step → Prop
  | .name key => IsPlainName key
  | .index _ => True

/-- The segment of a step. -/
def segment : Step → String
  | .name key => key
  | .index number => Location.indexSegment number

/-- The mark in front of a step. -/
def mark : Step → Char
  | .name _ => '.'
  | .index _ => '['

/-- What stands behind the mark of a step. -/
def body : Step → List Char
  | .name key => key.toList
  | .index number => (toString number).toList ++ [']']

/-- How a step is written behind another one. -/
def written (step : Step) : List Char := step.mark :: step.body

end Step

/-- Steps from the root with plain names, of which the first is not that of the root. -/
structure ArePlain (steps : List Step) : Prop where
  plain : ∀ step ∈ steps, step.IsPlain
  first : steps.head? ≠ some (.name Location.rootName)

/-- A plain name begins with a character, and this is no bracket. -/
theorem IsPlainName.exists_cons {name : String} (hplain : IsPlainName name) :
    ∃ char rest, name.toList = char :: rest ∧ char ≠ '[' := by
  obtain ⟨char, rest, hname⟩ := List.exists_cons_of_ne_nil
    (fun hnil => hplain.ne_empty (String.toList_eq_nil_iff.mp hnil))
  refine ⟨char, rest, hname, ?_⟩
  rintro rfl
  exact hplain.no_bracket (hname ▸ List.mem_cons_self)

/-- A character that is no digit is none of the digits of a number. -/
theorem not_mem_digits {number : Nat} {char : Char} (hdigit : char.isDigit = false) :
    char ∉ (toString number).toList := by
  intro hchar
  rw [Nat.toString_eq_repr, Nat.toList_repr] at hchar
  rw [Nat.isDigit_of_mem_toDigits (by omega) (by omega) hchar] at hdigit
  cases hdigit

namespace Step

/-- Nothing behind a mark could be taken for another one. -/
theorem no_mark_in_body {step : Step} (hplain : step.IsPlain) :
    '.' ∉ step.body ∧ '[' ∉ step.body := by
  cases step with
  | name key => exact ⟨hplain.no_dot, hplain.no_bracket⟩
  | index number =>
      rw [body, List.mem_append, List.mem_append, not_or, not_or]
      exact ⟨⟨not_mem_digits (by decide), by decide⟩, not_mem_digits (by decide), by decide⟩

theorem body_injective {step step' : Step} (hmark : step.mark = step'.mark)
    (hbody : step.body = step'.body) : step = step' := by
  cases step with
  | name key =>
      cases step' with
      | name key' => rw [String.toList_inj.mp hbody]
      | index number' => simp [mark] at hmark
  | index number =>
      cases step' with
      | name key' => simp [mark] at hmark
      | index number' =>
          have hdigits := List.append_cancel_right hbody
          rw [Nat.toString_eq_repr, Nat.toString_eq_repr, Nat.toList_repr, Nat.toList_repr]
            at hdigits
          rw [← Nat.ofDigitChars_ten_toDigits (n := number), hdigits,
            Nat.ofDigitChars_ten_toDigits]

theorem toList_segment_index (number : Nat) :
    (index number).segment.toList = (index number).written := by
  simp [segment, mark, body, written, Location.indexSegment]

theorem no_dot_in_segment {step : Step} (hplain : step.IsPlain) : '.' ∉ step.segment.toList := by
  have hbody := (no_mark_in_body hplain).1
  cases step with
  | name key => exact hbody
  | index number =>
      rw [toList_segment_index, written, List.mem_cons, not_or]
      exact ⟨nofun, hbody⟩

end Step

theorem Location.segments_follow (location : Location) (steps : List Step) :
    (location.follow steps).segments = location.segments ++ steps.map Step.segment := by
  induction steps generalizing location with
  | nil => simp [follow]
  | cons first steps ih =>
      have hfirst : (location.step first).segments = location.segments ++ [first.segment] := by
        cases first <;> rfl
      rw [List.map_cons, List.append_cons, ← hfirst, ← ih]
      rfl

/-! ## The text of a place -/

namespace Location

/-- Nothing is joined inside of a text without dots. -/
theorem joinIndices_append {front : List Char} (hdot : '.' ∉ front) (back : List Char) :
    joinIndices (front ++ back) = front ++ joinIndices back := by
  induction front with
  | nil => rfl
  | cons char front ih =>
      rw [List.mem_cons, not_or] at hdot
      rw [List.cons_append, joinIndices, ih hdot.2, List.cons_append]
      rintro rest rfl
      exact absurd rfl hdot.1

/-- The dot in front of a name stays, and the one in front of an index does not. -/
theorem joinIndices_segment {step : Step} (hplain : step.IsPlain) (back : List Char) :
    joinIndices ('.' :: (step.segment.toList ++ back)) = step.written ++ joinIndices back := by
  have hbody := Step.no_mark_in_body hplain
  rw [Step.written, List.cons_append, ← joinIndices_append hbody.1]
  cases step with
  | index number =>
      rw [Step.toList_segment_index, Step.written, Step.mark, List.cons_append, joinIndices]
  | name key =>
      rw [joinIndices]
      · rfl
      · intro rest _ hrest
        -- the name would begin with the bracket
        obtain ⟨char, name, hname, hchar⟩ := IsPlainName.exists_cons hplain
        rw [show (Step.name key).segment.toList = char :: name from hname] at hrest
        exact hchar (List.cons.inj hrest).1

/-- The steps that are written for a place: the word for the root comes in front of fewer than
two. -/
def fromRoot : List Step → List Step
  | [] => [.name rootName]
  | [step] => [.name rootName, step]
  | steps => steps

/-- The first of some steps, and the others behind it. -/
def text : List Step → List Char
  | [] => []
  | first :: rest => first.segment.toList ++ rest.flatMap Step.written

theorem dotted_segments (steps : List Step) :
    dotted (steps.map Step.segment) = ".".intercalate ((fromRoot steps).map Step.segment) := by
  match steps with
  | [] => rfl
  | [step] => rfl
  | _ :: _ :: _ => rfl

theorem toList_intercalate_dots (first : String) (rest : List String) :
    (".".intercalate (first :: rest)).toList =
      first.toList ++ rest.flatMap fun segment => '.' :: segment.toList := by
  induction rest generalizing first with
  | nil => simp
  | cons second rest ih =>
      rw [List.flatMap_cons, List.cons_append, ← ih second, String.toList_intercalate,
        String.toList_intercalate, List.map_cons, List.map_cons, List.intercalate_cons_cons,
        List.append_assoc]
      rfl

theorem joinIndices_flatMap {steps : List Step} (hplain : ∀ step ∈ steps, step.IsPlain) :
    joinIndices (steps.flatMap fun step => '.' :: step.segment.toList) =
      steps.flatMap Step.written := by
  induction steps with
  | nil => rfl
  | cons step steps ih =>
      rw [List.forall_mem_cons] at hplain
      rw [List.flatMap_cons, List.flatMap_cons, List.cons_append, joinIndices_segment hplain.1,
        ih hplain.2]

theorem isPlain_fromRoot {steps : List Step} (hplain : ∀ step ∈ steps, step.IsPlain) :
    ∀ step ∈ fromRoot steps, step.IsPlain := by
  have hroot : (Step.name rootName).IsPlain := ⟨by decide, by decide, by decide⟩
  match steps with
  | [] => exact List.forall_mem_singleton.mpr hroot
  | [step] => exact List.forall_mem_cons.mpr ⟨hroot, hplain⟩
  | _ :: _ :: _ => exact hplain

theorem toList_display {steps : List Step} (hplain : ∀ step ∈ steps, step.IsPlain) :
    (root.follow steps).display.toList = text (fromRoot steps) := by
  have hrooted := isPlain_fromRoot hplain
  have hsegments : (root.follow steps).segments = steps.map Step.segment :=
    segments_follow root steps
  rw [display, hsegments, dotted_segments, String.toList_ofList]
  cases hfrom : fromRoot steps with
  | nil => rfl
  | cons first rest =>
      rw [hfrom, List.forall_mem_cons] at hrooted
      rw [List.map_cons, toList_intercalate_dots, List.flatMap_map,
        joinIndices_append (Step.no_dot_in_segment hrooted.1), joinIndices_flatMap hrooted.2, text]

/-! ## Reading a text back -/

/-- Whether a character stands in front of a segment. -/
def isMark (char : Char) : Bool := char == '.' || char == '['

theorem takeWhile_flatMap (steps : List Step) :
    (steps.flatMap Step.written).takeWhile (!isMark ·) = [] := by
  cases steps with
  | nil => rfl
  | cons step steps => cases step <;> rfl

/-- A segment ends where the next mark is. -/
theorem takeWhile_body {step : Step} (hplain : step.IsPlain) (steps : List Step) :
    (step.body ++ steps.flatMap Step.written).takeWhile (!isMark ·) = step.body := by
  have hbody : ∀ char ∈ step.body, (!isMark char) = true := by
    intro char hchar
    obtain ⟨hdot, hbracket⟩ := Step.no_mark_in_body hplain
    have hneDot : char ≠ '.' := fun heq => hdot (heq ▸ hchar)
    have hneBracket : char ≠ '[' := fun heq => hbracket (heq ▸ hchar)
    simp [isMark, hneDot, hneBracket]
  rw [List.takeWhile_append_of_pos hbody, takeWhile_flatMap, List.append_nil]

theorem flatMap_written_injective {steps steps' : List Step}
    (hplain : ∀ step ∈ steps, step.IsPlain) (hplain' : ∀ step ∈ steps', step.IsPlain)
    (htext : steps.flatMap Step.written = steps'.flatMap Step.written) : steps = steps' := by
  induction steps generalizing steps' with
  | nil =>
      cases steps' with
      | nil => rfl
      | cons step' steps' => cases htext
  | cons step steps ih =>
      cases steps' with
      | nil => cases htext
      | cons step' steps' =>
          rw [List.forall_mem_cons] at hplain hplain'
          rw [List.flatMap_cons, List.flatMap_cons, Step.written, Step.written, List.cons_append,
            List.cons_append, List.cons.injEq] at htext
          obtain ⟨hmark, htail⟩ := htext
          have hbody : step.body = step'.body := by
            rw [← takeWhile_body hplain.1 steps, htail, takeWhile_body hplain'.1 steps']
          rw [hbody, List.append_cancel_left_eq] at htail
          rw [Step.body_injective hmark hbody, ih hplain.2 hplain'.2 htail]

/-- A text that begins with a bracket is that of an index and what stands behind it, and with the
missing dot in front every other text is written in full. -/
theorem flatMap_written_eq {first : Step} (rest : List Step) (hplain : first.IsPlain) :
    (first :: rest).flatMap Step.written =
      if (text (first :: rest)).head? = some '[' then text (first :: rest)
      else '.' :: text (first :: rest) := by
  cases first with
  | index number =>
      rw [text, Step.toList_segment_index, Step.written, List.cons_append, List.head?_cons]
      exact (if_pos rfl).symm
  | name key =>
      obtain ⟨char, name, hname, hchar⟩ := IsPlainName.exists_cons hplain
      have htext : (text (.name key :: rest)).head? = some char := by
        simp [text, Step.segment, hname]
      rw [htext, if_neg (fun heq => hchar (Option.some_inj.mp heq))]
      rfl

theorem text_injective {steps steps' : List Step} (hne : steps ≠ []) (hne' : steps' ≠ [])
    (hplain : ∀ step ∈ steps, step.IsPlain) (hplain' : ∀ step ∈ steps', step.IsPlain)
    (htext : text steps = text steps') : steps = steps' := by
  obtain ⟨first, rest, rfl⟩ := List.exists_cons_of_ne_nil hne
  obtain ⟨first', rest', rfl⟩ := List.exists_cons_of_ne_nil hne'
  refine flatMap_written_injective hplain hplain' ?_
  rw [flatMap_written_eq rest (hplain first List.mem_cons_self),
    flatMap_written_eq rest' (hplain' first' List.mem_cons_self), htext]

/-- The steps without the word for the root in front of them. -/
def withoutRoot : List Step → List Step
  | .name key :: rest => if key = rootName then rest else .name key :: rest
  | steps => steps

theorem withoutRoot_fromRoot {steps : List Step}
    (hfirst : steps.head? ≠ some (.name rootName)) : withoutRoot (fromRoot steps) = steps := by
  match steps, hfirst with
  | [], _ => simp [fromRoot, withoutRoot]
  | [step], _ => simp [fromRoot, withoutRoot]
  | .index number :: _ :: _, _ => rfl
  | .name key :: second :: rest, hfirst =>
      refine if_neg fun hkey => hfirst ?_
      rw [List.head?_cons, hkey]

theorem fromRoot_ne_nil (steps : List Step) : fromRoot steps ≠ [] := by
  match steps with
  | [] => exact List.cons_ne_nil _ _
  | [_] => exact List.cons_ne_nil _ _
  | _ :: _ :: _ => exact List.cons_ne_nil _ _

/-- Different plain places have different texts. -/
theorem follow_injective_of_display {steps steps' : List Step} (hplain : ArePlain steps)
    (hplain' : ArePlain steps')
    (hdisplay : (root.follow steps).display = (root.follow steps').display) : steps = steps' := by
  have htext : text (fromRoot steps) = text (fromRoot steps') := by
    rw [← toList_display hplain.plain, ← toList_display hplain'.plain, hdisplay]
  have hrooted := text_injective (fromRoot_ne_nil steps) (fromRoot_ne_nil steps')
    (isPlain_fromRoot hplain.plain) (isPlain_fromRoot hplain'.plain) htext
  rw [← withoutRoot_fromRoot hplain.first, hrooted, withoutRoot_fromRoot hplain'.first]

/-! ## No dot before a bracket -/

/-- No dot stands directly before a bracket. -/
def IsJoined : List Char → Prop := List.IsChain fun char next => char = '.' → next ≠ '['

theorem IsJoined.append {front back : List Char} (hdot : '.' ∉ front) (hback : IsJoined back) :
    IsJoined (front ++ back) := by
  induction front with
  | nil => exact hback
  | cons char front ih =>
      rw [List.mem_cons, not_or] at hdot
      refine List.isChain_cons.mpr ⟨?_, ih hdot.2⟩
      intro next _ hchar
      exact absurd hchar.symm hdot.1

theorem IsJoined.written {step : Step} (hplain : step.IsPlain) {back : List Char}
    (hback : IsJoined back) : IsJoined (step.written ++ back) := by
  have hbody := Step.no_mark_in_body hplain
  cases step with
  | index number =>
      refine IsJoined.append ?_ hback
      rw [Step.written, List.mem_cons, not_or]
      exact ⟨nofun, hbody.1⟩
  | name key =>
      refine List.isChain_cons.mpr ⟨?_, hback.append hbody.1⟩
      obtain ⟨char, name, hname, hchar⟩ := IsPlainName.exists_cons hplain
      have hbodyCons : (Step.name key).body = char :: name := hname
      intro next hnext _
      rw [hbodyCons] at hnext
      exact Option.some_inj.mp hnext ▸ hchar

theorem isJoined_flatMap {steps : List Step} (hplain : ∀ step ∈ steps, step.IsPlain) :
    IsJoined (steps.flatMap Step.written) := by
  induction steps with
  | nil => exact .nil
  | cons step steps ih =>
      rw [List.forall_mem_cons] at hplain
      exact IsJoined.written hplain.1 (ih hplain.2)

theorem isJoined_text {steps : List Step} (hplain : ∀ step ∈ steps, step.IsPlain) :
    IsJoined (text steps) := by
  cases steps with
  | nil => exact .nil
  | cons first rest =>
      rw [List.forall_mem_cons] at hplain
      exact IsJoined.append (Step.no_dot_in_segment hplain.1) (isJoined_flatMap hplain.2)

theorem IsJoined.not_dot_bracket {chars : List Char} (hjoined : IsJoined chars) :
    ¬['.', '['] <:+: chars := by
  intro hinfix
  have hpair : IsJoined ['.', '['] := List.IsChain.infix hjoined hinfix
  exact List.isChain_pair.mp hpair rfl rfl

end Location

/-! ## The places of issues -/

/-- The names in the schema of deployment descriptors are plain, and none of them is that of the
root. -/
theorem plain_names_descriptor :
    ∀ name ∈ namesOfAll Schema.descriptor.checks,
      IsPlainName name ∧ name ≠ Location.rootName := by
  have hnames : ∀ name ∈ namesOfAll Schema.descriptor.checks,
      (name ≠ "" ∧ '.' ∉ name.toList ∧ '[' ∉ name.toList) ∧ name ≠ Location.rootName := by
    decide +kernel
  intro name hname
  obtain ⟨⟨hempty, hdot, hbracket⟩, hroot⟩ := hnames name hname
  exact ⟨⟨hempty, hdot, hbracket⟩, hroot⟩

theorem exists_plain_of_mem_run {document : Node} {issue : Issue}
    (hissue : issue ∈ run CompiledSchema.descriptor.checks document) :
    ∃ steps finding, ArePlain steps ∧ issue = .finding (Location.root.follow steps) finding := by
  have hcomposed := areComposed_iff.mp (Schema.areComposed_checks Schema.descriptor)
  have hrelative : IsRelative (namesOfAll Schema.descriptor.checks)
      (evaluateAll Schema.descriptor.checks document) :=
    isRelative_evaluateAll fun check hcheck =>
      isRelative_evaluate check (hcomposed check hcheck) document
  obtain ⟨sightings, huses, hall⟩ := hrelative
  rw [CompiledSchema.descriptor_eq, run, hall] at hissue
  obtain ⟨sighting, hsighting, rfl⟩ := List.mem_map.mp hissue
  have hnames := fun key hkey => plain_names_descriptor key (huses sighting hsighting key hkey)
  refine ⟨sighting.steps, sighting.finding, ⟨?_, ?_⟩, rfl⟩
  · intro step hstep
    cases step with
    | name key => exact (hnames key hstep).1
    | index number => trivial
  · intro hfirst
    exact (hnames _ (List.mem_of_mem_head? hfirst)).2 rfl

namespace Location

/-- **The text of a place is that of no other.**  If names are not empty and have neither dots
nor opening brackets in them, and the first is not `root`, then places with equal texts have equal
segments, and in no text stands a dot directly before a bracket.  Whatever is reported of a
deployment descriptor is reported of such a place. -/
theorem display_unambiguous :
    (∀ steps steps', ArePlain steps → ArePlain steps' →
      (root.follow steps).display = (root.follow steps').display →
        (root.follow steps).segments = (root.follow steps').segments ∧ steps = steps') ∧
      (∀ steps, ArePlain steps → ¬['.', '['] <:+: (root.follow steps).display.toList) ∧
      ∀ document, ∀ issue ∈ run CompiledSchema.descriptor.checks document,
        ∃ steps finding, ArePlain steps ∧ issue = .finding (root.follow steps) finding := by
  refine ⟨?_, ?_, fun document issue => exists_plain_of_mem_run⟩
  · intro steps steps' hplain hplain' hdisplay
    have hsteps := follow_injective_of_display hplain hplain' hdisplay
    exact ⟨by rw [hsteps], hsteps⟩
  · intro steps hplain
    rw [toList_display hplain.plain]
    exact (isJoined_text (isPlain_fromRoot hplain.plain)).not_dot_bracket

/-- The place of a requirement of a module. -/
def requirementSteps : List Step := [.name "modules", .index 0, .name "requires", .index 12]

/-- No other plain place has the text of the requirement.  If a name could be `root`, then the
property of this name and the one below it would have the same text. -/
theorem display_unambiguous_requirement :
    ArePlain requirementSteps ∧
      (root.follow requirementSteps).display = "modules[0].requires[12]" ∧
      (∀ steps, ArePlain steps → (root.follow steps).display = "modules[0].requires[12]" →
        steps = requirementSteps) ∧
      ¬['.', '['] <:+: "modules[0].requires[12]".toList ∧
      (root.follow [.name "root"]).display =
        (root.follow [.name "root", .name "root"]).display := by
  have hplain : ArePlain requirementSteps := by
    refine ⟨?_, by simp [requirementSteps, rootName]⟩
    simp only [requirementSteps, List.forall_mem_cons]
    exact ⟨⟨by decide, by decide, by decide⟩, trivial, ⟨by decide, by decide, by decide⟩, trivial,
      nofun⟩
  have hdisplay : (root.follow requirementSteps).display = "modules[0].requires[12]" := by
    decide +kernel
  obtain ⟨hinjective, hjoined, -⟩ := display_unambiguous
  refine ⟨hplain, hdisplay, ?_, hdisplay ▸ hjoined requirementSteps hplain, by decide +kernel⟩
  intro steps hsteps htext
  exact (hinjective steps requirementSteps hsteps hplain (htext.trans hdisplay.symm)).2

end Location

end MtaCheck
