import MtaCheck.Yaml.Document

/-!
# The nesting of events

The events of a text open and close collections in order.  A `Frame` says what may
come next in an open collection, a stack of frames what is still to come of all that
is open, and `EventKind.advance` what an event changes about it.

The grammar keeps such a stack itself: its productions are what is still to come.
`advance_step` shows that every event of the grammar is one that its stack admits, and
`nested_ofTokens` that the events of a text are nested, all of them.
-/

namespace MtaCheck.Yaml

/-! ## Frames -/

/-- What may come next in something that is open. -/
inductive Frame
  /-- A document, or the end of the text. -/
  | start
  /-- The value of a document. -/
  | root
  /-- The end of a document. -/
  | finish
  /-- An element of a sequence, or its end. -/
  | element
  /-- A key of a mapping, or its end. -/
  | key
  /-- The value of a key. -/
  | value
deriving DecidableEq

/-- What is still to come once a value has begun, besides the rest of that value. -/
def Frame.begin : List Frame → Option (List Frame)
  | .root :: outer => some outer
  | .element :: outer => some (.element :: outer)
  | .key :: outer => some (.value :: outer)
  | .value :: outer => some (.key :: outer)
  | _ => none

/-- What is still to come behind an event, if the event may come at all. -/
def EventKind.advance : EventKind → List Frame → Option (List Frame)
  | .streamStart, frames => some frames
  | .streamEnd, .start :: outer => some outer
  | .documentStart, .start :: outer => some (.root :: .finish :: outer)
  | .documentEnd, .finish :: outer => some (.start :: outer)
  | .reference _, frames | .scalar _ _, frames => Frame.begin frames
  | .sequenceStart _ _, frames => (Frame.begin frames).map (.element :: ·)
  | .mappingStart _ _, frames => (Frame.begin frames).map (.key :: ·)
  | .sequenceEnd, .element :: outer => some outer
  | .mappingEnd, .key :: outer => some outer
  | _, _ => none

/-- Whether each of the events may come where it comes. -/
def Nested : List Frame → List Event → Prop
  | _, [] => True
  | frames, event :: events =>
      ∃ following, event.kind.advance frames = some following ∧ Nested following events

/-! ## The stack of the grammar -/

/-- What is still to come of a production. -/
def Production.frames : Production → List Frame
  | .stream | .document _ => [.start]
  | .documentContent | .blockNode => [.root]
  | .documentEnd => [.finish]
  | .blockSequenceEntry _ | .indentlessSequenceEntry | .flowSequenceEntry _ => [.element]
  | .blockMappingKey _ | .flowMappingKey _ => [.key]
  | .blockMappingValue | .flowMappingValue _ => [.value]
  | .flowPairKey | .flowPairEnd => [.key, .element]
  | .flowPairValue => [.value, .element]
  | .done => []

/-- What is still to come of the productions around the one in work. -/
def Grammar.outerFrames (grammar : Grammar) : List Frame := grammar.outer.flatMap (·.frames)

/-- What is still to come of all productions. -/
def Grammar.frames (grammar : Grammar) : List Frame :=
  grammar.production.frames ++ grammar.outerFrames

namespace Arrange

/-! ## What actions lead to -/

/-- Wherever an action ends that begins in a state, this holds of its result and of the
state behind it. -/
def Leads {α : Type} (action : Arrange α) (grammar : Grammar) (good : α → Grammar → Prop) :
    Prop :=
  ∀ result after, action grammar = .ok (result, after) → good result after

variable {α β : Type} {grammar : Grammar}

theorem leads_pure {result : α} {good : α → Grammar → Prop} :
    Leads (pure result) grammar good ↔ good result grammar := by
  constructor
  · intro hleads
    exact hleads result grammar rfl
  · intro hgood result' after hrun
    cases hrun
    exact hgood

theorem leads_throw {error : SyntaxError} {good : α → Grammar → Prop} :
    Leads (throw error) grammar good ↔ True := by
  refine iff_of_true ?_ trivial
  intro result after hrun
  cases hrun

theorem leads_bind {action : Arrange α} {next : α → Arrange β} {good : β → Grammar → Prop} :
    Leads (action >>= next) grammar good ↔
      Leads action grammar fun result after => Leads (next result) after good := by
  constructor
  · intro hleads result after hrun result' after' hrun'
    refine hleads result' after' ?_
    show (action grammar >>= fun pair => next pair.1 pair.2) = _
    rw [hrun]
    exact hrun'
  · intro hleads result' after' hrun
    change (action grammar >>= fun pair => next pair.1 pair.2) = _ at hrun
    cases hfirst : action grammar with
    | error error =>
        rw [hfirst] at hrun
        cases hrun
    | ok pair =>
        rw [hfirst] at hrun
        exact hleads pair.1 pair.2 hfirst result' after' hrun

theorem leads_get {good : Grammar → Grammar → Prop} :
    Leads get grammar good ↔ good grammar grammar := leads_pure

theorem leads_modify {change : Grammar → Grammar} {good : Unit → Grammar → Prop} :
    Leads (modify change) grammar good ↔ good () (change grammar) := by
  constructor
  · intro hleads
    exact hleads () (change grammar) rfl
  · intro hgood result after hrun
    cases hrun
    exact hgood

theorem leads_peek {good : Token → Grammar → Prop} :
    Leads peek grammar good ↔ ∀ token, grammar.tokens.head? = some token → good token grammar := by
  rw [peek, leads_bind, leads_get]
  cases grammar.tokens with
  | nil => simp [leads_throw]
  | cons token tokens => simp [leads_pure]

theorem Leads.imp {action : Arrange α} {good better : α → Grammar → Prop}
    (hleads : Leads action grammar good)
    (himp : ∀ result after, good result after → better result after) :
    Leads action grammar better :=
  fun result after hrun => himp result after (hleads result after hrun)

/-! ## Actions that leave the stack as it is -/

/-- The action changes nothing about the productions. -/
def KeepsProductions (action : Arrange α) : Prop :=
  ∀ grammar, Leads action grammar fun _ after =>
    after.production = grammar.production ∧ after.outer = grammar.outer

theorem keeps_pure (result : α) : KeepsProductions (pure result : Arrange α) :=
  fun _ => leads_pure.mpr ⟨rfl, rfl⟩

theorem keeps_throw (error : SyntaxError) : KeepsProductions (throw error : Arrange α) :=
  fun _ => leads_throw.mpr trivial

theorem keeps_bind {action : Arrange α} {next : α → Arrange β} (hfirst : KeepsProductions action)
    (hnext : ∀ result, KeepsProductions (next result)) : KeepsProductions (action >>= next) := by
  intro grammar
  rw [leads_bind]
  refine (hfirst grammar).imp fun result after hkept => ?_
  refine (hnext result after).imp fun _ last hlast => ?_
  exact ⟨hlast.1.trans hkept.1, hlast.2.trans hkept.2⟩

theorem keeps_get : KeepsProductions get := fun _ => leads_get.mpr ⟨rfl, rfl⟩

theorem keeps_peek : KeepsProductions peek :=
  fun _ => leads_peek.mpr fun _ _ => ⟨rfl, rfl⟩

theorem keeps_pass : KeepsProductions pass := fun _ => leads_modify.mpr ⟨rfl, rfl⟩

theorem keeps_anchor : KeepsProductions anchor? := by
  refine keeps_bind keeps_peek fun token => ?_
  split
  · exact keeps_bind keeps_pass fun _ => keeps_pure _
  · exact keeps_pure _

theorem keeps_tag : KeepsProductions tag? := by
  refine keeps_bind keeps_peek fun token => ?_
  split
  · exact keeps_bind keeps_pass fun _ => keeps_pure _
  · exact keeps_pure _

theorem keeps_properties : KeepsProductions properties := by
  refine keeps_bind keeps_peek fun token => ?_
  refine keeps_bind keeps_anchor fun anchor => ?_
  split
  · exact keeps_bind keeps_tag fun _ => keeps_pure _
  · refine keeps_bind keeps_tag fun tag => ?_
    split
    · exact keeps_bind keeps_anchor fun _ => keeps_pure _
    · exact keeps_pure _

theorem keeps_resolveTag (start : Mark) (tag : Option (Mark × String × TagOctets)) :
    KeepsProductions (resolveTag start tag) := by
  unfold resolveTag
  split
  · exact keeps_pure _
  · split
    · exact keeps_pure _
    · refine keeps_bind keeps_get fun grammar => ?_
      split
      · exact keeps_pure _
      · exact keeps_throw _

theorem keeps_modify {change : Grammar → Grammar}
    (hchange : ∀ grammar, (change grammar).production = grammar.production ∧
      (change grammar).outer = grammar.outer) :
    KeepsProductions (modify change) :=
  fun grammar => leads_modify.mpr (hchange grammar)

/-- A complaint that stops the action may come in front. -/
theorem keeps_unless {stops : Prop} [Decidable stops] {error : SyntaxError}
    {next : PUnit → Arrange α} (hnext : KeepsProductions (next PUnit.unit)) :
    KeepsProductions (if stops then throw error >>= next else next PUnit.unit) := by
  split
  · intro grammar
    rw [leads_bind]
    exact leads_throw.mpr trivial
  · exact hnext

theorem leads_set {after : Grammar} {good : PUnit → Grammar → Prop} :
    Leads (set after) grammar good ↔ good PUnit.unit after := by
  constructor
  · intro hleads
    exact hleads PUnit.unit after rfl
  · intro hgood result after' hrun
    cases hrun
    exact hgood

theorem keeps_addHandle (mark : Mark) (handle : String) (expansion : TagOctets) :
    KeepsProductions (addHandle mark handle expansion) := by
  intro grammar
  unfold addHandle
  rw [leads_bind, leads_get]
  split
  · rw [leads_bind]
    exact leads_throw.mpr trivial
  · exact leads_set.mpr ⟨rfl, rfl⟩

theorem keeps_addStandardHandles : KeepsProductions addStandardHandles :=
  keeps_modify fun _ => ⟨rfl, rfl⟩

theorem keeps_directives (steps : Nat) (versioned : Bool) :
    KeepsProductions (directives steps versioned) := by
  induction steps generalizing versioned with
  | zero => exact keeps_pure _
  | succ steps ih =>
      unfold directives
      refine keeps_bind keeps_peek fun token => ?_
      split
      · exact keeps_unless (keeps_unless (keeps_bind keeps_pass fun _ => ih _))
      · exact keeps_bind (keeps_addHandle _ _ _) fun _ => keeps_bind keeps_pass fun _ => ih _
      · exact keeps_pure _

theorem keeps_passDocumentEnds (steps : Nat) : KeepsProductions (passDocumentEnds steps) := by
  induction steps with
  | zero => exact keeps_pure _
  | succ steps ih =>
      unfold passDocumentEnds
      refine keeps_bind keeps_peek fun token => ?_
      split
      · exact keeps_bind keeps_pass fun _ => ih
      · exact keeps_pure _

/-! ## Actions that end with an event -/

/-- The event of an action is one that these frames admit, and what is still to come
behind it is what the stack says. -/
def Emits (action : Arrange Event) (grammar : Grammar) (frames : List Frame) : Prop :=
  Leads action grammar fun event after => event.kind.advance frames = some after.frames

variable {frames : List Frame}

theorem emits_throw {error : SyntaxError} : Emits (throw error) grammar frames :=
  leads_throw.mpr trivial

theorem emits_pure {event : Event} (hadvance : event.kind.advance frames = some grammar.frames) :
    Emits (pure event) grammar frames :=
  leads_pure.mpr hadvance

theorem emits_modify {change : Grammar → Grammar} {next : Unit → Arrange Event}
    (hnext : Emits (next ()) (change grammar) frames) :
    Emits (modify change >>= next) grammar frames := by
  rw [Emits, leads_bind, leads_modify]
  exact hnext

/-- An action that leaves the stack as it is may come in front. -/
theorem emits_keeps {action : Arrange α} {next : α → Arrange Event}
    (hkeeps : KeepsProductions action)
    (hnext : ∀ result after, after.outerFrames = grammar.outerFrames →
      Emits (next result) after frames) :
    Emits (action >>= next) grammar frames := by
  rw [Emits, leads_bind]
  refine (hkeeps grammar).imp fun result after hkept => hnext result after ?_
  rw [Grammar.outerFrames, hkept.2, Grammar.outerFrames]

/-- Where the productions around the one in work go on, nothing else is still to come. -/
theorem some_frames_resume :
    some grammar.outerFrames = some (Grammar.frames { grammar with
      production := grammar.outer.head?.getD .done, outer := grammar.outer.tail }) := by
  rw [Option.some_inj, Grammar.frames, Grammar.outerFrames, Grammar.outerFrames]
  cases grammar.outer <;> rfl

/-- A collection that begins here is what comes next. -/
theorem emits_start {kind : EventKind} {mark : Mark} {production : Production} {frame : Frame}
    (hframe : production.frames = [frame])
    (hadvance : kind.advance frames = some (frame :: grammar.outerFrames)) :
    Emits (do continueWith production; return ⟨kind, mark⟩) grammar frames := by
  refine emits_modify (emits_pure ?_)
  rw [hadvance, Grammar.frames, hframe]
  rfl

/-- A value may begin where what is still to come besides it is what the productions around
the one in work say. -/
theorem emits_node {block indentless : Bool}
    (hbegin : Frame.begin frames = some grammar.outerFrames) :
    Emits (node block indentless) grammar frames := by
  unfold node
  refine emits_keeps keeps_peek fun token middle hpeek => ?_
  rw [← hpeek] at hbegin
  split
  · have hreference : ∀ name, (EventKind.reference name).advance frames =
        some middle.outerFrames := fun _ => hbegin
    exact emits_modify (emits_modify (emits_pure ((hreference _).trans some_frames_resume)))
  · refine emits_keeps keeps_properties fun found later hproperties => ?_
    refine emits_keeps keeps_peek fun token last hpeek' => ?_
    refine emits_keeps (keeps_resolveTag _ _) fun tag after htag => ?_
    rw [← hproperties, ← hpeek', ← htag] at hbegin
    have hsequence : ∀ anchor tag, (EventKind.sequenceStart anchor tag).advance frames =
        some (.element :: after.outerFrames) := by
      intro anchor tag
      rw [EventKind.advance, hbegin, Option.map_some]
    have hmapping : ∀ anchor tag, (EventKind.mappingStart anchor tag).advance frames =
        some (.key :: after.outerFrames) := by
      intro anchor tag
      rw [EventKind.advance, hbegin, Option.map_some]
    have hscalar : ∀ anchor scalar, (EventKind.scalar anchor scalar).advance frames =
        some after.outerFrames := fun _ _ => hbegin
    split
    · exact emits_start rfl (hsequence _ _)
    · exact emits_modify (emits_modify (emits_pure ((hscalar _ _).trans some_frames_resume)))
    · exact emits_start rfl (hsequence _ _)
    · exact emits_start rfl (hmapping _ _)
    · exact emits_start rfl (hsequence _ _)
    · exact emits_start rfl (hmapping _ _)
    · split
      · exact emits_modify (emits_pure ((hscalar _ _).trans some_frames_resume))
      · exact emits_throw

/-! ## Productions -/

theorem emits_missingValue {mark : Mark} (hbegin : Frame.begin frames = some grammar.frames) :
    Emits (missingValue mark) grammar frames :=
  emits_pure hbegin

/-- Behind an indicator there is a value or nothing, and then the next production. -/
theorem emits_valueOrMissing {ends : List TokenKind} {mark : Mark} {next : Production}
    {block indentless : Bool}
    (hbegin : Frame.begin frames = some (next.frames ++ grammar.outerFrames)) :
    Emits (valueOrMissing ends mark next (node block indentless)) grammar frames := by
  unfold valueOrMissing
  refine emits_keeps keeps_peek fun token after houter => ?_
  rw [← houter] at hbegin
  split
  · exact emits_modify (emits_missingValue hbegin)
  · exact emits_modify (emits_node hbegin)

/-- Wherever the action begins, its event is one that is admitted if this is still to come in
front of what the productions around the one in work say. -/
def EmitsAbove (action : Arrange Event) (above : List Frame) : Prop :=
  ∀ grammar, Emits action grammar (above ++ grammar.outerFrames)

variable {above : List Frame}

/-- An action that leaves the stack as it is may come in front. -/
theorem above_keeps {action : Arrange α} {next : α → Arrange Event}
    (hkeeps : KeepsProductions action) (hnext : ∀ result, EmitsAbove (next result) above) :
    EmitsAbove (action >>= next) above := by
  intro grammar
  refine emits_keeps hkeeps fun result after houter => ?_
  rw [← houter]
  exact hnext result after

/-- An action that leaves the stack as it is may come in front under a condition. -/
theorem above_when {holds : Prop} [Decidable holds] {action : Arrange PUnit}
    {next : PUnit → Arrange Event} (hkeeps : KeepsProductions action)
    (hnext : EmitsAbove (next PUnit.unit) above) :
    EmitsAbove (if holds then action >>= next else next PUnit.unit) above := by
  split
  · exact above_keeps hkeeps fun _ => hnext
  · exact hnext

/-- What begins with the opening token of a collection goes on behind it. -/
theorem above_first {first : Bool} {next : PUnit → Arrange Event}
    (hnext : EmitsAbove (next PUnit.unit) above) :
    EmitsAbove (if first = true then
        peek >>= fun token => enter token.start >>= fun _ => pass >>= next
      else next PUnit.unit) above := by
  split
  · refine above_keeps keeps_peek fun token => ?_
    refine above_keeps (keeps_modify fun _ => ⟨rfl, rfl⟩) fun _ => ?_
    exact above_keeps keeps_pass fun _ => hnext
  · exact hnext

/-- Markers of documents that have ended may come in front of all that is to be said. -/
theorem above_documentEnds {implicit : Bool} {next : PUnit → Arrange Event}
    (hnext : EmitsAbove (next PUnit.unit) above) :
    EmitsAbove (if implicit = true then next PUnit.unit else get >>= fun grammar =>
      passDocumentEnds grammar.tokens.length >>= next) above := by
  split
  · exact hnext
  · refine above_keeps keeps_get fun grammar => ?_
    exact above_keeps (keeps_passDocumentEnds _) fun _ => hnext

theorem above_failInside {activity : Activity} {problem : GrammarProblem} {mark : Mark} :
    EmitsAbove (failInside activity problem mark) above :=
  above_keeps keeps_get fun _ _ => emits_throw

/-- The end of a collection is what comes next, and then what is around the collection. -/
theorem above_closeWith {kind : EventKind}
    (hadvance : ∀ outer, kind.advance (above ++ outer) = some outer) :
    EmitsAbove (closeWith kind) above := by
  refine above_keeps keeps_peek fun token grammar => ?_
  refine emits_modify (emits_modify (emits_modify (emits_pure ?_)))
  rw [hadvance]
  exact some_frames_resume

theorem above_document (implicit : Bool) : EmitsAbove (document implicit) [.start] := by
  unfold document
  refine above_documentEnds ?_
  refine above_keeps keeps_peek fun token => ?_
  split
  · intro grammar
    exact emits_modify (emits_modify (emits_pure rfl))
  · split
    · refine above_keeps keeps_addStandardHandles fun _ grammar => ?_
      exact emits_modify (emits_modify (emits_pure rfl))
    · refine above_keeps keeps_get fun _ => ?_
      refine above_keeps (keeps_directives _ _) fun _ => ?_
      refine above_keeps keeps_addStandardHandles fun _ => ?_
      refine above_keeps keeps_peek fun opening => ?_
      refine above_when (keeps_throw _) fun grammar => ?_
      exact emits_modify (emits_modify (emits_modify (emits_pure rfl)))

theorem above_documentContent : EmitsAbove documentContent [.root] := by
  refine above_keeps keeps_peek fun token => ?_
  split
  · intro grammar
    exact emits_modify (emits_missingValue some_frames_resume)
  · intro grammar
    exact emits_node rfl

theorem above_documentEnd : EmitsAbove documentEnd [.finish] := by
  refine above_keeps keeps_peek fun token => ?_
  refine above_when keeps_pass fun grammar => ?_
  exact emits_modify (emits_modify (emits_pure rfl))

theorem above_blockSequenceEntry (first : Bool) :
    EmitsAbove (blockSequenceEntry first) [.element] := by
  unfold blockSequenceEntry
  refine above_first (above_keeps keeps_peek fun token => ?_)
  split
  · intro grammar
    exact emits_modify (emits_valueOrMissing rfl)
  · exact above_closeWith fun _ => rfl
  · exact above_failInside

theorem above_indentlessSequenceEntry : EmitsAbove indentlessSequenceEntry [.element] := by
  refine above_keeps keeps_peek fun token => ?_
  split
  · intro grammar
    exact emits_modify (emits_valueOrMissing rfl)
  · intro grammar
    exact emits_modify (emits_pure some_frames_resume)

theorem above_blockMappingKey (first : Bool) : EmitsAbove (blockMappingKey first) [.key] := by
  unfold blockMappingKey
  refine above_first (above_keeps keeps_peek fun token => ?_)
  split
  · intro grammar
    exact emits_modify (emits_valueOrMissing rfl)
  · exact above_closeWith fun _ => rfl
  · exact above_failInside

theorem above_blockMappingValue : EmitsAbove blockMappingValue [.value] := by
  refine above_keeps keeps_peek fun token => ?_
  split
  · intro grammar
    exact emits_modify (emits_valueOrMissing rfl)
  · intro grammar
    exact emits_modify (emits_missingValue rfl)

theorem keeps_separator (first : Bool) (close : TokenKind) (activity : Activity)
    (problem : GrammarProblem) : KeepsProductions (separator first close activity problem) := by
  refine keeps_bind keeps_peek fun token => ?_
  split
  · exact keeps_pure _
  · split
    · exact keeps_pass
    · exact keeps_bind (keeps_bind keeps_get fun _ => keeps_throw _) fun _ => keeps_pure _

/-- Behind an indicator of a flow collection there is a value or nothing. -/
theorem above_passValue {ends : List TokenKind} {next : Production}
    (hbegin : ∀ outer, Frame.begin (above ++ outer) = some (next.frames ++ outer)) :
    EmitsAbove (pass >>= fun _ => peek >>= fun token =>
      valueOrMissing ends token.start next (node false false)) above := by
  refine above_keeps keeps_pass fun _ => ?_
  refine above_keeps keeps_peek fun token grammar => ?_
  exact emits_valueOrMissing (hbegin _)

theorem above_flowSequenceEntry (first : Bool) :
    EmitsAbove (flowSequenceEntry first) [.element] := by
  unfold flowSequenceEntry
  refine above_first ?_
  refine above_keeps (keeps_separator _ _ _ _) fun _ => ?_
  refine above_keeps keeps_peek fun token => ?_
  split
  · exact above_closeWith fun _ => rfl
  · intro grammar
    exact emits_modify (emits_modify (emits_pure rfl))
  · intro grammar
    exact emits_modify (emits_node rfl)

theorem above_flowPairKey : EmitsAbove flowPairKey [.key, .element] := by
  refine above_keeps keeps_peek fun token => ?_
  split
  · intro grammar
    exact emits_modify (emits_modify (emits_missingValue rfl))
  · intro grammar
    exact emits_modify (emits_node rfl)

theorem above_flowPairValue : EmitsAbove flowPairValue [.value, .element] := by
  refine above_keeps keeps_peek fun token => ?_
  split
  · exact above_passValue fun _ => rfl
  · intro grammar
    exact emits_modify (emits_missingValue rfl)

theorem above_flowPairEnd : EmitsAbove flowPairEnd [.key, .element] := by
  refine above_keeps keeps_peek fun token grammar => ?_
  exact emits_modify (emits_pure rfl)

theorem above_flowMappingKey (first : Bool) : EmitsAbove (flowMappingKey first) [.key] := by
  unfold flowMappingKey
  refine above_first ?_
  refine above_keeps (keeps_separator _ _ _ _) fun _ => ?_
  refine above_keeps keeps_peek fun token => ?_
  split
  · exact above_closeWith fun _ => rfl
  · exact above_passValue fun _ => rfl
  · intro grammar
    exact emits_modify (emits_node rfl)

theorem above_flowMappingValue (empty : Bool) : EmitsAbove (flowMappingValue empty) [.value] := by
  refine above_keeps keeps_peek fun token => ?_
  split
  · exact above_passValue fun _ => rfl
  · intro grammar
    exact emits_modify (emits_missingValue rfl)

end Arrange

/-! ## Runs of the grammar -/

namespace Grammar

/-- Each production emits what its own part of the stack admits. -/
theorem above_step (production : Production) :
    Arrange.EmitsAbove (step production) production.frames := by
  cases production with
  | stream =>
      refine Arrange.above_keeps Arrange.keeps_peek fun token grammar => ?_
      exact Arrange.emits_modify (Arrange.emits_modify (Arrange.emits_pure rfl))
  | document implicit => exact Arrange.above_document implicit
  | documentContent => exact Arrange.above_documentContent
  | documentEnd => exact Arrange.above_documentEnd
  | blockNode => exact fun grammar => Arrange.emits_node rfl
  | blockSequenceEntry first => exact Arrange.above_blockSequenceEntry first
  | indentlessSequenceEntry => exact Arrange.above_indentlessSequenceEntry
  | blockMappingKey first => exact Arrange.above_blockMappingKey first
  | blockMappingValue => exact Arrange.above_blockMappingValue
  | flowSequenceEntry first => exact Arrange.above_flowSequenceEntry first
  | flowPairKey => exact Arrange.above_flowPairKey
  | flowPairValue => exact Arrange.above_flowPairValue
  | flowPairEnd => exact Arrange.above_flowPairEnd
  | flowMappingKey first => exact Arrange.above_flowMappingKey first
  | flowMappingValue empty => exact Arrange.above_flowMappingValue empty
  | done => exact fun grammar => Arrange.emits_throw

/-- An event of the grammar is one that its stack admits, and the stack goes along. -/
theorem advance_step {grammar after : Grammar} {event : Event}
    (hstep : (step grammar.production).run grammar = .ok (event, after)) :
    event.kind.advance grammar.frames = some after.frames :=
  above_step grammar.production grammar event after hstep

theorem nested_run (steps : Nat) (grammar : Grammar) :
    Nested grammar.frames (run steps grammar).events := by
  induction steps generalizing grammar with
  | zero => trivial
  | succ steps ih =>
      unfold run
      split
      · trivial
      · split
        · trivial
        · rename_i event after hstep
          exact ⟨after.frames, advance_step hstep, ih after⟩

end Grammar

/-- **The events of a text are nested.** -/
theorem nested_ofTokens (stream : TokenStream) :
    Nested [.start] (EventStream.ofTokens stream).events := by
  have hnested := Grammar.nested_run (4 * stream.tokens.length + 4)
    ⟨stream.tokens, stream.failure, .stream, [], [], []⟩
  exact hnested

end MtaCheck.Yaml
