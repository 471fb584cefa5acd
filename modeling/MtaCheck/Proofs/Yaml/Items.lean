import MtaCheck.Proofs.Yaml.Nesting
import MtaCheck.Yaml.Reading

/-!
# The items of a document

A `Nesting` of a document says for each place what is still to come there, so that each
item is one that may come at its place, and that every reference leads to a value.

* Along the events of a document `collect` adds items that may come where they are added.
* An anchor is never anything but the place of a value, and references are made only to
  names that have been anchored.

`nesting_ofOctets` puts the two together: the first document of a text has a nesting.
-/

namespace MtaCheck.Yaml

/-! ## Items that are nested -/

namespace Item

/-- Whether a value begins with this item, which is not only referred to. -/
def isValue : Item → Bool
  | .scalar _ | .sequenceStart _ | .mappingStart _ => true
  | _ => false

/-- Whether a value begins with this item, or is referred to by it. -/
def starts : Item → Bool
  | .reference _ => true
  | item => item.isValue

/-- What is still to come behind an item, if the item may come at all. -/
def advance : Item → List Frame → Option (List Frame)
  | .reference _, frames | .scalar _, frames => Frame.begin frames
  | .sequenceStart _, frames => (Frame.begin frames).map (.element :: ·)
  | .mappingStart _, frames => (Frame.begin frames).map (.key :: ·)
  | .sequenceEnd, .element :: outer => some outer
  | .mappingEnd, .key :: outer => some outer
  | .nothing, .start :: outer => some outer
  | _, _ => none

theorem advance_resolve (anchors : Document.Anchors) (item : Item) :
    (Document.resolve anchors item).advance = item.advance := by
  cases item <;> rfl

/-! What may come where it is known what is still to come. -/

variable {item : Item} {outer following : List Frame}

/-- Where a value has to come, an item begins one. -/
theorem starts_of_advance {frame : Frame} (hframe : frame = .root ∨ frame = .value)
    (hadvance : item.advance (frame :: outer) = some following) : item.starts = true := by
  cases item with
  | sequenceEnd | mappingEnd | nothing => rcases hframe with rfl | rfl <;> cases hadvance
  | _ => rfl

theorem eq_nothing_of_advance_start (hadvance : item.advance (.start :: outer) = some following) :
    item = .nothing := by
  cases item with
  | nothing => rfl
  | _ => cases hadvance

/-- Among the elements of a sequence an item ends the sequence or begins an element. -/
theorem ends_or_starts_of_advance_element
    (hadvance : item.advance (.element :: outer) = some following) :
    item = .sequenceEnd ∧ following = outer ∨
      item.starts = true ∧ Read.endsSequence item = false := by
  cases item with
  | sequenceEnd => exact .inl ⟨rfl, (Option.some.inj hadvance).symm⟩
  | mappingEnd => cases hadvance
  | nothing => cases hadvance
  | _ => exact .inr ⟨rfl, rfl⟩

/-- Among the entries of a mapping an item ends the mapping or begins a key. -/
theorem ends_or_starts_of_advance_key (hadvance : item.advance (.key :: outer) = some following) :
    item = .mappingEnd ∧ following = outer ∨
      item.starts = true ∧ Read.endsMapping item = false := by
  cases item with
  | mappingEnd => exact .inl ⟨rfl, (Option.some.inj hadvance).symm⟩
  | sequenceEnd => cases hadvance
  | nothing => cases hadvance
  | _ => exact .inr ⟨rfl, rfl⟩

end Item

/-! The ends of collections and of the text are admitted as items where they are admitted as
events. -/

theorem EventKind.advance_sequenceEnd :
    EventKind.sequenceEnd.advance = Item.sequenceEnd.advance := by
  funext frames
  rcases frames with _ | ⟨frame, outer⟩
  · rfl
  · cases frame <;> rfl

theorem EventKind.advance_mappingEnd :
    EventKind.mappingEnd.advance = Item.mappingEnd.advance := by
  funext frames
  rcases frames with _ | ⟨frame, outer⟩
  · rfl
  · cases frame <;> rfl

theorem EventKind.advance_streamEnd : EventKind.streamEnd.advance = Item.nothing.advance := by
  funext frames
  rcases frames with _ | ⟨frame, outer⟩
  · rfl
  · cases frame <;> rfl

/-- How a document is nested. -/
structure Nesting (document : Document) where
  /-- What is still to come at a place. -/
  frames : Nat → List Frame
  advance : ∀ {place : Nat} {item : Item} {mark : Mark},
    document.items[place]? = some (item, mark) →
      item.advance (frames place) = some (frames (place + 1))
  target : ∀ {place target : Nat} {mark : Mark},
    document.items[place]? = some (.reference target, mark) →
      ∃ item mark, document.items[target]? = some (item, mark) ∧ item.isValue = true

/-- Whether each of the items may come where it comes. -/
def Admitted : List Frame → List (Item × Mark) → Prop
  | _, [] => True
  | frames, (item, _) :: items =>
      ∃ following, item.advance frames = some following ∧ Admitted following items

/-- What is still to come at a place among items. -/
def framesAt : List Frame → List (Item × Mark) → Nat → List Frame
  | frames, _, 0 => frames
  | frames, [], _ + 1 => frames
  | frames, (item, _) :: items, place + 1 =>
      framesAt ((item.advance frames).getD []) items place

theorem framesAt_zero (frames : List Frame) (items : List (Item × Mark)) :
    framesAt frames items 0 = frames := by
  cases items <;> rfl

theorem advance_framesAt {frames : List Frame} {items : List (Item × Mark)}
    (hadmitted : Admitted frames items) {place : Nat} {item : Item} {mark : Mark}
    (hitem : items[place]? = some (item, mark)) :
    item.advance (framesAt frames items place) = some (framesAt frames items (place + 1)) := by
  induction items generalizing frames place with
  | nil => simp at hitem
  | cons first items ih =>
      obtain ⟨following, hfollowing, hrest⟩ := hadmitted
      cases place with
      | zero =>
          rw [List.getElem?_cons_zero] at hitem
          cases hitem
          rw [framesAt, framesAt, hfollowing]
          cases items <;> rfl
      | succ place =>
          rw [List.getElem?_cons_succ] at hitem
          have hplace := ih hrest hitem
          rw [framesAt, framesAt, hfollowing]
          exact hplace

namespace Document

/-! ## Collecting items that are nested -/

/-- Collecting only adds items, and those may come where they are added. -/
def Extends (draft last : Draft) (frames : List Frame) : Prop :=
  ∃ items, last.items.reverse = draft.items.reverse ++ items ∧ Admitted frames items

theorem extends_refl (draft : Draft) (frames : List Frame) : Extends draft draft frames :=
  ⟨[], by simp, trivial⟩

theorem extends_push {draft last : Draft} {item : Item} {mark : Mark} {anchor : Option String}
    {frames following : List Frame} (hadvance : item.advance frames = some following)
    (hlast : Extends (draft.push item mark anchor) last following) : Extends draft last frames := by
  obtain ⟨items, hitems, hadmitted⟩ := hlast
  refine ⟨(item, mark) :: items, ?_, following, hadvance, hadmitted⟩
  rw [hitems, Draft.push]
  simp

theorem start_not_mem_begin {frames following : List Frame} (hstart : .start ∉ frames)
    (hbegin : Frame.begin frames = some following) : .start ∉ following := by
  unfold Frame.begin at hbegin
  split at hbegin <;> cases hbegin <;> simp_all

theorem start_not_mem_advance {item : Item} {frames following : List Frame}
    (hstart : .start ∉ frames) (hadvance : item.advance frames = some following) :
    .start ∉ following := by
  unfold Item.advance at hadvance
  split at hadvance
  · exact start_not_mem_begin hstart hadvance
  · exact start_not_mem_begin hstart hadvance
  · obtain ⟨outer, hbegin, rfl⟩ := Option.map_eq_some_iff.mp hadvance
    simpa using start_not_mem_begin hstart hbegin
  · obtain ⟨outer, hbegin, rfl⟩ := Option.map_eq_some_iff.mp hadvance
    simpa using start_not_mem_begin hstart hbegin
  · cases hadvance
    exact fun hmem => hstart (List.mem_cons_of_mem _ hmem)
  · cases hadvance
    exact fun hmem => hstart (List.mem_cons_of_mem _ hmem)
  · simp at hstart
  · cases hadvance

/-- Inside a document the items are those that the events announce. -/
theorem extends_collect (failure : Option SyntaxError) (events : List Event) (draft : Draft)
    {frames : List Frame} (hstart : .start ∉ frames) (hnested : Nested frames events) :
    Extends draft (collect failure events draft).1 frames := by
  -- whatever is pushed for an event advances what is still to come just as the event does
  induction events generalizing draft frames with
  | nil => exact extends_refl { draft with failure := failure.map .malformed } frames
  | cons event events ih =>
      obtain ⟨following, hadvance, hrest⟩ := hnested
      have hpush : ∀ (item : Item) (anchor : Option String),
          item.advance frames = some following →
          Extends draft (collect failure events (draft.push item event.mark anchor)).1 frames := by
        intro item anchor hitem
        have hfollowing : .start ∉ following := start_not_mem_advance hstart hitem
        exact extends_push hitem (ih _ hfollowing hrest)
      rw [collect]
      cases hkind : event.kind with
      | streamStart =>
          rw [hkind, EventKind.advance] at hadvance
          cases hadvance
          exact ih draft hstart hrest
      | streamEnd =>
          rw [hkind, EventKind.advance_streamEnd] at hadvance
          exact extends_push hadvance (extends_refl _ _)
      | documentStart =>
          rw [hkind] at hadvance
          unfold EventKind.advance at hadvance
          split at hadvance <;> simp_all
      | documentEnd => exact extends_refl draft frames
      | reference name =>
          rw [hkind] at hadvance
          simp only
          split
          · exact hpush (.reference _) none hadvance
          · exact extends_refl { draft with failure := some (.unknownAnchor event.mark) } frames
      | scalar anchor scalar =>
          rw [hkind] at hadvance
          exact hpush (.scalar scalar) anchor hadvance
      | sequenceStart anchor tag =>
          rw [hkind] at hadvance
          exact hpush (.sequenceStart tag) anchor hadvance
      | sequenceEnd =>
          rw [hkind, EventKind.advance_sequenceEnd] at hadvance
          exact hpush .sequenceEnd none hadvance
      | mappingStart anchor tag =>
          rw [hkind] at hadvance
          exact hpush (.mappingStart tag) anchor hadvance
      | mappingEnd =>
          rw [hkind, EventKind.advance_mappingEnd] at hadvance
          exact hpush .mappingEnd none hadvance

/-- What is still to come at the beginning of a document: its value, or nothing if the text
is empty. -/
def Begins (frames : List Frame) : Prop := frames = [.root, .finish] ∨ frames = [.start]

/-- In front of a document nothing is collected: either one begins, or the text ends. -/
theorem extends_collect_start (failure : Option SyntaxError) (events : List Event) (draft : Draft)
    (hnested : Nested [.start] events) :
    ∃ frames, Begins frames ∧ Extends draft (collect failure events draft).1 frames := by
  induction events with
  | nil =>
      have hrefl := extends_refl { draft with failure := failure.map .malformed } [.start]
      exact ⟨[.start], .inr rfl, hrefl⟩
  | cons event events ih =>
      obtain ⟨following, hadvance, hrest⟩ := hnested
      rw [collect]
      cases hkind : event.kind with
      | streamStart =>
          rw [hkind, EventKind.advance] at hadvance
          cases hadvance
          exact ih hrest
      | streamEnd =>
          rw [hkind, EventKind.advance_streamEnd] at hadvance
          exact ⟨[.start], .inr rfl, extends_push hadvance (extends_refl _ _)⟩
      | documentStart =>
          rw [hkind] at hadvance
          cases hadvance
          have hextends := extends_collect failure events draft (by simp) hrest
          exact ⟨[.root, .finish], .inl rfl, hextends⟩
      | _ =>
          rw [hkind] at hadvance
          cases hadvance

/-! ## Anchors -/

/-- The anchors of a draft are places of values, and there are such places for all names that
have been anchored and for all references. -/
structure Anchored (draft : Draft) : Prop where
  count : draft.count = draft.items.length
  name : ∀ entry ∈ draft.anchors.numbers, (draft.anchors.places.lookup entry.2).isSome = true
  value : ∀ {number place : Nat}, draft.anchors.places.lookup number = some place →
    ∃ item mark, draft.items.reverse[place]? = some (item, mark) ∧ item.isValue = true
  reference : ∀ {number : Nat} {mark : Mark}, (.reference number, mark) ∈ draft.items →
    (draft.anchors.places.lookup number).isSome = true

theorem lookup_add (anchors : Anchors) (name : String) (place number : Nat) :
    (anchors.add name place).places.lookup number =
      if number = anchors.numbers.length then some place
      else anchors.places.lookup number := by
  rw [Anchors.add, List.lookup_cons]
  split <;> simp_all

theorem isSome_lookup_add? (anchors : Anchors) (anchor : Option String) (place : Nat) {number : Nat}
    (hnumber : (anchors.places.lookup number).isSome = true) :
    ((anchors.add? anchor place).places.lookup number).isSome = true := by
  cases anchor with
  | none => exact hnumber
  | some name =>
      rw [Anchors.add?, Option.elim_some, lookup_add]
      split
      · rfl
      · exact hnumber

/-- Where a number leads to is the place that has been anchored last, or has not changed. -/
theorem eq_or_lookup_of_add? {anchors : Anchors} {anchor : Option String}
    {place number found : Nat}
    (hfound : (anchors.add? anchor place).places.lookup number = some found) :
    anchor.isSome = true ∧ found = place ∨ anchors.places.lookup number = some found := by
  cases anchor with
  | none => exact .inr hfound
  | some name =>
      rw [Anchors.add?, Option.elim_some, lookup_add] at hfound
      split at hfound
      · exact .inl ⟨rfl, (Option.some_inj.mp hfound).symm⟩
      · exact .inr hfound

theorem isSome_lookup_of_mem_add? {anchors : Anchors} (anchor : Option String) (place : Nat)
    (hnames : ∀ entry ∈ anchors.numbers, (anchors.places.lookup entry.2).isSome = true) :
    ∀ entry ∈ (anchors.add? anchor place).numbers,
      ((anchors.add? anchor place).places.lookup entry.2).isSome = true := by
  intro entry hentry
  cases anchor with
  | none => exact hnames entry hentry
  | some name =>
      rw [Anchors.add?, Option.elim_some, Anchors.add, List.mem_cons] at hentry
      rcases hentry with rfl | hentry
      · rw [Anchors.add?, Option.elim_some, lookup_add, if_pos rfl]
        rfl
      · exact isSome_lookup_add? anchors _ place (hnames entry (List.mem_filter.mp hentry).1)

/-- What has been collected stays where it is. -/
theorem Draft.getElem?_push_of_eq_some {draft : Draft} {item : Item} {mark : Mark}
    {anchor : Option String} {place : Nat} {found : Item × Mark}
    (hfound : draft.items.reverse[place]? = some found) :
    (draft.push item mark anchor).items.reverse[place]? = some found := by
  rw [push, List.reverse_cons, List.getElem?_append_left]
  · exact hfound
  · exact (List.getElem?_eq_some_iff.mp hfound).1

theorem Draft.getElem?_push_count {draft : Draft} (hcount : draft.count = draft.items.length)
    (item : Item) (mark : Mark) (anchor : Option String) :
    (draft.push item mark anchor).items.reverse[draft.count]? = some (item, mark) := by
  rw [push, List.reverse_cons, hcount]
  simp

/-- A draft stays anchored if what is added under a name is a value, and what is added as a
reference has an anchor. -/
theorem Anchored.push {draft : Draft} {item : Item} {mark : Mark} {anchor : Option String}
    (hdraft : Anchored draft) (hvalue : anchor.isSome = true → item.isValue = true)
    (hreference : ∀ number, item = .reference number →
      (draft.anchors.places.lookup number).isSome = true) :
    Anchored (draft.push item mark anchor) := by
  refine ⟨congrArg (· + 1) hdraft.count, ?_, ?_, ?_⟩
  · exact isSome_lookup_of_mem_add? anchor draft.count hdraft.name
  · intro number place hplace
    rcases eq_or_lookup_of_add? hplace with ⟨hanchor, rfl⟩ | hplace
    · exact ⟨item, mark, Draft.getElem?_push_count hdraft.count item mark anchor, hvalue hanchor⟩
    · obtain ⟨found, foundMark, hfound, hisValue⟩ := hdraft.value hplace
      exact ⟨found, foundMark, Draft.getElem?_push_of_eq_some hfound, hisValue⟩
  · intro number referenceMark hmem
    rw [Draft.push, List.mem_cons] at hmem
    apply isSome_lookup_add?
    rcases hmem with heq | hmem
    · exact hreference number (congrArg Prod.fst heq).symm
    · exact hdraft.reference hmem

theorem anchored_collect (failure : Option SyntaxError) (events : List Event) {draft : Draft}
    (hdraft : Anchored draft) : Anchored (collect failure events draft).1 := by
  -- only values get anchors, and a reference is collected only for a name that has one
  induction events generalizing draft with
  | nil => exact ⟨hdraft.count, hdraft.name, hdraft.value, hdraft.reference⟩
  | cons event events ih =>
      rw [collect]
      cases event.kind with
      | streamStart => exact ih hdraft
      | documentStart => exact ih hdraft
      | streamEnd => exact hdraft.push (by simp) (by simp)
      | documentEnd => exact hdraft
      | reference name =>
          simp only
          split
          · rename_i number hnumber
            refine ih (hdraft.push (by simp) fun other hother => ?_)
            cases hother
            obtain ⟨before, after, hnumbers, -⟩ := List.lookup_eq_some_iff.mp hnumber
            exact hdraft.name (name, number) (by simp [hnumbers])
          · exact ⟨hdraft.count, hdraft.name, hdraft.value, hdraft.reference⟩
      | scalar anchor scalar => exact ih (hdraft.push (fun _ => rfl) (by simp))
      | sequenceStart anchor tag => exact ih (hdraft.push (fun _ => rfl) (by simp))
      | sequenceEnd => exact ih (hdraft.push (by simp) (by simp))
      | mappingStart anchor tag => exact ih (hdraft.push (fun _ => rfl) (by simp))
      | mappingEnd => exact ih (hdraft.push (by simp) (by simp))

/-! ## The nesting of a text -/

/-- Once all places are known, references lead to them, and the rest stays as it is. -/
theorem exists_nesting (document : Document) {draft : Draft} {frames : List Frame}
    (hitems : document.items =
      (draft.items.reverse.map fun (item, mark) => (resolve draft.anchors item, mark)).toArray)
    (hanchored : Anchored draft) (hadmitted : Admitted frames draft.items.reverse) :
    ∃ nesting : Nesting document, nesting.frames 0 = frames := by
  -- putting places for numbers changes the references only, and they stay at their places
  have hplace : ∀ {place : Nat} {item : Item} {mark : Mark},
      document.items[place]? = some (item, mark) →
        ∃ source, draft.items.reverse[place]? = some (source, mark) ∧
          item = resolve draft.anchors source := by
    intro place item mark hitem
    rw [hitems, List.getElem?_toArray, List.getElem?_map, Option.map_eq_some_iff] at hitem
    obtain ⟨⟨source, sourceMark⟩, hsource, heq⟩ := hitem
    cases heq
    exact ⟨source, hsource, rfl⟩
  refine ⟨⟨framesAt frames draft.items.reverse, ?_, ?_⟩, ?_⟩
  · intro place item mark hitem
    obtain ⟨source, hsource, rfl⟩ := hplace hitem
    rw [Item.advance_resolve]
    exact advance_framesAt hadmitted hsource
  · intro place target mark hitem
    obtain ⟨source, hsource, hresolve⟩ := hplace hitem
    cases source with
    | reference number =>
        have hmem : (Item.reference number, mark) ∈ draft.items :=
          List.mem_reverse.mp (List.mem_of_getElem? hsource)
        obtain ⟨found, hfound⟩ := Option.isSome_iff_exists.mp (hanchored.reference hmem)
        rw [resolve, hfound, Option.getD_some] at hresolve
        cases hresolve
        obtain ⟨item, itemMark, hitem, hvalue⟩ := hanchored.value hfound
        refine ⟨item, itemMark, ?_, hvalue⟩
        rw [hitems, List.getElem?_toArray, List.getElem?_map, hitem]
        cases item <;> first | rfl | cases hvalue
    | _ => cases hresolve
  · exact framesAt_zero frames draft.items.reverse

theorem nesting_ofEvents (stream : EventStream) (hnested : Nested [.start] stream.events) :
    ∃ nesting : Nesting (ofEvents stream), Begins (nesting.frames 0) := by
  have hanchored : Anchored (collect stream.failure stream.events ⟨[], 0, ⟨[], []⟩, none⟩).1 :=
    anchored_collect _ _ ⟨rfl, by simp, by simp, by simp⟩
  obtain ⟨frames, hbegins, items, hitems, hadmitted⟩ :=
    extends_collect_start stream.failure stream.events ⟨[], 0, ⟨[], []⟩, none⟩ hnested
  rw [List.reverse_nil, List.nil_append] at hitems
  rw [← hitems] at hadmitted
  obtain ⟨nesting, hfirst⟩ := exists_nesting (ofEvents stream) rfl hanchored hadmitted
  rw [← hfirst] at hbegins
  exact ⟨nesting, hbegins⟩

/-- **The first document of a text has a nesting.** -/
theorem nesting_ofOctets (octets : List UInt8) :
    ∃ nesting : Nesting (ofOctets octets), Begins (nesting.frames 0) :=
  nesting_ofEvents _ (nested_ofTokens _)

end Document

end MtaCheck.Yaml
