import MtaCheck.Proofs.Yaml.Items
import MtaCheck.Proofs.Yaml.Reading
import MtaCheck.Yaml.Parse

/-!
# What a document spells

The items of a document spell a `Tree`: its scalars as they are written, its collections
with their tags, and at the place of a reference what it stands for.  `Spells` says which
tree stands between two places and how many references there are in it.

Several readers go over one document, each for its own purpose.  The tree is what they
have in common.  `exists_tree_of_parse` shows that there is one whenever the document can
be read as a value, and that the value is that of the tree.
-/

namespace MtaCheck.Yaml

/-! ## Trees -/

/-- What a document holds, as it is written. -/
inductive Tree
  | scalar (written : Scalar)
  | sequence (tag : Option TagOctets) (items : List Tree)
  | mapping (tag : Option TagOctets) (entries : List (Tree × Tree))

/-- Puts a value under its tag, unless that has been done already. -/
def Tree.withTag (tagged : Bool) (tag : Option TagOctets) (value : Bool → Option Value) :
    Option Value :=
  match if tagged then none else localTag? tag with
  | some name => (value true).map (.tagged name)
  | none => value tagged

mutual

/-- The value of a tree, whatever its keys.  With `tagged` its own tag is left aside. -/
def Tree.value? : Tree → Bool → Option Value
  | .scalar written, tagged =>
      Tree.withTag tagged written.tag fun tagged => (Value.ofScalar written tagged).toOption
  | .sequence tag items, tagged =>
      Tree.withTag tagged tag fun _ => (Tree.itemValues? items).map .sequence
  | .mapping tag entries, tagged =>
      Tree.withTag tagged tag fun tagged => (Tree.entryValues? entries tagged).map .mapping

/-- The values of the items of a sequence. -/
def Tree.itemValues? : List Tree → Option (List Value)
  | [] => some []
  | item :: items => do return (← item.value? false) :: (← Tree.itemValues? items)

/-- The values of the entries of a mapping. -/
def Tree.entryValues? : List (Tree × Tree) → Bool → Option (List (Value × Value))
  | [], _ => some []
  | (key, value) :: entries, tagged => do
      return (← key.value? tagged, ← value.value? false) :: (← Tree.entryValues? entries tagged)

end

/-! ## Trees in a document -/

/-- What may stand between two places of a document. -/
inductive Part
  | value (tree : Tree)
  /-- Items of a sequence with its end. -/
  | items (rest : List Tree)
  /-- Entries of a mapping with its end. -/
  | entries (rest : List (Tree × Tree))

/-- The items of a document from one place to the next spell a part of a tree, in which so
many references are followed. -/
inductive Spells (document : Document) : Part → (place next jumps : Nat) → Prop
  | scalar {place : Nat} {written : Scalar} {mark : Mark}
      (hitem : document.items[place]? = some (.scalar written, mark)) :
      Spells document (.value (.scalar written)) place (place + 1) 0
  | sequence {place next jumps : Nat} {tag : Option TagOctets} {items : List Tree} {mark : Mark}
      (hitem : document.items[place]? = some (.sequenceStart tag, mark))
      (hitems : Spells document (.items items) (place + 1) next jumps) :
      Spells document (.value (.sequence tag items)) place next jumps
  | mapping {place next jumps : Nat} {tag : Option TagOctets} {entries : List (Tree × Tree)}
      {mark : Mark} (hitem : document.items[place]? = some (.mappingStart tag, mark))
      (hentries : Spells document (.entries entries) (place + 1) next jumps) :
      Spells document (.value (.mapping tag entries)) place next jumps
  | reference {place target next jumps : Nat} {tree : Tree} {item : Item} {mark itemMark : Mark}
      (hitem : document.items[place]? = some (.reference target, mark))
      (htarget : document.items[target]? = some (item, itemMark)) (hvalue : item.isValue = true)
      (htree : Spells document (.value tree) target next jumps) :
      Spells document (.value tree) place (place + 1) (jumps + 1)
  | noItems {place : Nat} {mark : Mark}
      (hitem : document.items[place]? = some (.sequenceEnd, mark)) :
      Spells document (.items []) place (place + 1) 0
  | item {place middle next jumps jumps' : Nat} {first : Tree} {rest : List Tree}
      (hfirst : Spells document (.value first) place middle jumps)
      (hrest : Spells document (.items rest) middle next jumps') :
      Spells document (.items (first :: rest)) place next (jumps + jumps')
  | noEntries {place : Nat} {mark : Mark}
      (hitem : document.items[place]? = some (.mappingEnd, mark)) :
      Spells document (.entries []) place (place + 1) 0
  | entry {place middle middle' next jumps jumps' jumps'' : Nat} {key value : Tree}
      {rest : List (Tree × Tree)}
      (hkey : Spells document (.value key) place middle jumps)
      (hvalue : Spells document (.value value) middle middle' jumps')
      (hrest : Spells document (.entries rest) middle' next jumps'') :
      Spells document (.entries ((key, value) :: rest)) place next (jumps + jumps' + jumps'')

/-- A document holds the tree that it spells.  An empty text counts as an empty scalar. -/
inductive Document.Holds (document : Document) : Tree → Prop
  | value {tree : Tree} {next jumps : Nat} (htree : Spells document (.value tree) 0 next jumps)
      (hlimit : jumps ≤ document.jumpLimit) : document.Holds tree
  | nothing {mark : Mark} (hitem : document.items[0]? = some (.nothing, mark)) :
      document.Holds (.scalar ⟨"", .plain, none⟩)

theorem lt_size_of_item {document : Document} {place : Nat} {found : Item × Mark}
    (hitem : document.items[place]? = some found) : place < document.items.size :=
  (Array.getElem?_eq_some_iff.mp hitem).1

/-- How many items a part takes at least, its end included. -/
def Part.least : Part → Nat
  | .value _ => 1
  | .items rest => rest.length + 1
  | .entries rest => rest.length + 1

namespace Spells

variable {document : Document} {part : Part} {place next jumps : Nat}

theorem le_size (hspells : Spells document part place next jumps) :
    next ≤ document.items.size := by
  induction hspells with
  | scalar hitem => exact lt_size_of_item hitem
  | sequence hitem hitems ih => exact ih
  | mapping hitem hentries ih => exact ih
  | reference hitem htarget hvalue htree ih => exact lt_size_of_item hitem
  | noItems hitem => exact lt_size_of_item hitem
  | item hfirst hrest ihFirst ihRest => exact ihRest
  | noEntries hitem => exact lt_size_of_item hitem
  | entry hkey hvalue hrest ihKey ihValue ihRest => exact ihRest

theorem add_least_le (hspells : Spells document part place next jumps) :
    place + part.least ≤ next := by
  induction hspells with
  | scalar hitem => exact Nat.le_refl _
  | sequence hitem hitems ih =>
      simp only [Part.least] at ih ⊢
      omega
  | mapping hitem hentries ih =>
      simp only [Part.least] at ih ⊢
      omega
  | reference hitem htarget hvalue htree ih => exact Nat.le_refl _
  | noItems hitem => exact Nat.le_refl _
  | item hfirst hrest ihFirst ihRest =>
      simp only [Part.least, List.length_cons] at ihFirst ihRest ⊢
      omega
  | noEntries hitem => exact Nat.le_refl _
  | entry hkey hvalue hrest ihKey ihValue ihRest =>
      simp only [Part.least, List.length_cons] at ihKey ihValue ihRest ⊢
      omega

end Spells

/-! ## Reading the value of a tree -/

section Value

variable {document : Document} (nesting : Nesting document) {state after : ReadState}

open Read

theorem exists_of_withTag {tagged : Bool} {tag : Option TagOctets} {value : Bool → Read Value}
    {result : Value} (hrun : Value.withTag tagged tag value state = .ok (result, after)) :
    ∃ below inner, value below state = .ok (inner, after) ∧
      ∀ means : Bool → Option Value, means below = some inner →
        Tree.withTag tagged tag means = some result := by
  unfold Value.withTag at hrun
  unfold Tree.withTag
  cases hname : (if tagged then none else localTag? tag) with
  | none =>
      rw [hname] at hrun
      exact ⟨tagged, result, hrun, fun means hmeans => hmeans⟩
  | some name =>
      rw [hname] at hrun
      simp only [bind_eq_ok_iff, pure_eq_ok_iff] at hrun
      obtain ⟨inner, last, hinner, rfl, rfl⟩ := hrun
      exact ⟨true, inner, hinner, fun means hmeans => by rw [hmeans]; rfl⟩

/-- Whenever a reader succeeds where a value starts, there is a tree with that value, and what
is still to come behind it is what is still to come once a value has begun. -/
def ReadsTrees (read : Bool → Trail → Read Value) : Prop :=
  ∀ ⦃tagged : Bool⦄ ⦃trail : Trail⦄ ⦃state after : ReadState⦄ ⦃value : Value⦄,
    (∀ item mark, document.items[state.place]? = some (item, mark) → item.starts = true) →
    state.jumps ≤ document.jumpLimit → read tagged trail state = .ok (value, after) →
      ∃ tree jumps, Spells document (.value tree) state.place after.place jumps ∧
        after.jumps = state.jumps + jumps ∧ after.jumps ≤ document.jumpLimit ∧
        tree.value? tagged = some value ∧
        Frame.begin (nesting.frames state.place) = some (nesting.frames after.place)

variable {nesting}

theorem starts_of_item {place : Nat} {item : Item} {mark : Mark}
    (hitem : document.items[place]? = some (item, mark)) (hstarts : item.starts = true)
    (other : Item) (otherMark : Mark)
    (hother : document.items[place]? = some (other, otherMark)) : other.starts = true := by
  rw [hitem] at hother
  cases hother
  exact hstarts

/-- Behind a key there is nothing but a value. -/
theorem starts_of_value {place : Nat} {outer : List Frame}
    (hframes : nesting.frames place = .value :: outer) (item : Item) (mark : Mark)
    (hitem : document.items[place]? = some (item, mark)) : item.starts = true := by
  have hadvance := nesting.advance hitem
  rw [hframes] at hadvance
  exact Item.starts_of_advance (.inr rfl) hadvance

/-- The items of a sequence are read up to the end that belongs to them. -/
theorem exists_items {read : Bool → Trail → Read Value} (hread : ReadsTrees nesting read)
    (trail : Trail) (bound index : Nat) (state : ReadState) {values : List Value}
    {outer : List Frame} (hframes : nesting.frames state.place = .element :: outer)
    (hplace : state.place ≤ document.items.size)
    (hbound : document.items.size < state.place + bound)
    (hjumps : state.jumps ≤ document.jumpLimit)
    (hrun : Read.items document (fun index => read false (.element trail index)) bound index state =
      .ok (values, after)) :
    ∃ items jumps, Spells document (.items items) state.place after.place jumps ∧
      after.jumps = state.jumps + jumps ∧ after.jumps ≤ document.jumpLimit ∧
      Tree.itemValues? items = some values ∧ nesting.frames after.place = outer := by
  -- by induction on the bound, which always reaches further than the items that are left
  induction bound generalizing index state values with
  | zero => omega
  | succ bound ih =>
      obtain ⟨item, mark, hitem⟩ :
          ∃ item mark, document.items[state.place]? = some (item, mark) := by
        rw [Read.items] at hrun
        exact exists_item_of_peek hrun
      have hadvance := nesting.advance hitem
      rw [hframes] at hadvance
      rcases Item.ends_or_starts_of_advance_element hadvance with
        ⟨rfl, houter⟩ | ⟨hstarts, hmore⟩
      · rw [items_end hitem rfl] at hrun
        cases hrun
        exact ⟨[], 0, .noItems hitem, rfl, hjumps, rfl, houter⟩
      · rw [items_more hitem hmore] at hrun
        simp only [bind_eq_ok_iff, pure_eq_ok_iff] at hrun
        obtain ⟨first, middle, hfirst, rest, last, hrest, rfl, rfl⟩ := hrun
        obtain ⟨tree, jumps, htree, hmiddle, hlimit, hvalue, hbegin⟩ :=
          hread (starts_of_item hitem hstarts) hjumps hfirst
        rw [hframes] at hbegin
        -- the element leaves the sequence as the next thing that is still to come
        have hmiddleFrames : nesting.frames middle.place = .element :: outer :=
          (Option.some.inj hbegin).symm
        have hleast : state.place + 1 ≤ middle.place := htree.add_least_le
        obtain ⟨items, jumps', hitems, hafter, hlimit', hvalues, houter⟩ :=
          ih (index + 1) middle hmiddleFrames htree.le_size (by omega) hlimit hrest
        refine ⟨tree :: items, jumps + jumps', .item htree hitems, by omega, hlimit', ?_, houter⟩
        rw [Tree.itemValues?, hvalue, hvalues]
        rfl

theorem readEntry_eq_ok {read : Bool → Trail → Read Value} {tagged : Bool} {mark : Mark}
    {trail : Trail} {key : Option String} {found result : List (Value × Value)}
    (hrun : Value.readEntry read tagged mark trail key found state = .ok (result, after)) :
    ∃ keyValue middle value, read tagged trail state = .ok (keyValue, middle) ∧
      read false (valueTrail trail key) middle = .ok (value, after) ∧
      result = (keyValue, value) :: found := by
  unfold Value.readEntry at hrun
  rw [bind_eq_ok_iff] at hrun
  obtain ⟨keyValue, middle, hkey, hrun⟩ := hrun
  cases hequal : Value.equalKey? keyValue found with
  | some equal =>
      simp only [hequal] at hrun
      rw [bind_eq_ok_iff] at hrun
      obtain ⟨_, _, hrefuse, -⟩ := hrun
      exact absurd hrefuse refuse_ne_ok
  | none =>
      simp only [hequal, bind_eq_ok_iff, pure_eq_ok_iff] at hrun
      obtain ⟨value, last, hvalue, rfl, rfl⟩ := hrun
      exact ⟨keyValue, middle, value, hkey, hvalue, rfl⟩

/-- The entries of a mapping are read up to the end that belongs to them. -/
theorem exists_entries {read : Bool → Trail → Read Value} (hread : ReadsTrees nesting read)
    {tagged : Bool} {mark : Mark} {trail : Trail} (bound : Nat) (state : ReadState)
    {found result : List (Value × Value)} {outer : List Frame}
    (hframes : nesting.frames state.place = .key :: outer)
    (hplace : state.place ≤ document.items.size)
    (hbound : document.items.size < state.place + bound)
    (hjumps : state.jumps ≤ document.jumpLimit)
    (hrun : Read.entries document (Value.readEntry read tagged mark trail) bound found state =
      .ok (result, after)) :
    ∃ entries jumps values, Spells document (.entries entries) state.place after.place jumps ∧
      after.jumps = state.jumps + jumps ∧ after.jumps ≤ document.jumpLimit ∧
      Tree.entryValues? entries tagged = some values ∧ result = values.reverse ++ found ∧
      nesting.frames after.place = outer := by
  induction bound generalizing state found with
  | zero => omega
  | succ bound ih =>
      obtain ⟨item, itemMark, hitem⟩ :
          ∃ item mark, document.items[state.place]? = some (item, mark) := by
        rw [Read.entries] at hrun
        exact exists_item_of_peek hrun
      have hadvance := nesting.advance hitem
      rw [hframes] at hadvance
      rcases Item.ends_or_starts_of_advance_key hadvance with ⟨rfl, houter⟩ | ⟨hstarts, hmore⟩
      · rw [entries_end hitem rfl] at hrun
        cases hrun
        exact ⟨[], 0, [], .noEntries hitem, rfl, hjumps, rfl, rfl, houter⟩
      · rw [entries_more hitem hmore, bind_eq_ok_iff] at hrun
        obtain ⟨following, last, hentry, hrest⟩ := hrun
        obtain ⟨keyValue, middle, value, hkey, hvalue, rfl⟩ := readEntry_eq_ok hentry
        -- behind the key its value is still to come, and behind the value the next key
        obtain ⟨keyTree, jumps, hkeyTree, hmiddle, hlimit, hkeyMeans, hbegin⟩ :=
          hread (starts_of_item hitem hstarts) hjumps hkey
        rw [hframes] at hbegin
        have hmiddleFrames : nesting.frames middle.place = .value :: outer :=
          (Option.some.inj hbegin).symm
        obtain ⟨valueTree, jumps', hvalueTree, hlast, hlimit', hvalueMeans, hbegin⟩ :=
          hread (starts_of_value hmiddleFrames) hlimit hvalue
        rw [hmiddleFrames] at hbegin
        have hlastFrames : nesting.frames last.place = .key :: outer :=
          (Option.some.inj hbegin).symm
        have hkeyLeast : state.place + 1 ≤ middle.place := hkeyTree.add_least_le
        have hvalueLeast : middle.place + 1 ≤ last.place := hvalueTree.add_least_le
        obtain ⟨entries, jumps'', values, hentries, hafter, hlimit'', hvalues, hresult, houter⟩ :=
          ih last hlastFrames hvalueTree.le_size (by omega) hlimit' hrest
        refine ⟨(keyTree, valueTree) :: entries, jumps + jumps' + jumps'',
          (keyValue, value) :: values, .entry hkeyTree hvalueTree hentries, by omega, hlimit'', ?_,
          ?_, houter⟩
        · rw [Tree.entryValues?, hkeyMeans, hvalueMeans, hvalues]
          rfl
        · rw [hresult]
          simp

/-- What a value that begins at a place is, for a reader of what is inside of it. -/
theorem exists_of_readContent {below : Option (Bool → Trail → Read Value)}
    (hbelow : ∀ read, below = some read → ReadsTrees nesting read) {tagged : Bool} {trail : Trail}
    {place jumps : Nat} {item : Item} {mark : Mark} {value : Value}
    (hitem : document.items[place]? = some (item, mark)) (hvalue : item.isValue = true)
    (hjumps : jumps ≤ document.jumpLimit)
    (hrun : Value.readContent document below tagged trail item mark ⟨place + 1, jumps⟩ =
      .ok (value, after)) :
    ∃ tree jumps', Spells document (.value tree) place after.place jumps' ∧
      after.jumps = jumps + jumps' ∧ after.jumps ≤ document.jumpLimit ∧
      tree.value? tagged = some value ∧
      Frame.begin (nesting.frames place) = some (nesting.frames after.place) := by
  have hadvance := nesting.advance hitem
  have hsize := lt_size_of_item hitem
  -- the tag is dealt with first in each case; only below the depth limit there are collections
  cases item with
  | scalar written =>
      rw [Value.readContent] at hrun
      obtain ⟨tagged', inner, hinner, hmeans⟩ := exists_of_withTag hrun
      cases hscalar : Value.ofScalar written tagged' with
      | error complaint =>
          simp only [hscalar] at hinner
          exact absurd hinner refuse_ne_ok
      | ok scalarValue =>
          simp only [hscalar, pure_eq_ok_iff] at hinner
          obtain ⟨rfl, rfl⟩ := hinner
          refine ⟨.scalar written, 0, .scalar hitem, rfl, hjumps, ?_, hadvance⟩
          exact hmeans (fun tagged => (Value.ofScalar written tagged).toOption)
            (by simp only [hscalar]; rfl)
  | sequenceStart tag =>
      rw [Value.readContent] at hrun
      obtain ⟨tagged', inner, hinner, hmeans⟩ := exists_of_withTag hrun
      simp only [inside_eq_ok_iff, bind_eq_ok_iff, pure_eq_ok_iff] at hinner
      obtain ⟨read, hread, values, last, hitems, rfl, rfl⟩ := hinner
      obtain ⟨outer, hbegin, houter⟩ := Option.map_eq_some_iff.mp hadvance
      obtain ⟨items, jumps', hspells, hafter, hlimit, hvalues, hlast⟩ :=
        exists_items (hbelow read hread) trail _ 0 ⟨place + 1, jumps⟩ houter.symm hsize
          (Nat.lt_add_of_pos_left (Nat.succ_pos place)) hjumps hitems
      refine ⟨.sequence tag items, jumps', .sequence hitem hspells, hafter, hlimit, ?_, ?_⟩
      · exact hmeans (fun _ => (Tree.itemValues? items).map .sequence)
          (by simp only [hvalues, Option.map_some])
      · rw [hbegin, hlast]
  | mappingStart tag =>
      rw [Value.readContent] at hrun
      obtain ⟨tagged', inner, hinner, hmeans⟩ := exists_of_withTag hrun
      simp only [inside_eq_ok_iff, bind_eq_ok_iff, pure_eq_ok_iff] at hinner
      obtain ⟨read, hread, result, last, hentries, rfl, rfl⟩ := hinner
      obtain ⟨outer, hbegin, houter⟩ := Option.map_eq_some_iff.mp hadvance
      obtain ⟨entries, jumps', values, hspells, hafter, hlimit, hvalues, rfl, hlast⟩ :=
        exists_entries (hbelow read hread) _ ⟨place + 1, jumps⟩ houter.symm hsize
          (Nat.lt_add_of_pos_left (Nat.succ_pos place)) hjumps hentries
      refine ⟨.mapping tag entries, jumps', .mapping hitem hspells, hafter, hlimit, ?_, ?_⟩
      · exact hmeans (fun tagged => (Tree.entryValues? entries tagged).map .mapping)
          (by simp only [hvalues, Option.map_some, List.append_nil, List.reverse_reverse])
      · rw [hbegin, hlast]
  | _ => cases hvalue

theorem readsTrees_readNext {below : Option (Bool → Trail → Read Value)}
    (hbelow : ∀ read, below = some read → ReadsTrees nesting read) :
    ReadsTrees nesting (Value.readNext document below) := by
  intro tagged trail state after value hstarts hjumps hrun
  obtain ⟨item, mark, hitem⟩ := exists_item_of_content hrun
  by_cases hreference : ∃ target, item = .reference target
  -- behind a reference the reader is back where it was, one reference more
  · obtain ⟨target, rfl⟩ := hreference
    obtain ⟨found, foundMark, hfound, hvalue⟩ := nesting.target hitem
    obtain ⟨hlimit, last, hread, rfl⟩ := (content_reference_eq_ok_iff hitem hfound).mp hrun
    obtain ⟨tree, jumps, htree, hlast, hlimit', hmeans, -⟩ :=
      exists_of_readContent hbelow hfound hvalue hlimit hread
    refine ⟨tree, jumps + 1, .reference hitem hfound hvalue htree, ?_, hlimit', hmeans,
      nesting.advance hitem⟩
    simp only [hlast]
    omega
  · rw [Value.readNext, content_of_item hitem fun target htarget => hreference ⟨target, htarget⟩]
      at hrun
    have hvalue : item.isValue = true := by
      cases item with
      | reference target => exact absurd ⟨target, rfl⟩ hreference
      | _ => exact hstarts _ _ hitem
    exact exists_of_readContent hbelow hitem hvalue hjumps hrun

theorem readsTrees_read (depth : Nat) : ReadsTrees nesting (Value.read document depth) := by
  induction depth with
  | zero => exact readsTrees_readNext fun read hread => by cases hread
  | succ depth ih =>
      refine readsTrees_readNext fun read hread => ?_
      cases hread
      exact ih

/-- A document that begins with a value is read as a tree with this value. -/
theorem exists_tree_of_root (hroot : nesting.frames 0 = [.root, .finish]) {value : Value}
    (hread : Value.read document depthLimit false .root ⟨0, 0⟩ = .ok (value, after)) :
    ∃ tree, document.Holds tree ∧ tree.value? false = some value := by
  have hstarts : ∀ item mark, document.items[0]? = some (item, mark) → item.starts = true := by
    intro item mark hitem
    have hadvance := nesting.advance hitem
    rw [hroot] at hadvance
    exact Item.starts_of_advance (.inl rfl) hadvance
  have hreads : ReadsTrees nesting (Value.read document depthLimit) := readsTrees_read depthLimit
  obtain ⟨tree, jumps, htree, hjumps, hlimit, hmeans, -⟩ := hreads hstarts (Nat.zero_le _) hread
  refine ⟨tree, .value htree ?_, hmeans⟩
  rw [hjumps, Nat.zero_add] at hlimit
  exact hlimit

/-- An empty text is read as an empty scalar. -/
theorem exists_tree_of_empty (hempty : nesting.frames 0 = [.start]) {value : Value}
    (hread : Value.read document depthLimit false .root ⟨0, 0⟩ = .ok (value, after)) :
    ∃ tree, document.Holds tree ∧ tree.value? false = some value := by
  obtain ⟨below, hbelow⟩ : ∃ below, Value.read document depthLimit =
      Value.readNext document below := ⟨_, rfl⟩
  rw [hbelow] at hread
  obtain ⟨item, mark, hitem⟩ := exists_item_of_content hread
  have hadvance := nesting.advance hitem
  rw [hempty] at hadvance
  obtain rfl := Item.eq_nothing_of_advance_start hadvance
  rw [Value.readNext, content_of_item hitem (by simp)] at hread
  obtain ⟨rfl, -⟩ := pure_eq_ok_iff.mp hread
  exact ⟨_, .nothing hitem, rfl⟩

end Value

/-- **A document that can be read holds a tree with that value.** -/
theorem exists_tree_of_parse {octets : List UInt8} {value : Value}
    (hparse : parse octets = .ok value) :
    ∃ tree, (Document.ofOctets octets).Holds tree ∧ tree.value? false = some value := by
  obtain ⟨nesting, hbegins⟩ := Document.nesting_ofOctets octets
  rw [parse, Value.ofDocument, Read.run_eq_ok_iff] at hparse
  obtain ⟨-, last, hread⟩ := hparse
  rcases hbegins with hroot | hempty
  · exact exists_tree_of_root hroot hread
  · exact exists_tree_of_empty hempty hread

end MtaCheck.Yaml
