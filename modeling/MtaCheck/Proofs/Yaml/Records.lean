import MtaCheck.Proofs.Yaml.Tree

/-!
# Readers that know what they expect

A reader of texts, sequences or records depends on nothing but the tree that a document
spells.  `Agrees` says so: the reader yields what the tree means to it, ends where the tree
ends, and fails where the tree means nothing to it.  What is said of a reader here therefore
holds of every way to write the same tree, with references and without.

The readers are put together from smaller ones, and so is what they agree with: a reader of
sequences agrees if the reader of their items does, a reader of records if the readers of
their fields do.
-/

namespace MtaCheck.Yaml

/-! ## What trees mean to readers -/

namespace Tree

/-- The text of a scalar, as it is written. -/
def text? : Tree → Option String
  | .scalar written => some written.text
  | _ => none

/-- The items of a sequence.  A scalar without any character counts as an empty one. -/
def sequence? {α : Type} (means : Tree → Option α) : Tree → Option (List α)
  | .scalar written => if (Item.scalar written).isEmpty then some [] else none
  | .sequence _ items => items.mapM means
  | .mapping _ _ => none

/-- What an entry of a mapping adds to what there is so far. -/
def withEntry {σ : Type} (means : String → σ → Tree → Option σ) (found : σ) (entry : Tree × Tree) :
    Option σ :=
  entry.1.text?.bind fun name => means name found entry.2

/-- What the fields of a mapping come to, one after the other.  A scalar without any character
counts as a mapping without fields. -/
def record? {σ : Type} (empty : σ) (means : String → σ → Tree → Option σ) : Tree → Option σ
  | .scalar written => if (Item.scalar written).isEmpty then some empty else none
  | .sequence _ _ => none
  | .mapping _ entries => entries.foldlM (withEntry means) empty

end Tree

/-- How deep inside of what is skipped a part stands. -/
def Part.depth : Part → Nat
  | .value _ => 0
  | .items _ | .entries _ => 1

/-- How deep inside of what is skipped the place behind an item is. -/
def Item.depthBehind (depth : Nat) : Item → Nat
  | .sequenceStart _ | .mappingStart _ => depth + 1
  | .sequenceEnd | .mappingEnd => depth - 1
  | _ => depth

namespace Read

variable {α β : Type} {document : Document} {state : ReadState}

/-! ## Yielding what is meant -/

/-- A reader yields what is meant: it ends at the next place with that and has then followed
no more than so many references.  If nothing is meant, it fails. -/
def Yields (read : Read α) (state : ReadState) (meant : Option α) (next limit : Nat) : Prop :=
  match meant with
  | some result => ∃ jumps, jumps ≤ limit ∧ read state = .ok (result, ⟨next, jumps⟩)
  | none => ∀ outcome, read state ≠ .ok outcome

variable {meant : Option α} {next limit : Nat}

theorem yields_pure {result : α} {jumps : Nat} (hjumps : jumps ≤ limit) :
    Yields (pure result) ⟨next, jumps⟩ (some result) next limit :=
  ⟨jumps, hjumps, rfl⟩

theorem yields_refuse {complaint : Complaint} {mark : Mark} {trail : Trail} :
    Yields (refuse complaint mark trail : Read α) state none next limit :=
  fun _ => refuse_ne_ok

theorem Yields.of_eq {read other : Read α} {state' : ReadState}
    (hother : Yields other state' meant next limit) (heq : read state = other state') :
    Yields read state meant next limit := by
  cases meant with
  | none => exact fun outcome hrun => hother outcome (heq ▸ hrun)
  | some result =>
      obtain ⟨jumps, hjumps, hrun⟩ := hother
      exact ⟨jumps, hjumps, heq.trans hrun⟩

theorem Yields.mono {read : Read α} {limit' : Nat} (hread : Yields read state meant next limit)
    (hlimit : limit ≤ limit') : Yields read state meant next limit' := by
  cases meant with
  | none => exact hread
  | some result =>
      obtain ⟨jumps, hjumps, hrun⟩ := hread
      exact ⟨jumps, Nat.le_trans hjumps hlimit, hrun⟩

theorem yields_bind {read : Read α} {following : α → Read β} {means : α → Option β}
    {next' limit' : Nat} (hread : Yields read state meant next limit)
    (hfollowing : ∀ result jumps, meant = some result → jumps ≤ limit →
      Yields (following result) ⟨next, jumps⟩ (means result) next' limit') :
    Yields (read >>= following) state (meant.bind means) next' limit' := by
  cases meant with
  | none =>
      intro outcome hrun
      obtain ⟨result, middle, hfirst, -⟩ := bind_eq_ok_iff.mp hrun
      exact hread _ hfirst
  | some result =>
      obtain ⟨jumps, hjumps, hfirst⟩ := hread
      have hsecond := hfollowing result jumps rfl hjumps
      rw [Option.bind_some]
      cases hmeans : means result with
      | some last =>
          rw [hmeans] at hsecond
          obtain ⟨jumps', hjumps', hlast⟩ := hsecond
          exact ⟨jumps', hjumps', bind_eq_ok_iff.mpr ⟨result, _, hfirst, hlast⟩⟩
      | none =>
          rw [hmeans] at hsecond
          intro outcome hrun
          obtain ⟨result', middle, hfirst', hlast⟩ := bind_eq_ok_iff.mp hrun
          rw [hfirst] at hfirst'
          cases hfirst'
          exact hsecond outcome hlast

theorem yields_map {read : Read α} {change : α → β} (hread : Yields read state meant next limit) :
    Yields (do return change (← read)) state (meant.map change) next limit := by
  rw [Option.map_eq_bind]
  exact yields_bind hread fun _ _ _ hjumps => yields_pure hjumps

/-! ## Agreement -/

/-- A reader agrees with what trees mean to it: wherever the document spells a tree, it yields
what the tree means and ends behind it, with no more references than there are in the tree. -/
def Agrees (document : Document) (read : Trail → Read α) (means : Tree → Option α) : Prop :=
  ∀ ⦃trail : Trail⦄ ⦃tree : Tree⦄ ⦃place next jumps before : Nat⦄,
    Spells document (.value tree) place next jumps → before + jumps ≤ document.jumpLimit →
      Yields (read trail) ⟨place, before⟩ (means tree) next (before + jumps)

/-- A reader of what items begin agrees with what trees mean: behind an item that begins a
value, it goes on with what the tree means that is spelled from that item on. -/
def AgreesBehind (document : Document) (read : Trail → Item → Mark → Read α)
    (means : Tree → Option α) : Prop :=
  ∀ ⦃trail : Trail⦄ ⦃item : Item⦄ ⦃mark : Mark⦄ ⦃tree : Tree⦄ ⦃place next jumps before : Nat⦄,
    document.items[place]? = some (item, mark) → item.isValue = true →
      Spells document (.value tree) place next jumps → before + jumps ≤ document.jumpLimit →
        Yields (read trail item mark) ⟨place + 1, before⟩ (means tree) next (before + jumps)

section Content

variable {read : Trail → Item → Mark → Read α} {means : Tree → Option α}

theorem AgreesBehind.yields_value (hread : AgreesBehind document read means) {trail : Trail}
    {item : Item} {mark : Mark} {tree : Tree} {place next jumps before : Nat}
    (hitem : document.items[place]? = some (item, mark)) (hvalue : item.isValue = true)
    (htree : Spells document (.value tree) place next jumps)
    (hlimit : before + jumps ≤ document.jumpLimit) :
    Yields (content document trail read) ⟨place, before⟩ (means tree) next (before + jumps) := by
  have hplain : ∀ target, item ≠ .reference target := by
    rintro target rfl
    cases hvalue
  exact (hread hitem hvalue htree hlimit).of_eq (content_of_item hitem hplain)

/-- Behind a reference the reader yields what stands at its target, and ends behind the
reference. -/
theorem AgreesBehind.yields_reference (hread : AgreesBehind document read means) {trail : Trail}
    {item : Item} {mark itemMark : Mark} {tree : Tree} {place target next jumps before : Nat}
    (hreference : document.items[place]? = some (.reference target, mark))
    (htarget : document.items[target]? = some (item, itemMark)) (hvalue : item.isValue = true)
    (htree : Spells document (.value tree) target next jumps)
    (hlimit : before + 1 + jumps ≤ document.jumpLimit) :
    Yields (content document trail read) ⟨place, before⟩ (means tree) (place + 1)
      (before + 1 + jumps) := by
  have hinner : Yields (read (.reference trail) item itemMark) ⟨target + 1, before + 1⟩
      (means tree) next (before + 1 + jumps) := hread htarget hvalue htree hlimit
  cases hmeans : means tree with
  | none =>
      rw [hmeans] at hinner
      intro outcome hrun
      obtain ⟨-, last, hlast, -⟩ := (content_reference_eq_ok_iff hreference htarget).mp hrun
      exact hinner _ hlast
  | some result =>
      rw [hmeans] at hinner
      obtain ⟨jumps', hjumps', hlast⟩ := hinner
      exact ⟨jumps', hjumps', (content_reference_eq_ok_iff hreference htarget).mpr
        ⟨by omega, _, hlast, rfl⟩⟩

theorem AgreesBehind.agrees_content (hread : AgreesBehind document read means) :
    Agrees document (fun trail => content document trail read) means := by
  intro trail tree place next jumps before htree hlimit
  cases htree with
  | scalar hitem => exact hread.yields_value hitem rfl (.scalar hitem) hlimit
  | sequence hitem hitems => exact hread.yields_value hitem rfl (.sequence hitem hitems) hlimit
  | mapping hitem hentries => exact hread.yields_value hitem rfl (.mapping hitem hentries) hlimit
  | reference hitem htarget hvalue htree =>
      exact (hread.yields_reference hitem htarget hvalue htree (by omega)).mono (by omega)

/-- A reader of what items begin agrees if it does so behind each kind of item that begins a
value. -/
theorem agreesBehind_of_items
    (hscalar : ∀ trail written mark state, Yields (read trail (.scalar written) mark) state
      (means (.scalar written)) state.place state.jumps)
    (hsequence : ∀ trail tag mark {items place next jumps before},
      Spells document (.items items) place next jumps → before + jumps ≤ document.jumpLimit →
        Yields (read trail (.sequenceStart tag) mark) ⟨place, before⟩
          (means (.sequence tag items)) next (before + jumps))
    (hmapping : ∀ trail tag mark {entries place next jumps before},
      Spells document (.entries entries) place next jumps → before + jumps ≤ document.jumpLimit →
        Yields (read trail (.mappingStart tag) mark) ⟨place, before⟩
          (means (.mapping tag entries)) next (before + jumps)) :
    AgreesBehind document read means := by
  intro trail item mark tree place next jumps before hitem hvalue htree hlimit
  cases htree with
  | scalar hfound =>
      rw [hfound] at hitem
      cases hitem
      exact hscalar trail _ mark _
  | sequence hfound hitems =>
      rw [hfound] at hitem
      cases hitem
      exact hsequence trail _ mark hitems hlimit
  | mapping hfound hentries =>
      rw [hfound] at hitem
      cases hitem
      exact hmapping trail _ mark hentries hlimit
  | reference hfound =>
      -- a reference stands for a value, but does not begin one
      rw [hfound] at hitem
      cases hitem
      cases hvalue

end Content

theorem agrees_text (expected : String) : Agrees document (text document expected) Tree.text? := by
  refine (agreesBehind_of_items ?_ ?_ ?_).agrees_content
  · intro trail written mark state
    exact yields_pure (Nat.le_refl _)
  · intros
    exact yields_refuse
  · intros
    exact yields_refuse

/-! ## Skipping -/

/-- What skipping goes on with once it is this deep inside of what it skips. -/
def skipOn (document : Document) (bound depth : Nat) : Read Unit :=
  if depth == 0 then pure () else skipFrom document bound depth

theorem skipFrom_succ {bound depth place before : Nat} {item : Item} {mark : Mark}
    (hitem : document.items[place]? = some (item, mark)) :
    skipFrom document (bound + 1) depth ⟨place, before⟩ =
      skipOn document bound (item.depthBehind depth) ⟨place + 1, before⟩ := by
  rw [skipFrom, bind_of_eq_ok (next_eq_ok_iff.mpr ⟨hitem, rfl⟩)]
  rfl

/-- Skipping passes a part, and is then less deep by what the part ends. -/
theorem skipFrom_spells {part : Part} {place next jumps : Nat}
    (hspells : Spells document part place next jumps) (bound depth before : Nat) :
    skipFrom document (bound + (next - place)) (depth + part.depth) ⟨place, before⟩ =
      skipOn document bound depth ⟨next, before⟩ := by
  -- one step of the bound is used up for each item; the rest is left for what comes behind
  have hsteps : ∀ {bound place next : Nat}, place + 1 ≤ next →
      bound + (next - place) = bound + (next - (place + 1)) + 1 := by
    intro bound place next hnext
    omega
  induction hspells generalizing bound depth with
  | scalar hitem =>
      rw [Nat.add_sub_cancel_left]
      exact skipFrom_succ hitem
  | sequence hitem hitems ih =>
      have hleast := hitems.add_least_le
      rw [hsteps (by omega)]
      exact (skipFrom_succ hitem).trans (ih bound depth)
  | mapping hitem hentries ih =>
      have hleast := hentries.add_least_le
      rw [hsteps (by omega)]
      exact (skipFrom_succ hitem).trans (ih bound depth)
  | reference hitem htarget hvalue htree ih =>
      rw [Nat.add_sub_cancel_left]
      exact skipFrom_succ hitem
  | noItems hitem =>
      rw [Nat.add_sub_cancel_left]
      exact skipFrom_succ hitem
  | noEntries hitem =>
      rw [Nat.add_sub_cancel_left]
      exact skipFrom_succ hitem
  | @item place middle next _ _ _ _ hfirst hrest ihFirst ihRest =>
      have hfirstLeast := hfirst.add_least_le
      have hrestLeast := hrest.add_least_le
      have hsplit : bound + (next - place) = bound + (next - middle) + (middle - place) := by omega
      rw [hsplit]
      exact (ihFirst _ (depth + 1)).trans (ihRest bound depth)
  | @entry place middle middle' next _ _ _ _ _ _ hkey hvalue hrest ihKey ihValue ihRest =>
      have hkeyLeast := hkey.add_least_le
      have hvalueLeast := hvalue.add_least_le
      have hrestLeast := hrest.add_least_le
      have hsplit : bound + (next - place) =
          bound + (next - middle') + (middle' - middle) + (middle - place) := by omega
      rw [hsplit]
      exact ((ihKey _ (depth + 1)).trans (ihValue _ (depth + 1))).trans (ihRest bound depth)

/-- Whatever stands there can be skipped, and no reference is followed. -/
theorem yields_skip {tree : Tree} {place next jumps before : Nat}
    (htree : Spells document (.value tree) place next jumps) :
    Yields (skip document) ⟨place, before⟩ (some ()) next before := by
  have hnext := htree.le_size
  have hleast := htree.add_least_le
  have hbound : document.items.size + 1 =
      document.items.size + 1 - (next - place) + (next - place) := by omega
  refine ⟨before, Nat.le_refl _, ?_⟩
  rw [skip, hbound]
  exact skipFrom_spells htree _ 0 before

/-! ## Collections -/

theorem exists_item_of_spells {tree : Tree} {place next jumps : Nat}
    (htree : Spells document (.value tree) place next jumps) :
    ∃ item mark, document.items[place]? = some (item, mark) ∧ endsSequence item = false ∧
      endsMapping item = false := by
  cases htree with
  | scalar hitem => exact ⟨_, _, hitem, rfl, rfl⟩
  | sequence hitem => exact ⟨_, _, hitem, rfl, rfl⟩
  | mapping hitem => exact ⟨_, _, hitem, rfl, rfl⟩
  | reference hitem => exact ⟨_, _, hitem, rfl, rfl⟩

/-- The items of a sequence are read as what each of them means. -/
theorem yields_items {readItem : Trail → Read α} {means : Tree → Option α}
    (hitem : Agrees document readItem means) {trail : Nat → Trail} {trees : List Tree}
    {place next jumps : Nat} (bound index before : Nat)
    (hspells : Spells document (.items trees) place next jumps) (hbound : trees.length < bound)
    (hlimit : before + jumps ≤ document.jumpLimit) :
    Yields (items document (fun index => readItem (trail index)) bound index) ⟨place, before⟩
      (trees.mapM means) next (before + jumps) := by
  induction trees generalizing place jumps bound index before with
  | nil =>
      obtain ⟨bound, rfl⟩ : ∃ less, bound = less + 1 := ⟨bound - 1, by omega⟩
      cases hspells with
      | noItems hend => exact ⟨before, Nat.le_refl _, items_end hend rfl⟩
  | cons first rest ih =>
      obtain ⟨bound, rfl⟩ : ∃ less, bound = less + 1 := ⟨bound - 1, by omega⟩
      rw [List.length_cons] at hbound
      cases hspells with
      | @item _ middle _ firstJumps restJumps _ _ hfirst hrest =>
          obtain ⟨item, mark, hfound, hmore, -⟩ := exists_item_of_spells hfirst
          rw [List.mapM_cons]
          refine Yields.of_eq ?_ (items_more hfound hmore)
          refine yields_bind (hitem hfirst (by omega)) fun value jumps _ hjumps => ?_
          refine yields_bind (ih bound (index + 1) jumps hrest (by omega) (by omega)) ?_
          exact fun values jumps' _ hjumps' => yields_pure (by omega)

/-- A reader of sequences agrees if the reader of their items does. -/
theorem agrees_sequence {readItem : Trail → Read α} {means : Tree → Option α}
    (hitem : Agrees document readItem means) :
    Agrees document (fun trail => sequence document trail readItem) (Tree.sequence? means) := by
  refine (agreesBehind_of_items ?_ ?_ ?_).agrees_content
  · intro trail written mark state
    simp only [Tree.sequence?]
    split
    · exact yields_pure (Nat.le_refl _)
    · exact yields_refuse
  · intro trail tag mark trees place next jumps before hitems hlimit
    have hleast := hitems.add_least_le
    have hsize := hitems.le_size
    simp only [Part.least] at hleast
    exact yields_items hitem _ 0 before hitems (by omega) hlimit
  · intros
    exact yields_refuse

/-- The entries of a mapping are read as what they come to, one after the other. -/
theorem yields_entries {σ : Type} {readEntry : Option String → σ → Read σ}
    {means : σ → Tree × Tree → Option σ}
    (hentry : ∀ textOfKey found {key value : Tree} {place middle next jumps jumps' before : Nat},
      Spells document (.value key) place middle jumps →
      Spells document (.value value) middle next jumps' →
      before + jumps + jumps' ≤ document.jumpLimit →
        Yields (readEntry textOfKey found) ⟨place, before⟩ (means found (key, value)) next
          (before + jumps + jumps'))
    {trees : List (Tree × Tree)} {place next jumps : Nat} (bound before : Nat) (found : σ)
    (hspells : Spells document (.entries trees) place next jumps) (hbound : trees.length < bound)
    (hlimit : before + jumps ≤ document.jumpLimit) :
    Yields (entries document readEntry bound found) ⟨place, before⟩ (trees.foldlM means found) next
      (before + jumps) := by
  -- along the entries, since what has been found so far is passed on from each to the next
  induction trees generalizing place jumps bound before found with
  | nil =>
      obtain ⟨bound, rfl⟩ : ∃ less, bound = less + 1 := ⟨bound - 1, by omega⟩
      cases hspells with
      | noEntries hend => exact ⟨before, Nat.le_refl _, entries_end hend rfl⟩
  | cons first rest ih =>
      obtain ⟨bound, rfl⟩ : ∃ less, bound = less + 1 := ⟨bound - 1, by omega⟩
      rw [List.length_cons] at hbound
      cases hspells with
      | @entry _ _ _ _ keyJumps valueJumps restJumps key value _ hkey hvalue hrest =>
          obtain ⟨item, mark, hfound, -, hmore⟩ := exists_item_of_spells hkey
          rw [List.foldlM_cons]
          refine Yields.of_eq ?_ (entries_more hfound hmore)
          refine yields_bind (hentry (keyText? item) found hkey hvalue (by omega)) ?_
          intro following jumps _ hjumps
          exact (ih bound jumps following hrest (by omega) (by omega)).mono (by omega)

/-- A reader of records agrees if the readers of their fields do.  These may complain, and then
fail. -/
theorem agrees_record {σ : Type} {expected : String} {empty : σ}
    {readField : (Complaint → Read σ) → String → Trail → σ → Read σ}
    {means : String → σ → Tree → Option σ}
    (hfield : ∀ complain : Complaint → Read σ,
      (∀ complaint state outcome, complain complaint state ≠ .ok outcome) →
      ∀ name found, Agrees document (fun trail => readField complain name trail found)
        (means name found)) :
    Agrees document (fun trail => record document expected trail empty readField)
      (Tree.record? empty means) := by
  refine (agreesBehind_of_items ?_ ?_ ?_).agrees_content
  · intro trail written mark state
    simp only [Tree.record?]
    split
    · exact yields_pure (Nat.le_refl _)
    · exact yields_refuse
  · intros
    exact yields_refuse
  · intro trail tag mark trees place next jumps before hentries hlimit
    have hleast := hentries.add_least_le
    have hsize := hentries.le_size
    simp only [Part.least] at hleast
    refine yields_entries ?_ _ before empty hentries (by omega) hlimit
    intro textOfKey found key value place middle next jumps jumps' before hkey hvalue hlimit
    refine yields_bind (agrees_text _ hkey (by omega)) fun name jumps _ hjumps => ?_
    refine (hfield _ ?_ name found hvalue (by omega)).mono (by omega)
    exact fun _ _ _ => refuse_ne_ok

/-- A reader of a field that may occur once agrees if the reader of its value does. -/
theorem agrees_once {σ : Type} {complain : Complaint → Read σ} {name : String} {found : Option α}
    {read : Trail → Read α} {means : Tree → Option α} {store : α → σ}
    (hcomplain : ∀ complaint state outcome, complain complaint state ≠ .ok outcome)
    (hread : Agrees document read means) :
    Agrees document (fun trail => once complain name found (read trail) store)
      (fun tree => if found.isSome then none else (means tree).map store) := by
  intro trail tree place next jumps before htree hlimit
  cases found with
  | some value => exact fun outcome => hcomplain _ _ outcome
  | none => exact yields_map (hread htree hlimit)

end Read

end MtaCheck.Yaml
