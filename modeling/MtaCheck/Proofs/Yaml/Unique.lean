import MtaCheck.Proofs.Yaml.Tree

/-!
# A document holds one tree

From a given place on, the items of a document spell no two different trees, and so a
document holds at most one (`Document.Holds.unique`).  If it can be read as a value, it holds
one, by `exists_tree_of_parse`, and the value is the value of that tree.
-/

namespace MtaCheck.Yaml

variable {document : Document}

/-- Whether two parts are of one kind. -/
def Part.Alike : Part → Part → Prop
  | .value _, .value _ | .items _, .items _ | .entries _, .entries _ => True
  | _, _ => False

/-- A tree begins with an item that is no end. -/
theorem Spells.exists_starting {tree : Tree} {place next jumps : Nat}
    (htree : Spells document (.value tree) place next jumps) :
    ∃ item mark, document.items[place]? = some (item, mark) ∧ item.starts = true := by
  cases htree with
  | scalar hitem => exact ⟨_, _, hitem, rfl⟩
  | sequence hitem => exact ⟨_, _, hitem, rfl⟩
  | mapping hitem => exact ⟨_, _, hitem, rfl⟩
  | reference hitem => exact ⟨_, _, hitem, rfl⟩

theorem Spells.not_end {tree : Tree} {place next jumps : Nat} {item : Item} {mark : Mark}
    (htree : Spells document (.value tree) place next jumps)
    (hitem : document.items[place]? = some (item, mark)) (hend : item.starts = false) : False := by
  obtain ⟨found, foundMark, hfound, hstarts⟩ := htree.exists_starting
  rw [hitem] at hfound
  cases hfound
  rw [hend] at hstarts
  cases hstarts

theorem item_eq {place : Nat} {found other : Item × Mark}
    (hfound : document.items[place]? = some found)
    (hother : document.items[place]? = some other) : found = other := by
  rw [hfound] at hother
  exact Option.some_inj.mp hother

/-- From one place on only one part of a kind is spelled. -/
theorem Spells.unique {part part' : Part} {place next next' jumps jumps' : Nat}
    (hspells : Spells document part place next jumps)
    (hother : Spells document part' place next' jumps') (halike : part.Alike part') :
    part = part' ∧ next = next' ∧ jumps = jumps' := by
  -- the item at the place decides which rule has been used
  induction hspells generalizing part' next' jumps' with
  | scalar hitem =>
      cases hother with
      | scalar hitem' =>
          cases item_eq hitem hitem'
          exact ⟨rfl, rfl, rfl⟩
      | sequence hitem' | mapping hitem' | reference hitem' => cases item_eq hitem hitem'
      | _ => cases halike
  | sequence hitem hitems ih =>
      cases hother with
      | sequence hitem' hitems' =>
          cases item_eq hitem hitem'
          obtain ⟨hrest, rfl, rfl⟩ := ih hitems' trivial
          cases hrest
          exact ⟨rfl, rfl, rfl⟩
      | scalar hitem' | mapping hitem' | reference hitem' => cases item_eq hitem hitem'
      | _ => cases halike
  | mapping hitem hentries ih =>
      cases hother with
      | mapping hitem' hentries' =>
          cases item_eq hitem hitem'
          obtain ⟨hrest, rfl, rfl⟩ := ih hentries' trivial
          cases hrest
          exact ⟨rfl, rfl, rfl⟩
      | scalar hitem' | sequence hitem' | reference hitem' => cases item_eq hitem hitem'
      | _ => cases halike
  | reference hitem htarget hvalue htree ih =>
      cases hother with
      | reference hitem' htarget' hvalue' htree' =>
          cases item_eq hitem hitem'
          obtain ⟨htrees, rfl, rfl⟩ := ih htree' trivial
          exact ⟨htrees, rfl, rfl⟩
      | scalar hitem' | sequence hitem' | mapping hitem' => cases item_eq hitem hitem'
      | _ => cases halike
  | noItems hitem =>
      cases hother with
      | noItems hitem' => exact ⟨rfl, rfl, rfl⟩
      | item hfirst' => exact (hfirst'.not_end hitem rfl).elim
      | _ => cases halike
  | item hfirst hrest ihFirst ihRest =>
      cases hother with
      | noItems hitem' => exact (hfirst.not_end hitem' rfl).elim
      | item hfirst' hrest' =>
          obtain ⟨htrees, rfl, rfl⟩ := ihFirst hfirst' trivial
          obtain ⟨hitems, rfl, rfl⟩ := ihRest hrest' trivial
          cases htrees
          cases hitems
          exact ⟨rfl, rfl, rfl⟩
      | _ => cases halike
  | noEntries hitem =>
      cases hother with
      | noEntries hitem' => exact ⟨rfl, rfl, rfl⟩
      | entry hkey' => exact (hkey'.not_end hitem rfl).elim
      | _ => cases halike
  | entry hkey hvalue hrest ihKey ihValue ihRest =>
      cases hother with
      | noEntries hitem' => exact (hkey.not_end hitem' rfl).elim
      | entry hkey' hvalue' hrest' =>
          obtain ⟨hkeys, rfl, rfl⟩ := ihKey hkey' trivial
          obtain ⟨hvalues, rfl, rfl⟩ := ihValue hvalue' trivial
          obtain ⟨hentries, rfl, rfl⟩ := ihRest hrest' trivial
          cases hkeys
          cases hvalues
          cases hentries
          exact ⟨rfl, rfl, rfl⟩
      | _ => cases halike

/-- **A document holds no two trees.** -/
theorem Document.Holds.unique {tree tree' : Tree} (hholds : document.Holds tree)
    (hother : document.Holds tree') : tree = tree' := by
  cases hholds with
  | value htree =>
      cases hother with
      | value htree' =>
          obtain ⟨htrees, -, -⟩ := htree.unique htree' trivial
          cases htrees
          rfl
      | nothing hitem => exact (htree.not_end hitem rfl).elim
  | nothing hitem =>
      cases hother with
      | value htree' => exact (htree'.not_end hitem rfl).elim
      | nothing hitem' => rfl

end MtaCheck.Yaml
