import MtaCheck.Yaml.Record

/-!
# When readers succeed

For each way to put readers together: when it succeeds, with which result, and where the
reader then stands.
-/

namespace MtaCheck.Yaml

/-- How many references may be followed in a document. -/
def Document.jumpLimit (document : Document) : Nat := document.items.size * repetitionFactor

namespace Read

variable {α β : Type} {document : Document} {state after : ReadState}

/-! ## Putting readers together -/

theorem pure_eq_ok_iff {result found : α} :
    (pure found : Read α) state = .ok (result, after) ↔ result = found ∧ after = state := by
  constructor
  · intro hrun
    cases hrun
    exact ⟨rfl, rfl⟩
  · rintro ⟨rfl, rfl⟩
    rfl

theorem throw_ne_ok {error : ReadError} {outcome : α × ReadState} :
    (throw error : Read α) state ≠ .ok outcome := by
  intro hrun
  cases hrun

theorem refuse_ne_ok {complaint : Complaint} {mark : Mark} {trail : Trail}
    {outcome : α × ReadState} :
    (refuse complaint mark trail : Read α) state ≠ .ok outcome :=
  throw_ne_ok

theorem bind_eq_ok_iff {read : Read α} {next : α → Read β} {outcome : β × ReadState} :
    (read >>= next) state = .ok outcome ↔
      ∃ result middle, read state = .ok (result, middle) ∧ next result middle = .ok outcome := by
  change (read state >>= fun pair => next pair.1 pair.2) = _ ↔ _
  cases hread : read state with
  | error error =>
      constructor
      · intro hrun
        cases hrun
      · rintro ⟨result, middle, heq, -⟩
        cases heq
  | ok pair =>
      constructor
      · intro hrun
        exact ⟨pair.1, pair.2, rfl, hrun⟩
      · rintro ⟨result, middle, heq, hrun⟩
        cases heq
        exact hrun

theorem bind_of_eq_ok {read : Read α} {next : α → Read β} {result : α} {middle : ReadState}
    (hread : read state = .ok (result, middle)) :
    (read >>= next) state = next result middle := by
  change (read state >>= fun pair => next pair.1 pair.2) = _
  rw [hread]
  rfl

/-! ## Single items -/

theorem get_eq_ok_iff {result : ReadState} :
    (get : Read ReadState) state = .ok (result, after) ↔ result = state ∧ after = state :=
  pure_eq_ok_iff

theorem peek_eq_ok_iff {found : Item × Mark} :
    peek document state = .ok (found, after) ↔
      document.items[state.place]? = some found ∧ after = state := by
  rw [peek, bind_of_eq_ok (get_eq_ok_iff.mpr ⟨rfl, rfl⟩)]
  cases document.items[state.place]? with
  | none => exact iff_of_false throw_ne_ok (by simp)
  | some item =>
      refine pure_eq_ok_iff.trans (and_congr_left fun _ => ?_)
      rw [Option.some_inj, eq_comm]

theorem pass_eq_ok_iff {result : Unit} :
    pass state = .ok (result, after) ↔ after = ⟨state.place + 1, state.jumps⟩ := by
  constructor
  · intro hrun
    cases hrun
    rfl
  · rintro rfl
    rfl

theorem next_eq_ok_iff {found : Item × Mark} :
    next document state = .ok (found, after) ↔
      document.items[state.place]? = some found ∧ after = ⟨state.place + 1, state.jumps⟩ := by
  unfold next
  simp only [bind_eq_ok_iff, peek_eq_ok_iff, pass_eq_ok_iff, pure_eq_ok_iff]
  constructor
  · rintro ⟨item, _, ⟨hitem, rfl⟩, -, _, rfl, rfl, rfl⟩
    exact ⟨hitem, rfl⟩
  · rintro ⟨hitem, rfl⟩
    exact ⟨found, state, ⟨hitem, rfl⟩, (), _, rfl, rfl, rfl⟩

theorem set_eq_ok_iff {last : ReadState} {result : PUnit} :
    (set last : Read PUnit) state = .ok (result, after) ↔ after = last := by
  constructor
  · intro hrun
    cases hrun
    rfl
  · rintro rfl
    rfl

theorem modify_eq_ok_iff {change : ReadState → ReadState} {result : PUnit} :
    (modify change : Read PUnit) state = .ok (result, after) ↔ after = change state := by
  constructor
  · intro hrun
    cases hrun
    rfl
  · rintro rfl
    rfl

theorem inside_eq_ok_iff {below : Option β} {mark : Mark} {read : β → Read α} {result : α} :
    inside below mark read state = .ok (result, after) ↔
      ∃ reader, below = some reader ∧ read reader state = .ok (result, after) := by
  cases below with
  | none => simp [inside, throw_ne_ok]
  | some reader => simp [inside]

/-- What a reference stands for is read at its place, and then the reader is back. -/
theorem follow_eq_ok_iff {place : Nat} {read : Read α} {result : α} :
    follow document place read state = .ok (result, after) ↔
      state.jumps + 1 ≤ document.jumpLimit ∧
        ∃ last, read ⟨place, state.jumps + 1⟩ = .ok (result, last) ∧
          after = ⟨state.place, last.jumps⟩ := by
  -- the reader comes back to its place, but the references that it has followed stay counted
  unfold follow
  rw [bind_eq_ok_iff]
  simp only [get_eq_ok_iff]
  constructor
  · rintro ⟨_, _, ⟨rfl, rfl⟩, hrun⟩
    split at hrun
    · simp only [bind_eq_ok_iff] at hrun
      obtain ⟨_, _, hthrow, -⟩ := hrun
      exact absurd hthrow throw_ne_ok
    · rename_i hlimit
      simp only [bind_eq_ok_iff, set_eq_ok_iff, modify_eq_ok_iff, pure_eq_ok_iff] at hrun
      obtain ⟨_, _, rfl, _, last, hread, _, _, rfl, rfl, rfl⟩ := hrun
      exact ⟨Nat.le_of_not_gt hlimit, last, hread, rfl⟩
  · rintro ⟨hlimit, last, hread, rfl⟩
    have hfollows : ¬ state.jumps + 1 > document.items.size * repetitionFactor :=
      Nat.not_lt.mpr hlimit
    refine ⟨state, state, ⟨rfl, rfl⟩, ?_⟩
    rw [if_neg hfollows]
    simp only [bind_eq_ok_iff, set_eq_ok_iff, modify_eq_ok_iff, pure_eq_ok_iff]
    exact ⟨(), _, rfl, result, last, hread, (), _, rfl, rfl, rfl⟩

/-- There is an item wherever one is looked at. -/
theorem exists_item_of_peek {next : Item × Mark → Read α} {outcome : α × ReadState}
    (hrun : (peek document >>= next) state = .ok outcome) :
    ∃ item mark, document.items[state.place]? = some (item, mark) := by
  simp only [bind_eq_ok_iff, peek_eq_ok_iff] at hrun
  obtain ⟨found, _, ⟨hfound, -⟩, -⟩ := hrun
  exact ⟨found.1, found.2, hfound⟩

/-- There is an item wherever a value is read. -/
theorem exists_item_of_content {trail : Trail} {read : Trail → Item → Mark → Read α}
    {outcome : α × ReadState} (hrun : content document trail read state = .ok outcome) :
    ∃ item mark, document.items[state.place]? = some (item, mark) := by
  unfold content at hrun
  simp only [bind_eq_ok_iff, next_eq_ok_iff] at hrun
  obtain ⟨found, _, ⟨hfound, -⟩, -⟩ := hrun
  exact ⟨found.1, found.2, hfound⟩

/-- What an item begins that is no reference is read from behind it. -/
theorem content_of_item {trail : Trail} {read : Trail → Item → Mark → Read α} {place jumps : Nat}
    {item : Item} {mark : Mark} (hitem : document.items[place]? = some (item, mark))
    (hvalue : ∀ target, item ≠ .reference target) :
    content document trail read ⟨place, jumps⟩ = read trail item mark ⟨place + 1, jumps⟩ := by
  have hnext : next document ⟨place, jumps⟩ = .ok ((item, mark), ⟨place + 1, jumps⟩) :=
    next_eq_ok_iff.mpr ⟨hitem, rfl⟩
  rw [content, bind_of_eq_ok hnext]
  cases item with
  | reference target => exact absurd rfl (hvalue target)
  | _ => rfl

/-- What a reference stands for is read from behind the item that it leads to. -/
theorem content_reference_eq_ok_iff {trail : Trail} {read : Trail → Item → Mark → Read α}
    {place jumps target : Nat} {item : Item} {mark targetMark : Mark}
    (hreference : document.items[place]? = some (.reference target, mark))
    (htarget : document.items[target]? = some (item, targetMark)) {result : α} :
    content document trail read ⟨place, jumps⟩ = .ok (result, after) ↔
      jumps + 1 ≤ document.jumpLimit ∧
        ∃ last, read (.reference trail) item targetMark ⟨target + 1, jumps + 1⟩ =
            .ok (result, last) ∧ after = ⟨place + 1, last.jumps⟩ := by
  have hnext : next document ⟨place, jumps⟩ = .ok ((.reference target, mark), ⟨place + 1, jumps⟩) :=
    next_eq_ok_iff.mpr ⟨hreference, rfl⟩
  have htargetNext : next document ⟨target, jumps + 1⟩ =
      .ok ((item, targetMark), ⟨target + 1, jumps + 1⟩) :=
    next_eq_ok_iff.mpr ⟨htarget, rfl⟩
  rw [content, bind_of_eq_ok hnext]
  simp only [follow_eq_ok_iff, bind_of_eq_ok htargetNext]

/-! ## Collections -/

theorem items_end {readItem : Nat → Read α} {bound index place jumps : Nat} {item : Item}
    {mark : Mark} (hitem : document.items[place]? = some (item, mark))
    (hends : endsSequence item = true) :
    items document readItem (bound + 1) index ⟨place, jumps⟩ = .ok ([], ⟨place + 1, jumps⟩) := by
  rw [items, bind_of_eq_ok (peek_eq_ok_iff.mpr ⟨hitem, rfl⟩), if_pos hends]
  rfl

theorem items_more {readItem : Nat → Read α} {bound index place jumps : Nat} {item : Item}
    {mark : Mark} (hitem : document.items[place]? = some (item, mark))
    (hmore : endsSequence item = false) :
    items document readItem (bound + 1) index ⟨place, jumps⟩ =
      (do
        let first ← readItem index
        let rest ← items document readItem bound (index + 1)
        return first :: rest : Read (List α)) ⟨place, jumps⟩ := by
  rw [items, bind_of_eq_ok (peek_eq_ok_iff.mpr ⟨hitem, rfl⟩), if_neg (by simp [hmore])]

/-- The text of a key. -/
def keyText? : Item → Option String
  | .scalar written => some written.text
  | _ => none

theorem entries_end {σ : Type} {readEntry : Option String → σ → Read σ} {bound place jumps : Nat}
    {found : σ} {item : Item} {mark : Mark}
    (hitem : document.items[place]? = some (item, mark)) (hends : endsMapping item = true) :
    entries document readEntry (bound + 1) found ⟨place, jumps⟩ =
      .ok (found, ⟨place + 1, jumps⟩) := by
  rw [entries, bind_of_eq_ok (peek_eq_ok_iff.mpr ⟨hitem, rfl⟩)]
  simp only [if_pos hends]
  rfl

theorem entries_more {σ : Type} {readEntry : Option String → σ → Read σ} {bound place jumps : Nat}
    {found : σ} {item : Item} {mark : Mark}
    (hitem : document.items[place]? = some (item, mark)) (hmore : endsMapping item = false) :
    entries document readEntry (bound + 1) found ⟨place, jumps⟩ =
      (readEntry (keyText? item) found >>= entries document readEntry bound) ⟨place, jumps⟩ := by
  rw [entries, bind_of_eq_ok (peek_eq_ok_iff.mpr ⟨hitem, rfl⟩)]
  simp only [hmore]
  cases item <;> rfl

/-! ## Whole documents -/

/-- A document is read if its reader succeeds at the beginning, its text is sound, and it is the
only one. -/
theorem run_eq_ok_iff {read : Read α} {result : α} :
    run document read = .ok result ↔
      (document.failure = none ∧ document.hasMore = false) ∧
        ∃ last, read ⟨0, 0⟩ = .ok (result, last) := by
  rw [run, StateT.run]
  cases hread : read ⟨0, 0⟩ with
  | error error =>
      constructor
      · intro hrun
        cases hrun
      · rintro ⟨-, last, heq⟩
        cases heq
  | ok pair =>
      obtain ⟨found, last⟩ := pair
      cases hfailure : document.failure with
      | some cause =>
          refine iff_of_false (fun hrun => ?_) (by simp)
          cases hrun
      | none =>
          cases hmore : document.hasMore with
          | true =>
              refine iff_of_false (fun hrun => ?_) (by simp)
              cases hrun
          | false =>
              constructor
              · intro hrun
                cases hrun
                exact ⟨⟨rfl, rfl⟩, last, rfl⟩
              · rintro ⟨-, _, heq⟩
                cases heq
                rfl

end Read

end MtaCheck.Yaml
