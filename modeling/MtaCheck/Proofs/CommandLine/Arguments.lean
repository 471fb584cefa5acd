import MtaCheck.Proofs.CommandLine.Parts

/-!
# What a command line asks for

Each part of a command line can be spelled in several ways: `--json`, `-q`, `-vq`, `--source=app`,
`--source app`, `-s app`, `-s=app`, `-sapp`, `-qsapp` or `-qs app`.  `Spelled` lists them.  The main
result, `parse_spelled`, says which field of `Arguments` each part sets, in whatever order and
spelling the parts come.

A setting is not stored before the next part begins, so the state of the reader falls behind what
has been given.  `Stands` relates the two: they are the same after the setting has been stored.  A
word adds its parts to what has been given (`long_switch`, `begin_value`, `letters_spelled`), and by
induction so do all words (`behindCommand_spelled`).
-/

namespace MtaCheck.CommandLine

/-! ## Spellings -/

/-- The long name of a switch. -/
def Switch.long : Switch → String
  | .quiet => "quiet"
  | .json => "json"
  | .verbose => "verbose"
  | .help => "help"
  | .version => "version"

/-- The letter of a switch. -/
def Switch.letter? : Switch → Option Char
  | .quiet => some 'q'
  | .json => none
  | .verbose => some 'v'
  | .help => some 'h'
  | .version => some 'V'

/-- The long name of a setting. -/
def Setting.long : Setting → String
  | .source => "source"
  | .descriptor => "descriptor"
  | .mode => "mode"

/-- The letter of a setting. -/
def Setting.letter : Setting → Char
  | .source => 's'
  | .descriptor => 'd'
  | .mode => 'm'

/-- A value that can be an argument of its own. -/
def LooksPlain (value : String) : Prop := value.toList.head? ≠ some '-' ∨ value = "-"

/-- Letters behind a hyphen: those of switches, and in the end that of a setting with its value, or
of one whose value is the next argument. -/
inductive Letters : Command → List Part → Option Setting → List Char → Prop
  | nil {command : Command} : Letters command [] none []
  | switch {command : Command} {which : Switch} {letter : Char} {parts : List Part}
      {last : Option Setting} {rest : List Char} (hletter : which.letter? = some letter)
      (hrest : Letters command parts last rest) :
      Letters command (.switch which :: parts) last (letter :: rest)
  | joined {which : Setting} {first : Char} {value : List Char} (hfirst : first ≠ '=') :
      Letters .validate [.setting which (.ofList (first :: value))] none
        (which.letter :: first :: value)
  | equals {which : Setting} {value : List Char} :
      Letters .validate [.setting which (.ofList value)] none (which.letter :: '=' :: value)
  | next {which : Setting} : Letters .validate [] (some which) [which.letter]

/-- The words that parts are spelled with.  In front of the command there are only switches. -/
inductive Spelled : Command → List Part → List String → Prop
  | nil {command : Command} : Spelled command [] []
  | long {command : Command} {which : Switch} {parts : List Part} {words : List String}
      (hrest : Spelled command parts words) :
      Spelled command (.switch which :: parts) (("--" ++ which.long) :: words)
  | longValue {which : Setting} {value : String} {parts : List Part} {words : List String}
      (hrest : Spelled .validate parts words) :
      Spelled .validate (.setting which value :: parts)
        (("--" ++ which.long ++ "=" ++ value) :: words)
  | longNext {which : Setting} {value : String} {parts : List Part} {words : List String}
      (hplain : LooksPlain value) (hrest : Spelled .validate parts words) :
      Spelled .validate (.setting which value :: parts) (("--" ++ which.long) :: value :: words)
  | short {command : Command} {front parts : List Part} {letter : Char} {letters : List Char}
      {words : List String} (hletters : Letters command front none (letter :: letters))
      (hrest : Spelled command parts words) :
      Spelled command (front ++ parts) (.ofList ('-' :: letter :: letters) :: words)
  | shortNext {front parts : List Part} {which : Setting} {value : String} {letter : Char}
      {letters : List Char} {words : List String}
      (hletters : Letters .validate front (some which) (letter :: letters))
      (hplain : LooksPlain value) (hrest : Spelled .validate parts words) :
      Spelled .validate (front ++ .setting which value :: parts)
        (.ofList ('-' :: letter :: letters) :: value :: words)

/-! ## The look of words -/

theorem ofText_long_switch (which : Switch) :
    Word.ofText ("--" ++ which.long) = .long which.long none := by
  cases which <;> rfl

theorem ofText_long_setting (which : Setting) :
    Word.ofText ("--" ++ which.long) = .long which.long none := by
  cases which <;> rfl

theorem ofText_long_value (which : Setting) (value : String) :
    Word.ofText ("--" ++ which.long ++ "=" ++ value) = .long which.long (some value) := by
  have htext : ("--" ++ which.long ++ "=" ++ value).toList =
      '-' :: '-' :: (which.long.toList ++ '=' :: value.toList) := by
    simp
  have hname : ∀ char ∈ which.long.toList, (char != '=') = true := by
    cases which <;> simp [Setting.long]
  unfold Word.ofText
  split
  · rename_i hdashes
    simp [htext] at hdashes
  · rename_i rest hrest
    rw [htext, List.cons_inj_right, List.cons_inj_right] at hrest
    subst hrest
    simp [List.takeWhile_append_of_pos hname, List.dropWhile_append_of_pos hname]
  · rename_i hshort
    simp_all
  · rename_i hplain
    simp_all

theorem ofText_short {letter : Char} (hletter : letter ≠ '-') (letters : List Char) :
    Word.ofText (.ofList ('-' :: letter :: letters)) = .short (letter :: letters) := by
  unfold Word.ofText
  rw [String.toList_ofList]
  split <;> simp_all

theorem ofText_plain {value : String} (hplain : LooksPlain value) : Word.ofText value = .plain := by
  unfold Word.ofText
  rcases hplain with hhead | rfl
  · split <;> simp_all
  · rfl

theorem Letters.head_ne {command : Command} {parts : List Part} {last : Option Setting}
    {letter : Char} {letters : List Char}
    (hletters : Letters command parts last (letter :: letters)) : letter ≠ '-' := by
  cases hletters with
  | @switch _ which _ _ _ _ hletter _ =>
      rintro rfl
      cases which <;> simp [Switch.letter?] at hletter
  | @joined which | @equals which | @next which => cases which <;> decide

/-! ## One word -/

/-- The state of a reader that has stored everything when this has been given. -/
def Stands (state given : Given) : Prop :=
  Reading.settle state = .ok ((), given) ∧ given.pending = none

namespace Reading

variable {state given : Given} {command : Command}

theorem bind_of_ok {α β : Type} {first : Reading α} {next : α → Reading β} {state state' : Given}
    {value : α} (hfirst : first state = .ok (value, state')) :
    (first >>= next) state = next value state' := by
  simp only [bind, StateT.bind, hfirst, Except.bind]

theorem stands_self (hpending : given.pending = none) : Stands given given := by
  refine ⟨?_, hpending⟩
  obtain ⟨quiet, json, verbose, source, descriptor, mode, pending⟩ := given
  cases hpending
  rfl

theorem stands_add (hstands : Stands state given) (part : Part) :
    Stands (given.add part) (given.add part) :=
  stands_self ((Given.pending_add part).trans hstands.2)

theorem stands_addAll (hstands : Stands state given) (parts : List Part) :
    Stands (given.addAll parts) (given.addAll parts) :=
  stands_self ((Given.pending_addAll parts).trans hstands.2)

theorem store_of_admits {which : Setting} {value : String}
    (hadmits : given.Admits (.setting which value)) :
    store which value given = .ok ((), given.add (.setting which value)) := by
  obtain ⟨hsound, hnone⟩ := hadmits
  obtain ⟨quiet, json, verbose, source, descriptor, mode, pending⟩ := given
  cases which with
  | source | descriptor =>
      cases hnone
      have hvalue : value.isEmpty = false := by
        simpa [Part.IsSound] using hsound
      simp only [store, hvalue, Bool.false_eq_true, if_false]
      rfl
  | mode =>
      cases hnone
      rfl

theorem obey_of_stands (hstands : Stands state given) {which : Switch}
    (hadmits : given.Admits (.switch which)) :
    obey command which state = .ok ((), given.add (.switch which)) := by
  obtain ⟨hsound, hfree⟩ := hadmits
  obtain ⟨hsettle, hpending⟩ := hstands
  rw [obey, bind_of_ok hsettle]
  obtain ⟨quiet, json, verbose, source, descriptor, mode, pending⟩ := given
  rcases hsound with rfl | rfl | rfl
  · cases hfree
    rfl
  · cases hfree
    rfl
  · rfl

theorem begin_value (hstands : Stands state given) {which : Setting} {value : String}
    (hadmits : given.Admits (.setting which value)) :
    begin which (some value) state = .ok ((), given.add (.setting which value)) := by
  unfold begin
  rw [bind_of_ok hstands.1]
  exact store_of_admits hadmits

theorem begin_next (hstands : Stands state given) (which : Setting) :
    begin which none state = .ok ((), { given with pending := some (which, none) }) := by
  unfold begin
  rw [bind_of_ok hstands.1]
  rfl

/-- The value that a setting has waited for is given, though it is not stored yet. -/
theorem stands_pending {which : Setting} {value : String} (hpending : given.pending = none)
    (hadmits : given.Admits (.setting which value)) :
    Stands { given with pending := some (which, some value) }
      (given.add (.setting which value)) := by
  refine ⟨?_, (Given.pending_add _).trans hpending⟩
  have hstore := store_of_admits hadmits
  obtain ⟨quiet, json, verbose, source, descriptor, mode, pending⟩ := given
  cases hpending
  exact hstore

/-! ## Words -/

theorem longName?_switch (command : Command) (which : Switch) :
    longName? command which.long = some (.switch which) := by
  cases command <;> cases which <;> rfl

theorem longName?_setting (which : Setting) :
    longName? .validate which.long = some (.setting which) := by
  cases which <;> rfl

theorem shortName?_switch (command : Command) {which : Switch} {letter : Char}
    (hletter : which.letter? = some letter) : shortName? command letter = some (.switch which) := by
  cases which <;> cases hletter <;> cases command <;> rfl

theorem shortName?_setting (which : Setting) :
    shortName? .validate which.letter = some (.setting which) := by
  cases which <;> rfl

theorem long_switch (hstands : Stands state given) {which : Switch}
    (hadmits : given.Admits (.switch which)) :
    long command which.long none state = .ok ((), given.add (.switch which)) := by
  rw [long, longName?_switch]
  exact obey_of_stands hstands hadmits

theorem letters_switch {which : Switch} {letter : Char} (hletter : which.letter? = some letter)
    (rest : List Char) :
    letters command (letter :: rest) = (do obey command which; letters command rest) := by
  rw [letters.eq_def]
  simp only [shortName?_switch command hletter]

theorem letters_joined (which : Setting) {first : Char} (hfirst : first ≠ '=')
    (value : List Char) :
    letters .validate (which.letter :: first :: value) =
      begin which (some (.ofList (first :: value))) := by
  rw [letters.eq_def]
  simp only [shortName?_setting]
  split
  · rename_i hnil
    cases hnil
  · rename_i hequals
    exact absurd (List.cons_eq_cons.mp hequals).1 hfirst
  · rfl

theorem letters_equals (which : Setting) (value : List Char) :
    letters .validate (which.letter :: '=' :: value) = begin which (some (.ofList value)) := by
  rw [letters.eq_def]
  simp only [shortName?_setting]

theorem letters_next (which : Setting) :
    letters .validate [which.letter] = begin which none := by
  rw [letters.eq_def]
  simp only [shortName?_setting]

/-- Letters add their parts, and the setting at their end waits for its value. -/
theorem letters_spelled {parts : List Part} {last : Option Setting} {chars : List Char}
    (hletters : Letters command parts last chars) (hstands : Stands state given)
    (hadmits : given.AdmitsAll parts) :
    ∃ state', letters command chars state = .ok ((), state') ∧
      (last = none → state' = given.addAll parts ∨ chars = [] ∧ parts = [] ∧ state' = state) ∧
      ∀ which, last = some which →
        state' = { given.addAll parts with pending := some (which, none) } := by
  induction hletters generalizing state given with
  | nil => exact ⟨state, rfl, fun _ => .inr ⟨rfl, rfl, rfl⟩, by simp⟩
  | @switch command which letter parts last rest hletter _ ih =>
      obtain ⟨hfirst, hrest⟩ := hadmits
      obtain ⟨state', hrun, hnone, hsome⟩ := ih (stands_add hstands _) hrest
      refine ⟨state', ?_, fun hlast => .inl ?_, hsome⟩
      · rw [letters_switch hletter, bind_of_ok (obey_of_stands hstands hfirst), hrun]
      · rcases hnone hlast with hstate | ⟨-, rfl, hstate⟩ <;> exact hstate
  | @joined which first value hfirst =>
      refine ⟨_, ?_, fun _ => .inl rfl, by simp⟩
      rw [letters_joined which hfirst value, begin_value hstands hadmits.1]
      rfl
  | @equals which value =>
      refine ⟨_, ?_, fun _ => .inl rfl, by simp⟩
      rw [letters_equals which value, begin_value hstands hadmits.1]
      rfl
  | @next which =>
      refine ⟨{ given with pending := some (which, none) }, ?_, by simp, ?_⟩
      · rw [letters_next which, begin_next hstands which]
      · rintro _ ⟨⟩
        rfl

/-- Letters at whose end no setting waits have added all their parts. -/
theorem letters_complete {parts : List Part} {first : Char} {rest : List Char}
    (hletters : Letters command parts none (first :: rest)) (hstands : Stands state given)
    (hadmits : given.AdmitsAll parts) :
    letters command (first :: rest) state = .ok ((), given.addAll parts) := by
  obtain ⟨state', hrun, hnone, -⟩ := letters_spelled hletters hstands hadmits
  rcases hnone rfl with rfl | ⟨hnil, -⟩
  · exact hrun
  · cases hnil

/-! ## All words -/

theorem behindCommand_long {text name : String} {value : Option String}
    (hlook : Word.ofText text = .long name value) (rest : List String) :
    behindCommand (text :: rest) = (do long .validate name value; behindCommand rest) := by
  rw [behindCommand, hlook]

theorem behindCommand_short {text : String} {chars : List Char}
    (hlook : Word.ofText text = .short chars) (rest : List String) :
    behindCommand (text :: rest) = (do letters .validate chars; behindCommand rest) := by
  rw [behindCommand, hlook]

/-- The argument behind a setting that waits for its value is that value. -/
theorem behindCommand_next {which : Setting} {value : String} (hplain : LooksPlain value)
    (rest : List String) :
    behindCommand (value :: rest) { given with pending := some (which, none) } =
      behindCommand rest { given with pending := some (which, some value) } := by
  rw [behindCommand, ofText_plain hplain]
  rfl

theorem behindCommand_spelled {parts : List Part} {words : List String}
    (hspelled : Spelled .validate parts words) (hstands : Stands state given)
    (hadmits : given.AdmitsAll parts) :
    behindCommand words state = .ok ((), given.addAll parts) := by
  generalize hcommand : Command.validate = command at hspelled
  induction hspelled generalizing state given with
  | nil => exact hstands.1
  | @long _ which parts words _ ih =>
      rw [behindCommand_long (ofText_long_switch which), bind_of_ok (long_switch hstands hadmits.1)]
      exact ih (stands_add hstands _) hadmits.2 hcommand
  | @longValue which value parts words _ ih =>
      rw [behindCommand_long (ofText_long_value which value), long, longName?_setting]
      refine (bind_of_ok (begin_value hstands hadmits.1)).trans ?_
      exact ih (stands_add hstands _) hadmits.2 hcommand
  | @longNext which value parts words hplain _ ih =>
      rw [behindCommand_long (ofText_long_setting which), long, longName?_setting]
      refine (bind_of_ok (begin_next hstands which)).trans ?_
      rw [behindCommand_next hplain]
      exact ih (stands_pending hstands.2 hadmits.1) hadmits.2 hcommand
  | @short _ front parts letter letters words hletters _ ih =>
      subst hcommand
      obtain ⟨hfront, hparts⟩ := Given.admitsAll_append.mp hadmits
      rw [behindCommand_short (ofText_short hletters.head_ne letters),
        bind_of_ok (letters_complete hletters hstands hfront), Given.addAll_append]
      exact ih (stands_addAll hstands front) hparts rfl
  | @shortNext front parts which value letter letters words hletters hplain _ ih =>
      obtain ⟨hfront, hparts⟩ := Given.admitsAll_append.mp hadmits
      obtain ⟨state', hrun, -, hsome⟩ := letters_spelled hletters hstands hfront
      obtain rfl := hsome which rfl
      rw [behindCommand_short (ofText_short hletters.head_ne letters), bind_of_ok hrun,
        behindCommand_next hplain, Given.addAll_append]
      exact ih (stands_pending (stands_addAll hstands front).2 hparts.1) hparts.2 rfl

/-- What does not look like a name is not taken for a command. -/
theorem not_command_of_ofText {text : String} {word : Word} (hlook : Word.ofText text = word)
    (hword : word ≠ .plain) : (text == "validate") = false ∧ (text == "help") = false := by
  constructor
  all_goals
    rw [beq_eq_false_iff_ne]
    rintro rfl
    exact hword hlook.symm

theorem beforeCommand_long {text name : String} {value : Option String}
    (hlook : Word.ofText text = .long name value) (rest : List String) :
    beforeCommand (text :: rest) = (do long .top name value; beforeCommand rest) := by
  obtain ⟨hvalidate, hhelp⟩ := not_command_of_ofText hlook nofun
  rw [beforeCommand.eq_def]
  simp only [hvalidate, hhelp, hlook, Bool.false_eq_true, if_false]

theorem beforeCommand_short {text : String} {chars : List Char}
    (hlook : Word.ofText text = .short chars) (rest : List String) :
    beforeCommand (text :: rest) = (do letters .top chars; beforeCommand rest) := by
  obtain ⟨hvalidate, hhelp⟩ := not_command_of_ofText hlook nofun
  rw [beforeCommand.eq_def]
  simp only [hvalidate, hhelp, hlook, Bool.false_eq_true, if_false]

/-- The arguments in front of the command are switches, and each is obeyed at once. -/
theorem beforeCommand_spelled {parts : List Part} {words : List String}
    (hspelled : Spelled .top parts words) (hpending : given.pending = none)
    (hadmits : given.AdmitsAll parts) (rest : List String) :
    beforeCommand (words ++ "validate" :: rest) given = .ok (rest, given.addAll parts) := by
  generalize hcommand : Command.top = command at hspelled
  induction hspelled generalizing given with
  | nil => rfl
  | @long _ which parts words _ ih =>
      rw [List.cons_append, beforeCommand_long (ofText_long_switch which),
        bind_of_ok (long_switch (stands_self hpending) hadmits.1)]
      exact ih ((Given.pending_add _).trans hpending) hadmits.2 hcommand
  | @short _ front parts letter letters words hletters _ ih =>
      subst hcommand
      obtain ⟨hfront, hparts⟩ := Given.admitsAll_append.mp hadmits
      rw [List.cons_append, beforeCommand_short (ofText_short hletters.head_ne letters),
        bind_of_ok (letters_complete hletters (stands_self hpending) hfront), Given.addAll_append]
      exact ih ((Given.pending_addAll front).trans hpending) hparts rfl
  | longValue | longNext | shortNext => cases hcommand

end Reading

/-! ## The arguments -/

/-- **What a command line asks for** is what its parts ask for.  They may come in any order and
spelling, each at most once but for the one that makes a run more verbose, and only the switches
may also stand in front of the command. -/
theorem Arguments.parse_spelled {front behind : List Part} {before words : List String}
    {environment : Environment} (hfront : Spelled .top front before)
    (hbehind : Spelled .validate behind words)
    (hsound : ∀ part ∈ front ++ behind, part.IsSound)
    (hfrontOnce : front.Pairwise fun part other => ¬part.Clashes other)
    (hbehindOnce : behind.Pairwise fun part other => ¬part.Clashes other)
    (henvironment : environment.source = some "" → valueIn .source behind ≠ none) :
    parse (before ++ "validate" :: words) environment =
      .ok (ofParts front behind environment) := by
  rw [List.forall_mem_append] at hsound
  have hadmits := Given.nothing_admitsAll hsound.2 hbehindOnce
  have hfirst := Reading.beforeCommand_spelled hfront rfl
    (Given.nothing_admitsAll hsound.1 hfrontOnce) words
  have hsecond := Reading.behindCommand_spelled hbehind (Reading.stands_self rfl) hadmits
  simp only [parse, StateT.run, hfirst, hsecond, bind, Except.bind]
  exact ofGiven_parts hsound.2 hadmits henvironment

example :
    (Arguments.parse ["-v", "validate", "-qsapp", "--mode", "schema", "-d=x.yaml"]
      ⟨some "other", none⟩).toOption = some ⟨true, false, 1, "app", "x.yaml", "schema"⟩ := by
  decide +kernel

end MtaCheck.CommandLine
