import MtaCheck.CommandLine.Run

/-!
# How a run ends

A run of a command line ends in one of five ways, which `Ends` lists in the order in which they are
tried: without a mode, without a file, without a descriptor, with issues, or with none.  Every run
ends in one of them (`exists_ends`) and in no other (`Ends.unique`).  What a run leaves is then told
by the three equations `run_of_wrongMode`, `run_of_ok` and `run_of_error`.
-/

namespace MtaCheck.CommandLine

/-! ## How a run ends -/

/-- The names that a mode can be given by. -/
def modeNames : List String := ["", "all", "schema", "project"]

theorem mem_modeNames_iff {name : String} :
    name ∈ modeNames ↔ ∃ mode, Mode.ofName? name = some mode := by
  constructor
  · intro hname
    simp only [modeNames, List.mem_cons, List.not_mem_nil, or_false] at hname
    rcases hname with rfl | rfl | rfl | rfl <;> exact ⟨_, rfl⟩
  · rintro ⟨mode, hmode⟩
    unfold Mode.ofName? at hmode
    split at hmode
    all_goals first | cases hmode; done | simp [modeNames]

theorem ofName?_eq_none {name : String} (hname : name ∉ modeNames) : Mode.ofName? name = none := by
  rw [mem_modeNames_iff, not_exists] at hname
  exact Option.eq_none_iff_forall_ne_some.mpr hname

theorem validateContent_eq_error {schema : CompiledSchema} {disk : Disk} {root : Path}
    {mode : Mode} {content : List UInt8} {error : ValidateError}
    (hvalidate : schema.validateContent disk root mode content = .error error) :
    ∃ cause, error = .noDescriptor cause := by
  unfold CompiledSchema.validateContent at hvalidate
  split at hvalidate
  · cases hvalidate
  · simp only at hvalidate
    split at hvalidate
    · split at hvalidate
      · rename_i cause _
        exact ⟨cause, (Except.error.inj hvalidate).symm⟩
      · cases hvalidate
    · cases hvalidate

namespace Arguments

variable {arguments : Arguments} {disk : Disk}

/-- A run with these arguments gets so far that it validates a content in a mode. -/
structure Reaches (arguments : Arguments) (disk : Disk) (mode : Mode) (content : List UInt8) :
    Prop where
  mode_eq : Mode.ofName? arguments.mode = some mode
  read_eq : disk.read arguments.file = .ok content

/-- How a run ends: without a mode, without a file, or as the validation of the content of
the file ends. -/
inductive Ends (arguments : Arguments) (disk : Disk) : Except ValidateError Unit → Prop
  | wrongMode (hmode : arguments.mode ∉ modeNames) :
      Ends arguments disk (.error (.wrongMode arguments.mode))
  | unreadable {error : FileError} (hmode : arguments.mode ∈ modeNames)
      (hread : disk.read arguments.file = .error error) :
      Ends arguments disk (.error (.unreadable arguments.file error))
  | noDescriptor {mode : Mode} {content : List UInt8} {error : Yaml.ReadError}
      (hreaches : arguments.Reaches disk mode content)
      (hvalidate : CompiledSchema.descriptor.validateContent disk arguments.root mode content =
        .error (.noDescriptor error)) :
      Ends arguments disk (.error (.noDescriptor error))
  | invalid {mode : Mode} {content : List UInt8} {issues : List Issue}
      (hreaches : arguments.Reaches disk mode content)
      (hvalidate : CompiledSchema.descriptor.validateContent disk arguments.root mode content =
        .ok issues) (hissues : issues ≠ []) :
      Ends arguments disk (.error (.invalid arguments.file issues))
  | passed {mode : Mode} {content : List UInt8} (hreaches : arguments.Reaches disk mode content)
      (hvalidate : CompiledSchema.descriptor.validateContent disk arguments.root mode content =
        .ok []) :
      Ends arguments disk (.ok ())

theorem Reaches.mem_modeNames {mode : Mode} {content : List UInt8}
    (hreaches : arguments.Reaches disk mode content) : arguments.mode ∈ modeNames :=
  mem_modeNames_iff.mpr ⟨mode, hreaches.mode_eq⟩

theorem exists_ends (arguments : Arguments) (disk : Disk) :
    ∃ result, arguments.Ends disk result := by
  by_cases hmode : arguments.mode ∈ modeNames
  · obtain ⟨mode, hname⟩ := mem_modeNames_iff.mp hmode
    cases hread : disk.read arguments.file with
    | error error => exact ⟨_, .unreadable hmode hread⟩
    | ok content =>
        have hreaches : arguments.Reaches disk mode content := ⟨hname, hread⟩
        cases hvalidate : CompiledSchema.descriptor.validateContent disk arguments.root mode
            content with
        | error error =>
            obtain ⟨cause, rfl⟩ := validateContent_eq_error hvalidate
            exact ⟨_, .noDescriptor hreaches hvalidate⟩
        | ok issues =>
            by_cases hissues : issues = []
            · subst hissues
              exact ⟨_, .passed hreaches hvalidate⟩
            · exact ⟨_, .invalid hreaches hvalidate hissues⟩
  · exact ⟨_, .wrongMode hmode⟩

/-- The result of the validation that the arguments ask for. -/
def result (arguments : Arguments) (disk : Disk) : Except ValidateError Unit := do
  CompiledSchema.descriptor.validateFile disk arguments.root ⟨arguments.descriptor⟩
    (← Mode.parse arguments.mode)

theorem result_of_mode {mode : Mode} (hmode : Mode.ofName? arguments.mode = some mode) :
    arguments.result disk =
      CompiledSchema.descriptor.validateFile disk arguments.root ⟨arguments.descriptor⟩ mode := by
  rw [result, Mode.parse, hmode]
  rfl

theorem result_of_reaches {mode : Mode} {content : List UInt8}
    (hreaches : arguments.Reaches disk mode content) :
    arguments.result disk =
      match CompiledSchema.descriptor.validateContent disk arguments.root mode content with
      | .error error => .error error
      | .ok [] => .ok ()
      | .ok issues => .error (.invalid arguments.file issues) := by
  have hread : disk.read (arguments.root.join ⟨arguments.descriptor⟩) = .ok content :=
    hreaches.read_eq
  rw [result_of_mode hreaches.mode_eq, CompiledSchema.validateFile]
  simp only [hread]
  rfl

/-- The validation ends as the run does. -/
theorem Ends.result_eq {ending : Except ValidateError Unit} (hends : arguments.Ends disk ending) :
    arguments.result disk = ending := by
  cases hends with
  | wrongMode hmode =>
      rw [result, Mode.parse, ofName?_eq_none hmode]
      rfl
  | unreadable hmode hread =>
      obtain ⟨mode, hname⟩ := mem_modeNames_iff.mp hmode
      have hfile : disk.read (arguments.root.join ⟨arguments.descriptor⟩) = .error _ := hread
      rw [result_of_mode hname, CompiledSchema.validateFile]
      simp only [hfile]
      rfl
  | noDescriptor hreaches hvalidate => rw [result_of_reaches hreaches, hvalidate]
  | passed hreaches hvalidate => rw [result_of_reaches hreaches, hvalidate]
  | @invalid mode content issues hreaches hvalidate hissues =>
      rw [result_of_reaches hreaches, hvalidate]
      cases issues with
      | nil => exact absurd rfl hissues
      | cons issue issues => rfl

theorem Ends.unique {ending other : Except ValidateError Unit}
    (hends : arguments.Ends disk ending) (hother : arguments.Ends disk other) : other = ending :=
  hother.result_eq.symm.trans hends.result_eq

/-! ## What it leaves -/

/-- The line with which a run with progress begins. -/
def opening (arguments : Arguments) : String :=
  line s!"ℹ Validating {arguments.file.text}..."

/-- The line with which a run with progress tells of its success. -/
def success (arguments : Arguments) : String :=
  line s!"✓ Validation of {arguments.file.text} passed"

/-- The line with which a run with progress tells of its mode. -/
def detail (mode : Mode) : String := line s!"  Mode: {mode.name}"

/-- Whether a run writes about its progress. -/
def isTalkative (arguments : Arguments) : Bool := !arguments.quiet && !arguments.json

theorem progress_eq (arguments : Arguments) (lines : List String) :
    arguments.progress lines =
      if arguments.isTalkative then String.join (lines.map line) else "" := by
  rw [progress, isTalkative]
  cases arguments.quiet <;> cases arguments.json <;> rfl

theorem run_of_wrongMode (hmode : arguments.mode ∉ modeNames) :
    arguments.run disk = ⟨1, "", arguments.errors (.wrongMode arguments.mode)⟩ := by
  rw [run, Mode.parse, ofName?_eq_none hmode]

theorem run_of_ok {mode : Mode} (hmode : Mode.ofName? arguments.mode = some mode)
    (hresult : arguments.result disk = .ok ()) :
    arguments.run disk =
      ⟨0, (if arguments.isTalkative then arguments.opening else "") ++
        arguments.report (.ok ()) ++
        (if arguments.isTalkative then arguments.success ++ detail mode else ""), ""⟩ := by
  rw [result_of_mode hmode] at hresult
  rw [run, Mode.parse, hmode]
  simp only [hresult, progress_eq]
  cases arguments.isTalkative <;> simp [String.join, opening, success, detail]

theorem run_of_error {mode : Mode} (hmode : Mode.ofName? arguments.mode = some mode)
    {error : ValidateError} (hresult : arguments.result disk = .error error) :
    arguments.run disk =
      ⟨1, (if arguments.isTalkative then arguments.opening else "") ++
        arguments.report (.error error), arguments.errors error⟩ := by
  rw [result_of_mode hmode] at hresult
  rw [run, Mode.parse, hmode]
  simp only [hresult, progress_eq]
  cases arguments.isTalkative <;> simp [String.join, opening]

/-- A run ends without a mode, or with one and then with success or without. -/
theorem Ends.run_cases {ending : Except ValidateError Unit} (hends : arguments.Ends disk ending) :
    (arguments.mode ∉ modeNames ∧ ending = .error (.wrongMode arguments.mode)) ∨
      ∃ mode, Mode.ofName? arguments.mode = some mode ∧
        (ending = .ok () ∨ ∃ error, ending = .error error) := by
  by_cases hmode : arguments.mode ∈ modeNames
  · obtain ⟨mode, hname⟩ := mem_modeNames_iff.mp hmode
    refine .inr ⟨mode, hname, ?_⟩
    cases ending with
    | ok _ => exact .inl rfl
    | error error => exact .inr ⟨error, rfl⟩
  · exact .inl ⟨hmode, (Ends.wrongMode hmode).unique hends⟩

theorem length_opening_lt (arguments : Arguments) :
    arguments.opening.toList.length < arguments.success.toList.length := by
  have hopening : arguments.opening.toList =
      "ℹ Validating ".toList ++ arguments.file.text.toList ++ "...\n".toList := by
    simp [opening, line, toString]
  have hsuccess : arguments.success.toList =
      "✓ Validation of ".toList ++ arguments.file.text.toList ++ " passed\n".toList := by
    simp [success, line, toString]
  simp only [hopening, hsuccess, List.length_append]
  simp
  omega

/-- The line of success does not occur in the line before it, which is shorter. -/
theorem not_success_infix_opening : ¬arguments.success.toList <:+: arguments.opening.toList := by
  intro hinfix
  have hle := hinfix.length_le
  have hlt := arguments.length_opening_lt
  omega

end Arguments

end MtaCheck.CommandLine
