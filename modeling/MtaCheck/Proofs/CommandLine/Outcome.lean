import MtaCheck.Proofs.CommandLine.Endings
import MtaCheck.Proofs.CommandLine.Errors
import MtaCheck.Proofs.Files.Writing
import MtaCheck.Proofs.Validation.ModuleDirectories
import MtaCheck.Proofs.Validation.Readable

/-!
# What is left of a run

`RunLaws` says what the exit code and both outputs are after a run that ends in one of the five ways
of `Ends`, for every setting of the switches: the report with JSON, the progress without it, nothing
if the run is quiet, and the text of the error.  The main result, `runLaws_run`, is that these laws
hold of every run; `RunLaws.reasonOf_eq` reads the reason of a failure off its text.  Two runs on a
small project show most of the laws at work.
-/

namespace MtaCheck.CommandLine

open Text (Json)

/-! ## The laws of a run -/

/-- The exit code of a run that ends like this. -/
def exitCode : Except ValidateError Unit → Nat
  | .ok () => 0
  | .error _ => 1

/-- What a run that ends like this writes about what has gone wrong. -/
def Arguments.errorsOf (arguments : Arguments) : Except ValidateError Unit → String
  | .ok () => ""
  | .error error => arguments.errors error

/-- What a run of some arguments on a disk leaves, if it ends like this. -/
structure RunLaws (arguments : Arguments) (disk : Disk) (ending : Except ValidateError Unit)
    (outcome : Outcome) : Prop where
  /-- The exit code is zero if the run ends with success, and one if not. -/
  code_eq : outcome.code = exitCode ending
  /-- The run ends with success just if its mode is known, its file can be read, and the
  validation of the content finds nothing. -/
  code_zero_iff : outcome.code = 0 ↔ arguments.mode ∈ modeNames ∧ ∃ mode content,
    arguments.Reaches disk mode content ∧
      CompiledSchema.descriptor.validateContent disk arguments.root mode content = .ok []
  /-- What has gone wrong is written to the other output. -/
  errors_eq : outcome.errors = arguments.errorsOf ending
  /-- A run that ends with success writes nothing there. -/
  errors_empty : ending = .ok () → outcome.errors = ""
  /-- Without JSON an error is told of in a line with its text, and one with its cause. -/
  errors_plain : arguments.json = false → ∀ {error}, ending = .error error →
    ∃ message cause, Tells error message cause ∧
      outcome.errors = plainError message cause
  /-- With JSON an error is an object with its text. -/
  errors_json : arguments.json = true → ∀ {error}, ending = .error error →
    ∃ message cause, Tells error message cause ∧
      Json.parse? outcome.errors =
        some (.object [("message", .text message), ("status", .text "error")])
  /-- With JSON nothing is written unless there are issues or none. -/
  json_silent : arguments.json = true →
    (¬∃ mode content issues, arguments.Reaches disk mode content ∧
      CompiledSchema.descriptor.validateContent disk arguments.root mode content = .ok issues) →
    outcome.output = ""
  /-- With JSON the issues of the content are written, in their order and with their texts,
  in one document. -/
  json_report : arguments.json = true → ∀ {mode content issues},
    arguments.Reaches disk mode content →
    CompiledSchema.descriptor.validateContent disk arguments.root mode content = .ok issues →
    Json.parse? outcome.output = some (.object
      [("descriptor", .text arguments.file.text),
        ("issues", .array (issues.map fun issue => .object [("message", .text issue.message)])),
        ("status", .text (if outcome.code = 0 then "success" else "error"))])
  /-- A quiet run without JSON writes nothing. -/
  quiet_silent : arguments.quiet = true → arguments.json = false → outcome.output = ""
  /-- A run with progress tells of its success just if it has any. -/
  success_iff : arguments.quiet = false → arguments.json = false →
    (arguments.success.toList <:+: outcome.output.toList ↔ outcome.code = 0)
  /-- The whole output of a run with progress that ends with success. -/
  success_output : arguments.quiet = false → arguments.json = false → outcome.code = 0 →
    ∃ mode, Mode.ofName? arguments.mode = some mode ∧
      outcome.output = arguments.opening ++ arguments.success ++ Arguments.detail mode
  /-- The whole output of a run with progress that does not. -/
  failure_output : arguments.quiet = false → arguments.json = false → outcome.code ≠ 0 →
    outcome.output = if arguments.mode ∈ modeNames then arguments.opening else ""

namespace Arguments

variable {arguments : Arguments} {disk : Disk} {ending : Except ValidateError Unit}

theorem code_eq_of_ends (hends : arguments.Ends disk ending) :
    (arguments.run disk).code = exitCode ending := by
  rcases hends.run_cases with ⟨hmode, rfl⟩ | ⟨mode, hmode, rfl | ⟨error, rfl⟩⟩
  · rw [run_of_wrongMode hmode, exitCode]
  · rw [run_of_ok hmode hends.result_eq, exitCode]
  · rw [run_of_error hmode hends.result_eq, exitCode]

theorem errors_eq_of_ends (hends : arguments.Ends disk ending) :
    (arguments.run disk).errors = arguments.errorsOf ending := by
  rcases hends.run_cases with ⟨hmode, rfl⟩ | ⟨mode, hmode, rfl | ⟨error, rfl⟩⟩
  · rw [run_of_wrongMode hmode, errorsOf]
  · rw [run_of_ok hmode hends.result_eq, errorsOf]
  · rw [run_of_error hmode hends.result_eq, errorsOf]

theorem errors_eq_empty_of_ends (hends : arguments.Ends disk ending) (hok : ending = .ok ()) :
    (arguments.run disk).errors = "" := by
  rw [errors_eq_of_ends hends, hok, errorsOf]

theorem errors_eq_plainError (hends : arguments.Ends disk ending)
    (hjson : arguments.json = false) {error : ValidateError} (herror : ending = .error error) :
    ∃ message cause, Tells error message cause ∧
      (arguments.run disk).errors = plainError message cause := by
  refine ⟨_, _, tells error, ?_⟩
  rw [errors_eq_of_ends hends, herror, errorsOf, errors_of_plain hjson]

theorem parse?_errors_of_ends (hends : arguments.Ends disk ending)
    (hjson : arguments.json = true) {error : ValidateError} (herror : ending = .error error) :
    ∃ message cause, Tells error message cause ∧
      Json.parse? (arguments.run disk).errors =
        some (.object [("message", .text message), ("status", .text "error")]) := by
  refine ⟨_, _, tells error, ?_⟩
  rw [errors_eq_of_ends hends, herror, errorsOf, parse?_errors_of_json hjson]

theorem code_eq_zero_iff : (arguments.run disk).code = 0 ↔
    arguments.mode ∈ modeNames ∧ ∃ mode content, arguments.Reaches disk mode content ∧
      CompiledSchema.descriptor.validateContent disk arguments.root mode content = .ok [] := by
  obtain ⟨ending, hends⟩ := exists_ends arguments disk
  rw [code_eq_of_ends hends]
  constructor
  · intro hzero
    cases hends with
    | passed hreaches hvalidate => exact ⟨hreaches.mem_modeNames, _, _, hreaches, hvalidate⟩
    | _ => cases hzero
  · rintro ⟨-, mode, content, hreaches, hvalidate⟩
    obtain rfl := (Ends.passed hreaches hvalidate).unique hends
    rfl

theorem output_eq_empty_of_json (hjson : arguments.json = true)
    (hnone : ¬∃ mode content issues, arguments.Reaches disk mode content ∧
      CompiledSchema.descriptor.validateContent disk arguments.root mode content = .ok issues) :
    (arguments.run disk).output = "" := by
  obtain ⟨ending, hends⟩ := exists_ends arguments disk
  have htalk : arguments.isTalkative = false := by
    rw [isTalkative, hjson]
    exact Bool.and_false _
  cases hends with
  | wrongMode hmode => rw [run_of_wrongMode hmode]
  | unreadable hmode hread =>
      obtain ⟨mode, hname⟩ := mem_modeNames_iff.mp hmode
      rw [run_of_error hname (Ends.unreadable hmode hread).result_eq, htalk]
      rfl
  | noDescriptor hreaches hvalidate =>
      rw [run_of_error hreaches.mode_eq (Ends.noDescriptor hreaches hvalidate).result_eq, htalk]
      rfl
  | invalid hreaches hvalidate | passed hreaches hvalidate =>
      exact absurd ⟨_, _, _, hreaches, hvalidate⟩ hnone

theorem parse?_output_of_json (hjson : arguments.json = true) {mode : Mode}
    {content : List UInt8} {issues : List Issue} (hreaches : arguments.Reaches disk mode content)
    (hvalidate : CompiledSchema.descriptor.validateContent disk arguments.root mode content =
      .ok issues) :
    Json.parse? (arguments.run disk).output = some (.object
      [("descriptor", .text arguments.file.text),
        ("issues", .array (issues.map fun issue => .object [("message", .text issue.message)])),
        ("status", .text (if (arguments.run disk).code = 0 then "success" else "error"))]) := by
  have htalk : arguments.isTalkative = false := by
    rw [isTalkative, hjson]
    exact Bool.and_false _
  have hwritten : Json.parse? (report.write arguments issues) =
      some (reportValue arguments.file issues) := by
    rw [report.write, if_pos hjson]
    exact Json.parse?_render_line _ _
  by_cases hissues : issues = []
  · subst hissues
    rw [run_of_ok hreaches.mode_eq (Ends.passed hreaches hvalidate).result_eq, htalk]
    simpa [report, reportValue, Issue.list] using hwritten
  · rw [run_of_error hreaches.mode_eq (Ends.invalid hreaches hvalidate hissues).result_eq, htalk]
    have hstatus : issues.isEmpty = false := by simpa using hissues
    simpa [report, reportValue, hstatus, Issue.list] using hwritten

/-- Without JSON there is no report, and progress only where a mode is known. -/
theorem output_eq_of_ends (hjson : arguments.json = false) (hends : arguments.Ends disk ending) :
    (arguments.mode ∉ modeNames ∧ (arguments.run disk).output = "") ∨
      ∃ mode, Mode.ofName? arguments.mode = some mode ∧
        (arguments.run disk).output =
          if arguments.isTalkative then
            match ending with
            | .ok () => arguments.opening ++ arguments.success ++ detail mode
            | .error _ => arguments.opening
          else "" := by
  have hreport : ∀ result, arguments.report result = "" := by
    intro result
    unfold report report.write
    rw [hjson]
    split <;> rfl
  rcases hends.run_cases with ⟨hmode, rfl⟩ | ⟨mode, hmode, rfl | ⟨error, rfl⟩⟩
  · exact .inl ⟨hmode, by rw [run_of_wrongMode hmode]⟩
  · refine .inr ⟨mode, hmode, ?_⟩
    rw [run_of_ok hmode hends.result_eq]
    cases arguments.isTalkative <;> simp [hreport, String.append_assoc]
  · refine .inr ⟨mode, hmode, ?_⟩
    rw [run_of_error hmode hends.result_eq]
    simp [hreport]

theorem output_eq_empty_of_quiet (hquiet : arguments.quiet = true)
    (hjson : arguments.json = false) : (arguments.run disk).output = "" := by
  obtain ⟨ending, hends⟩ := exists_ends arguments disk
  have htalk : arguments.isTalkative = false := by
    rw [isTalkative, hquiet]
    rfl
  rcases output_eq_of_ends hjson hends with ⟨-, hempty⟩ | ⟨mode, -, houtput⟩
  · exact hempty
  · rw [houtput, htalk]
    rfl

section Talkative

variable (hquiet : arguments.quiet = false) (hjson : arguments.json = false)

include hquiet hjson

theorem isTalkative_eq_true : arguments.isTalkative = true := by
  rw [isTalkative, hquiet, hjson]
  rfl

theorem output_of_code_eq_zero (hzero : (arguments.run disk).code = 0) :
    ∃ mode, Mode.ofName? arguments.mode = some mode ∧
      (arguments.run disk).output = arguments.opening ++ arguments.success ++ detail mode := by
  obtain ⟨hmode, _, _, hreaches, hvalidate⟩ := code_eq_zero_iff.mp hzero
  rcases output_eq_of_ends hjson (Ends.passed hreaches hvalidate) with
    ⟨hunknown, -⟩ | ⟨mode, hname, houtput⟩
  · exact absurd hmode hunknown
  · rw [if_pos (isTalkative_eq_true hquiet hjson)] at houtput
    exact ⟨mode, hname, houtput⟩

theorem output_of_code_ne_zero (hcode : (arguments.run disk).code ≠ 0) :
    (arguments.run disk).output =
      if arguments.mode ∈ modeNames then arguments.opening else "" := by
  obtain ⟨ending, hends⟩ := exists_ends arguments disk
  rcases output_eq_of_ends hjson hends with ⟨hunknown, hempty⟩ | ⟨mode, hname, houtput⟩
  · rw [if_neg hunknown, hempty]
  · rw [if_pos (mem_modeNames_iff.mpr ⟨mode, hname⟩), houtput,
      if_pos (isTalkative_eq_true hquiet hjson)]
    rw [code_eq_of_ends hends] at hcode
    cases ending with
    | ok _ => exact absurd rfl hcode
    | error error => rfl

theorem success_infix_output_iff :
    arguments.success.toList <:+: (arguments.run disk).output.toList ↔
      (arguments.run disk).code = 0 := by
  constructor
  · intro hinfix
    refine Decidable.byContradiction fun hcode => ?_
    rw [output_of_code_ne_zero hquiet hjson hcode] at hinfix
    split at hinfix
    · exact arguments.not_success_infix_opening hinfix
    · have hle := hinfix.length_le
      have hlt := arguments.length_opening_lt
      simp at hle
      simp [hle] at hlt
  · intro hzero
    obtain ⟨mode, -, houtput⟩ := output_of_code_eq_zero hquiet hjson hzero
    exact ⟨arguments.opening.toList, (detail mode).toList, by simp [houtput]⟩

end Talkative

/-- The laws hold of every way in which a run of these arguments ends. -/
theorem Ends.runLaws (hends : arguments.Ends disk ending) :
    RunLaws arguments disk ending (arguments.run disk) where
  code_eq := code_eq_of_ends hends
  code_zero_iff := code_eq_zero_iff
  errors_eq := errors_eq_of_ends hends
  errors_empty := errors_eq_empty_of_ends hends
  errors_plain := fun hjson _ herror => errors_eq_plainError hends hjson herror
  errors_json := fun hjson _ herror => parse?_errors_of_ends hends hjson herror
  json_silent := output_eq_empty_of_json
  json_report := fun hjson _ _ _ hreaches hvalidate =>
    parse?_output_of_json hjson hreaches hvalidate
  quiet_silent := output_eq_empty_of_quiet
  success_iff := success_infix_output_iff
  success_output := output_of_code_eq_zero
  failure_output := output_of_code_ne_zero

end Arguments

/-- The reason of a failure can be read off what is written about it: runs that write the same, both
with JSON or both without, have failed for the same reason. -/
theorem RunLaws.reasonOf_eq {arguments arguments' : Arguments} {disk disk' : Disk}
    {error error' : ValidateError} {outcome outcome' : Outcome}
    (hlaws : RunLaws arguments disk (.error error) outcome)
    (hlaws' : RunLaws arguments' disk' (.error error') outcome')
    (hjson : arguments.json = arguments'.json) (herrors : outcome.errors = outcome'.errors) :
    reasonOf error = reasonOf error' := by
  cases hset : arguments.json with
  | false =>
      obtain ⟨message, cause, htells, hplain⟩ := hlaws.errors_plain hset rfl
      obtain ⟨message', cause', htells', hplain'⟩ := hlaws'.errors_plain (hjson ▸ hset) rfl
      rw [herrors, hplain'] at hplain
      exact reasonOf_eq_of_plainError htells htells' hplain.symm
  | true =>
      obtain ⟨message, cause, htells, hparse⟩ := hlaws.errors_json hset rfl
      obtain ⟨message', cause', htells', hparse'⟩ := hlaws'.errors_json (hjson ▸ hset) rfl
      rw [herrors, hparse'] at hparse
      simp only [Option.some_inj, Json.object.injEq, List.cons.injEq, Prod.mk.injEq,
        Json.text.injEq, true_and, and_true] at hparse
      exact reasonOf_eq_of_message htells htells' hparse.symm

/-- A run of a command line that its parser accepts ends in just one way, and leaves what
the laws say of it: the exit code, the text of the error, and the report or the progress that
the switches ask for. -/
theorem runLaws_run (words : List String) (environment : Environment) (disk : Disk)
    (arguments : Arguments) (hparse : Arguments.parse words environment = .ok arguments) :
    ∃ ending, arguments.Ends disk ending ∧
      (∀ other, arguments.Ends disk other → other = ending) ∧
      RunLaws arguments disk ending (run words environment disk) := by
  obtain ⟨ending, hends⟩ := Arguments.exists_ends arguments disk
  have hrun : run words environment disk = arguments.run disk := by
    rw [run, hparse]
  exact ⟨ending, hends, fun other => hends.unique, hrun ▸ hends.runLaws⟩

/-! ## Two runs on a project -/

/-- A project that holds the directory of a module and nothing else. -/
def emptyProject : FileTree := (FileTree.makeDirectory ⟨.directory [], []⟩ ⟨"proj/app/ui"⟩).1

/-- The project with a descriptor of this module and of another one. -/
def demoProject : FileTree := (emptyProject.write ⟨"proj/mta.yaml"⟩ twoModules.toUTF8.toList).1

/-- An operation that was carried out to its end. -/
theorem eq_of_snd {result : FileTree × Bool} (hdone : result.2 = true) :
    result = (result.1, true) := Prod.ext rfl hdone

theorem isDirectory_emptyProject : emptyProject.isDirectory ⟨"proj/app/ui"⟩ = true :=
  have hmade : (FileTree.makeDirectory ⟨.directory [], []⟩ ⟨"proj/app/ui"⟩).2 = true := by
    decide +kernel
  FileTree.isDirectory_of_makeDirectory (eq_of_snd hmade) (by decide +kernel)

theorem demoProject_spec : emptyProject.Keeps demoProject ∧
    demoProject.read ⟨"proj/mta.yaml"⟩ = .ok twoModules.toUTF8.toList :=
  have hwritten : (emptyProject.write ⟨"proj/mta.yaml"⟩ twoModules.toUTF8.toList).2 = true := by
    decide +kernel
  FileTree.read_of_write (eq_of_snd hwritten)

theorem moduleIssues_demoProject :
    moduleIssues demoProject.disk ⟨"proj"⟩ [⟨"ui", "app/ui"⟩, ⟨"srv", ""⟩] =
      [.moduleNotFound "srv" "srv"] := by
  have hui : demoProject.disk.isDirectory (Module.location ⟨"proj"⟩ ⟨"ui", "app/ui"⟩) = true := by
    have hlocation : Module.location ⟨"proj"⟩ ⟨"ui", "app/ui"⟩ = ⟨"proj/app/ui"⟩ := by
      decide +kernel
    rw [hlocation, FileTree.isDirectory_disk]
    exact demoProject_spec.1.isDirectory isDirectory_emptyProject
  have hsrv : demoProject.disk.isDirectory (Module.location ⟨"proj"⟩ ⟨"srv", ""⟩) = false := by
    decide +kernel
  have hpath : (⟨"srv", ""⟩ : Module).relativePath = "srv" := by
    decide +kernel
  simp only [moduleIssues, List.filterMap_cons, hui, hsrv, if_true, Bool.false_eq_true, if_false,
    hpath, List.filterMap_nil]

theorem validateContent_demoProject :
    CompiledSchema.descriptor.validateContent demoProject.disk ⟨"proj"⟩ .schema
        twoModules.toUTF8.toList = .ok [] ∧
      CompiledSchema.descriptor.validateContent demoProject.disk ⟨"proj"⟩ .all
        twoModules.toUTF8.toList = .ok [.moduleNotFound "srv" "srv"] := by
  have hboth := CompiledSchema.validateContent_of_accepted CompiledSchema.isValid_descriptor
    accepted_twoModules parse_twoModules demoProject.disk ⟨"proj"⟩
  rwa [moduleIssues_demoProject] at hboth

/-- A command line that asks for all that there is to say of the project, in JSON. -/
def allWords : List String := ["validate", "--json", "-s", "proj", "--mode=all"]

/-- What it asks for. -/
def allArguments : Arguments := ⟨false, true, 0, "proj", "mta.yaml", "all"⟩

/-- A command line that asks for the schema only. -/
def schemaWords : List String := ["-v", "validate", "-sproj", "-m", "schema"]

/-- What it asks for. -/
def schemaArguments : Arguments := ⟨false, false, 1, "proj", "mta.yaml", "schema"⟩

theorem parse_words :
    (Arguments.parse allWords ⟨none, none⟩).toOption = some allArguments ∧
      (Arguments.parse schemaWords ⟨none, none⟩).toOption = some schemaArguments := by
  decide +kernel

theorem eq_ok_of_toOption {ε α : Type} {result : Except ε α} {value : α}
    (hresult : result.toOption = some value) : result = .ok value := by
  cases result with
  | error error => cases hresult
  | ok found => exact congrArg _ (Option.some_inj.mp hresult)

theorem outcome_eq {outcome : Outcome} {code : Nat} {output errors : String}
    (hcode : outcome.code = code) (houtput : outcome.output = output)
    (herrors : outcome.errors = errors) : outcome = ⟨code, output, errors⟩ := by
  subst hcode houtput herrors
  rfl

theorem reaches_demoProject (arguments : Arguments)
    (hfile : arguments.file = ⟨"proj/mta.yaml"⟩) {mode : Mode}
    (hmode : Mode.ofName? arguments.mode = some mode) :
    arguments.Reaches demoProject.disk mode twoModules.toUTF8.toList := by
  refine ⟨hmode, ?_⟩
  rw [hfile, FileTree.read_disk]
  exact demoProject_spec.2

/-- Two runs on a project in which one of two directories is missing.  The one reports this in both
outputs, and the other, which does not look at the project, passes. -/
theorem runLaws_run_demoProject :
    (Arguments.parse allWords ⟨none, none⟩ = .ok allArguments ∧
      ∃ ending, allArguments.Ends demoProject.disk ending ∧
        (∀ other, allArguments.Ends demoProject.disk other → other = ending) ∧
        RunLaws allArguments demoProject.disk ending
          (run allWords ⟨none, none⟩ demoProject.disk) ∧
        ending = .error (.invalid ⟨"proj/mta.yaml"⟩ [.moduleNotFound "srv" "srv"]) ∧
        (run allWords ⟨none, none⟩ demoProject.disk).code = 1 ∧
        Json.parse? (run allWords ⟨none, none⟩ demoProject.disk).output = some (.object
          [("descriptor", .text "proj/mta.yaml"),
            ("issues", .array [.object [("message",
              .text "Module <srv> not found in project. Expected path: <srv>")]]),
            ("status", .text "error")]) ∧
        Json.parse? (run allWords ⟨none, none⟩ demoProject.disk).errors = some (.object
          [("message", .text ("validation of the proj/mta.yaml file failed with the following " ++
              "issues: \nModule <srv> not found in project. Expected path: <srv>")),
            ("status", .text "error")])) ∧
    (Arguments.parse schemaWords ⟨none, none⟩ = .ok schemaArguments ∧
      ∃ ending, schemaArguments.Ends demoProject.disk ending ∧
        (∀ other, schemaArguments.Ends demoProject.disk other → other = ending) ∧
        RunLaws schemaArguments demoProject.disk ending
          (run schemaWords ⟨none, none⟩ demoProject.disk) ∧
        ending = .ok () ∧
        run schemaWords ⟨none, none⟩ demoProject.disk =
          ⟨0, "ℹ Validating proj/mta.yaml...\n✓ Validation of proj/mta.yaml passed\n" ++
            "  Mode: schema\n", ""⟩) := by
  have hall := eq_ok_of_toOption parse_words.1
  have hschema := eq_ok_of_toOption parse_words.2
  have hallFile : allArguments.file = ⟨"proj/mta.yaml"⟩ := by
    decide +kernel
  have hschemaFile : schemaArguments.file = ⟨"proj/mta.yaml"⟩ := by
    decide +kernel
  constructor
  · obtain ⟨ending, hends, hunique, hlaws⟩ :=
      runLaws_run allWords ⟨none, none⟩ demoProject.disk allArguments hall
    have hreaches : allArguments.Reaches demoProject.disk .all twoModules.toUTF8.toList :=
      reaches_demoProject allArguments hallFile rfl
    have hinvalid : allArguments.Ends demoProject.disk
        (.error (.invalid ⟨"proj/mta.yaml"⟩ [.moduleNotFound "srv" "srv"])) :=
      hallFile ▸ .invalid hreaches validateContent_demoProject.2 (List.cons_ne_nil _ _)
    obtain rfl := hunique _ hinvalid
    have hcode : (run allWords ⟨none, none⟩ demoProject.disk).code = 1 := hlaws.code_eq
    refine ⟨hall, _, hends, hunique, hlaws, rfl, hcode, ?_, ?_⟩
    · have hreport := hlaws.json_report rfl hreaches validateContent_demoProject.2
      rw [hcode, hallFile] at hreport
      exact hreport
    · obtain ⟨message, cause, htells, herrors⟩ := hlaws.errors_json rfl rfl
      cases htells
      have hmessage : "validation of the " ++ "proj/mta.yaml" ++
          " file failed with the following issues: \n" ++
          String.join ([Issue.moduleNotFound "srv" "srv"].map Issue.message) =
          "validation of the proj/mta.yaml file failed with the following " ++
            "issues: \nModule <srv> not found in project. Expected path: <srv>" := by
        decide +kernel
      rw [herrors, hmessage]
  · obtain ⟨ending, hends, hunique, hlaws⟩ :=
      runLaws_run schemaWords ⟨none, none⟩ demoProject.disk schemaArguments hschema
    have hreaches : schemaArguments.Reaches demoProject.disk .schema twoModules.toUTF8.toList :=
      reaches_demoProject schemaArguments hschemaFile rfl
    obtain rfl := hunique _ (.passed hreaches validateContent_demoProject.1)
    refine ⟨hschema, _, hends, hunique, hlaws, rfl, ?_⟩
    have hcode : (run schemaWords ⟨none, none⟩ demoProject.disk).code = 0 := hlaws.code_eq
    obtain ⟨mode, hmode, houtput⟩ := hlaws.success_output rfl rfl hcode
    obtain rfl : Mode.schema = mode := Option.some_inj.mp hmode
    have htext : schemaArguments.opening ++ schemaArguments.success ++ Arguments.detail .schema =
        "ℹ Validating proj/mta.yaml...\n✓ Validation of proj/mta.yaml passed\n" ++
          "  Mode: schema\n" := by
      decide +kernel
    exact outcome_eq hcode (houtput.trans htext) (hlaws.errors_empty rfl)

end MtaCheck.CommandLine
