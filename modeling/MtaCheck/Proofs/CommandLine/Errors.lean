import MtaCheck.CommandLine.Run
import MtaCheck.Proofs.Text.Json

/-!
# What is written about an error

A run that fails writes one error to the other output: with JSON as an object with its text, and
without it as a line, with the cause on a second one.  `Tells` lists the texts.  They tell the four
reasons apart (`RunLaws.reasonOf_eq`): whatever the path, the cause and the issues in them are, the
first letters of a text are those of one reason only (`Reason.front`).
-/

namespace MtaCheck.CommandLine

open Text (Json)

/-- The reason for which a run fails. -/
inductive Reason
  | wrongMode
  | unreadable
  | noDescriptor
  | invalid
deriving DecidableEq

/-- The reason that an error tells of. -/
def reasonOf : ValidateError → Reason
  | .wrongMode _ => .wrongMode
  | .unreadable _ _ => .unreadable
  | .noDescriptor _ => .noDescriptor
  | .invalid _ _ => .invalid

/-- What is told of an error: a text, and that of the cause if there is one. -/
inductive Tells : ValidateError → String → Option String → Prop
  | wrongMode (mode : String) :
      Tells (.wrongMode mode)
        "wrong argument of validation mode. Expected one of [all, schema, project]" none
  | unreadable (path : Path) (error : FileError) :
      Tells (.unreadable path error)
        ("could not read the " ++ path.text ++ " file; the validation failed")
        (some ("Failed to read file '" ++ path.text ++ "': " ++ error.message))
  | noDescriptor (error : Yaml.ReadError) :
      Tells (.noDescriptor error)
        ("validation failed when unmarshalling the descriptor: " ++ error.message)
        (some error.message)
  | invalid (path : Path) (issues : List Issue) :
      Tells (.invalid path issues)
        ("validation of the " ++ path.text ++ " file failed with the following issues: \n" ++
          String.join (issues.map Issue.message)) none

theorem tells (error : ValidateError) : Tells error error.message error.cause? := by
  cases error with
  | wrongMode mode => exact .wrongMode mode
  | unreadable path error => exact .unreadable path error
  | noDescriptor error => exact .noDescriptor error
  | invalid path issues => exact .invalid path issues

/-! ## The texts -/

/-- The lines that tell of an error without JSON. -/
def plainError (message : String) (cause : Option String) : String :=
  "✗ Error: " ++ message ++ (match cause with
    | some cause => "\n  Caused by: " ++ cause
    | none => "") ++ "\n"

namespace Arguments

variable {arguments : Arguments}

theorem errors_of_plain (hjson : arguments.json = false) (error : ValidateError) :
    arguments.errors error = plainError error.message error.cause? := by
  rw [errors, hjson, line, errorText]
  cases error.cause? <;> simp [plainError, String.join]

theorem parse?_errors_of_json (hjson : arguments.json = true) (error : ValidateError) :
    Json.parse? (arguments.errors error) =
      some (.object [("message", .text error.message), ("status", .text "error")]) := by
  rw [errors, hjson, if_pos rfl, line]
  exact Json.parse?_render_line _ _

end Arguments

/-! ## What they tell apart -/

/-- How the text of an error begins. -/
def Reason.front : Reason → String
  | .wrongMode => "wrong argume"
  | .unreadable => "could not re"
  | .noDescriptor => "validation f"
  | .invalid => "validation o"

/-- All fronts have the same length, so that one of them is no part of another. -/
theorem Reason.front_append {reason other : Reason} {rest rest' : String}
    (happend : reason.front ++ rest = other.front ++ rest') : reason = other := by
  have hlength : ∀ reason : Reason, reason.front.toList.length = 12 := by
    intro reason
    cases reason <;> decide +kernel
  have htoList : reason.front.toList ++ rest.toList = other.front.toList ++ rest'.toList := by
    rw [← String.toList_append, happend, String.toList_append]
  have hfront := List.append_inj_left htoList ((hlength reason).trans (hlength other).symm)
  revert hfront
  cases reason <;> cases other <;> decide +kernel

theorem Tells.front {error : ValidateError} {message : String} {cause : Option String}
    (htells : Tells error message cause) : ∃ rest, message = (reasonOf error).front ++ rest := by
  cases htells with
  | wrongMode mode =>
      rw [reasonOf]
      exact ⟨"nt of validation mode. Expected one of [all, schema, project]", by decide +kernel⟩
  | unreadable path error =>
      rw [reasonOf]
      have hfront : "could not read the " = Reason.front .unreadable ++ "ad the " := by
        decide +kernel
      exact ⟨_, by rw [hfront, String.append_assoc, String.append_assoc]⟩
  | noDescriptor error =>
      rw [reasonOf]
      have hfront : "validation failed when unmarshalling the descriptor: " =
          Reason.front .noDescriptor ++ "ailed when unmarshalling the descriptor: " := by
        decide +kernel
      exact ⟨_, by rw [hfront, String.append_assoc]⟩
  | invalid path issues =>
      rw [reasonOf]
      have hfront : "validation of the " = Reason.front .invalid ++ "f the " := by
        decide +kernel
      exact ⟨_, by rw [hfront, String.append_assoc, String.append_assoc, String.append_assoc]⟩

section Reasons

variable {error error' : ValidateError} {message message' : String} {cause cause' : Option String}

theorem reasonOf_eq_of_message (htells : Tells error message cause)
    (htells' : Tells error' message' cause') (hmessage : message = message') :
    reasonOf error = reasonOf error' := by
  obtain ⟨rest, rfl⟩ := htells.front
  obtain ⟨rest', rfl⟩ := htells'.front
  exact Reason.front_append hmessage

/-- A text begins what is written, so the cause behind it does not count. -/
theorem reasonOf_eq_of_plainError (htells : Tells error message cause)
    (htells' : Tells error' message' cause')
    (hplain : plainError message cause = plainError message' cause') :
    reasonOf error = reasonOf error' := by
  obtain ⟨rest, rfl⟩ := htells.front
  obtain ⟨rest', rfl⟩ := htells'.front
  simp only [plainError, String.append_assoc, String.append_right_inj] at hplain
  exact Reason.front_append hplain

end Reasons

end MtaCheck.CommandLine
