import MtaCheck.Issue

/-!
# The words of findings

What each kind of finding says, with the place and the values put into their gaps.
These equations stand in for the definition of `Finding.message` wherever a message
is spelled out.
-/

namespace MtaCheck

/-- The text of an issue that is a finding is the text of the finding. -/
theorem Issue.message_finding (location : Location) (fault : Finding) :
    (Issue.finding location fault).message = fault.message location := rfl

namespace Finding

variable (location : Location)

theorem message_missing :
    missing.message location =
      "Missing required property <" ++ location.leaf?.getD "" ++ "> in <"
        ++ location.parent.display ++ ">" := rfl

theorem message_wrongKind (demand : Demand) :
    (wrongKind demand).message location =
      "the " ++ location.display ++ " property must be " ++ demand.words := rfl

theorem message_patternMismatch (value pattern : String) :
    (patternMismatch value pattern).message location =
      "the " ++ location.display ++ " property with the " ++ value
        ++ " value does not match the " ++ pattern ++ " pattern" := by
  have hmessage : (patternMismatch value pattern).message location =
      "the " ++ location.display ++ " property with the " ++ value ++ " value "
        ++ ("does not match the " ++ pattern ++ " pattern") := rfl
  have hwords : " value does not match the " = " value " ++ "does not match the " := by decide
  rw [hmessage, hwords]
  simp only [String.append_assoc]

/-- Of the allowed values only the first few are quoted. -/
theorem message_notAllowed (value : String) (allowed : List String) :
    (notAllowed value allowed).message location =
      "the " ++ location.display ++ " property with the " ++ value
        ++ " value is not one of the expected values ["
        ++ ",".intercalate (allowed.take listedValues) ++ "]" := by
  have hmessage : (notAllowed value allowed).message location =
      "the " ++ location.display ++ " property with the " ++ value ++ " value "
        ++ ("is not one of the expected values ["
          ++ ",".intercalate (allowed.take listedValues) ++ "]") := rfl
  have hwords : " value is not one of the expected values [" =
      " value " ++ "is not one of the expected values [" := by decide
  rw [hmessage, hwords]
  simp only [String.append_assoc]

end Finding

end MtaCheck
