/-
Suggestions: a test was assigned to an investigator for a reason. What a suggestion may hold to be
stored, and its form in JSON.
-/
import Investigations.Identity

namespace Investigations

open Json

/-- The test `testNameId` was assigned to `investigatorId`, for `reason`. -/
structure Suggestion where
  testNameId : String
  investigatorId : String
  reason : String
deriving DecidableEq, Repr

namespace Suggestion

/-! ## What can be stored -/

/-- A character that must not stand in an id: it would end the field or the line. -/
def breaksId (c : Char) : Bool :=
  c = '\t' || isLineBreak c

/-- The field that keeps a suggestion from being stored. -/
inductive Defect where
  | testNameId
  | investigatorId
  | reason
deriving DecidableEq, Repr

/-- What is wrong with the field. -/
def Defect.message : Defect → String
  | .testNameId => "test name id contains a tab or line break"
  | .investigatorId => "investigator id contains a tab or line break"
  | .reason => "reason contains a line break"

/-- The first field, in the order of a line, that would break the line. A reason comes last, so it
may hold tabs. -/
def defect? (suggestion : Suggestion) : Option Defect :=
  if suggestion.testNameId.toList.any breaksId then some .testNameId
  else if suggestion.investigatorId.toList.any breaksId then some .investigatorId
  else if suggestion.reason.toList.any isLineBreak then some .reason
  else none

/-! ## JSON -/

/-- The suggestion as JSON. -/
def toJson (suggestion : Suggestion) : Value :=
  .ofFields [("testNameId", .ofText suggestion.testNameId),
    ("investigatorId", .ofText suggestion.investigatorId), ("reason", .ofText suggestion.reason)]

/-- The suggestion that a JSON value stands for: an object, in which other fields do not count, or
an array with the three fields in order. -/
def ofJson? : Value → Option Suggestion
  | .object fields => do
    guard (fields.all fun entry => entry.1.isSome)
    let testNameId ← (← (← Value.field? "testNameId" fields)).text?
    let investigatorId ← (← (← Value.field? "investigatorId" fields)).text?
    let reason ← (← (← Value.field? "reason" fields)).text?
    return ⟨testNameId, investigatorId, reason⟩
  | .array [testNameId, investigatorId, reason] =>
    return ⟨← testNameId.text?, ← investigatorId.text?, ← reason.text?⟩
  | _ => none

end Suggestion

end Investigations
