/-
Suggestions files on disk. Writing replaces the file as a whole and checks everything before it
touches it; reading takes a missing file for an empty one.
-/
import Investigations.Outcome
import Investigations.Suggestion.Sheet
import Investigations.Text.Quoted

namespace Investigations

open Files

/-- The events of reading the file at `path`: its warnings in the order of the lines, and at the
end, if the file counts, the number of suggestions. -/
def Sheet.Reading.events (path : Path) (identity : ServerIdentity) : Reading → List Event
  | .empty => []
  | .headless => [.headlessSuggestions path]
  | .foreign stored => [.foreignSuggestions path stored identity.value]
  | .accepted suggestions skipped =>
    skipped.map (.malformedLine path) ++ [.suggestionsRead path suggestions.length]

namespace SuggestionStore

/-- The reading of the file at `path` under an identity. -/
def read (disk : Disk) (identity : ServerIdentity) (path : Path) : Except Error Sheet.Reading :=
  match disk.read path with
  | .ok content => .ok (Sheet.decode identity content)
  | .error .notFound => .ok .empty
  | .error fault => .error (.io fault)

/-- The first suggestion that can not be stored is refused, for its first defect. -/
def checkAll : List Suggestion → Except Error Unit
  | [] => .ok ()
  | suggestion :: rest =>
    match suggestion.defect? with
    | some defect => .error (.invalidSuggestion suggestion.testNameId defect.message)
    | none => checkAll rest

/-- An identity that can not stand in one line is refused. -/
def checkIdentity (identity : ServerIdentity) : Except Error Unit :=
  if identity.hasLineBreak then
    .error (.config (some
      ("server identity " ++ Text.quoted identity.value ++ " contains a line break")))
  else .ok ()

/-- Replaces the file at `path` by one with these suggestions, in order. Its directory has to
exist. If anything is refused, nothing is written. -/
def save (disk : Disk) (identity : ServerIdentity) (path : Path) (suggestions : List Suggestion) :
    Outcome Unit :=
  match checkAll suggestions, checkIdentity identity with
  | .error failure, _ | .ok (), .error failure => ⟨.error failure, disk, []⟩
  | .ok (), .ok () =>
    match disk.replace path (Sheet.encode identity suggestions) with
    | (.ok (), written) => ⟨.ok (), written, [.suggestionsWritten path suggestions.length]⟩
    | (.error fault, left) => ⟨.error (.io fault), left, []⟩

end SuggestionStore

end Investigations
