/-
The suggestions of a build: adding the ones that were found for it, and looking up the one for a
test.
-/
import Investigations.Statistics.Reporter
import Investigations.Suggestion.Store

namespace Investigations

open Files Json

/-- What adding suggestions came to. -/
inductive Added where
  /-- There was nothing to add, and no file was touched. -/
  | skipped
  /-- `added` new suggestions stand in front of the ones from before, which makes `total`. -/
  | appended (added total : Nat)
deriving DecidableEq, Repr

/-- The result of adding as JSON. -/
def Added.toJson : Added → Value
  | .skipped => .ofFields [("status", .ofText "skipped")]
  | .appended added total =>
    .ofFields [("status", .ofText "appended"), ("added", .ofNat added), ("total", .ofNat total)]

namespace Build

/-- Adds suggestions to the file of a build, in front of those it holds for this server. They are
counted as saved in any case, and the build is counted if it had no suggestions before. -/
def append (build : Build) (identity : ServerIdentity) (new : List Suggestion)
    (reporter : Reporter) (disk : Disk) : Outcome Added × Reporter :=
  if new = [] then (⟨.ok .skipped, disk, []⟩, reporter)
  else
    let counted := reporter.report (.savedSuggestions new.length)
    let resolved := build.resolve disk
    match resolved.answer with
    | .error failure => (⟨.error failure, resolved.disk, resolved.events⟩, counted)
    | .ok path =>
      match SuggestionStore.read resolved.disk identity path with
      | .error failure => (⟨.error failure, resolved.disk, resolved.events⟩, counted)
      | .ok reading =>
        let previous := reading.suggestions
        let counted := if previous = [] then counted.report .buildWithSuggestions else counted
        let events := resolved.events ++ reading.events path identity ++
          [.previousSuggestionsRead build.id previous.length]
        let merged := new ++ previous
        let saved := SuggestionStore.save resolved.disk identity path merged
        match saved.answer with
        | .error failure => (⟨.error failure, saved.disk, events⟩, counted)
        | .ok () =>
          (⟨.ok (.appended new.length merged.length), saved.disk,
            events ++ saved.events ++ [.newSuggestionsWritten build.id new.length]⟩, counted)

/-- The first suggestion for a test in the file of a build. A file that is missing, foreign or
can not be read has none. -/
def findSuggestion (build : Build) (identity : ServerIdentity) (testNameId : String)
    (disk : Disk) : Option Suggestion × List Event :=
  match build.find disk with
  | (none, events) => (none, events)
  | (some path, events) =>
    match SuggestionStore.read disk identity path with
    | .error _ => (none, events ++ [.suggestionsUnreadable build.id path])
    | .ok reading =>
      let events := events ++ reading.events path identity
      match reading.suggestions.find? (·.testNameId = testNameId) with
      | some suggestion => (some suggestion, events)
      | none => (none, events ++ [.noSuggestion build.id testNameId])

end Build

end Investigations
