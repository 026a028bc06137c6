/-
The events that operations log: how grave an event is, its wording, and the values it carries.
-/
import Investigations.Files.Path

namespace Investigations

open Files

/-- Something worth a line in the log. -/
inductive Event where
  | hostDirectoryMissing (buildId : UInt64) (path : Path)
  | pluginDirectoryMade (buildId : UInt64) (path : Path)
  | suggestionsWritten (path : Path) (count : Nat)
  | suggestionsRead (path : Path) (count : Nat)
  | foreignSuggestions (path : Path) (stored current : String)
  | headlessSuggestions (path : Path)
  | malformedLine (path : Path) (line : Nat)
  | previousSuggestionsRead (buildId : UInt64) (count : Nat)
  | newSuggestionsWritten (buildId : UInt64) (count : Nat)
  | suggestionsUnreadable (buildId : UInt64) (path : Path)
  | noSuggestion (buildId : UInt64) (testNameId : String)
  | statisticsOfOtherVersion (path : Path) (version : String)
  | statisticsUnreadable (path : Path)
  | statisticsSaved (path : Path)
deriving DecidableEq, Repr

namespace Event

/-- How grave an event is. -/
inductive Level where
  /-- Of interest when looking for a cause. -/
  | debug
  /-- Something stored is left out. -/
  | warning
deriving DecidableEq, Repr

/-- A value that an event carries. -/
inductive Field where
  | text (value : String)
  | number (value : Nat)
deriving DecidableEq, Repr

/-- How grave the event is. -/
def level : Event → Level
  | .foreignSuggestions .. | .headlessSuggestions .. | .malformedLine .. => .warning
  | .suggestionsUnreadable .. => .warning
  | .statisticsOfOtherVersion .. | .statisticsUnreadable .. => .warning
  | _ => .debug

/-- The wording of the event. -/
def message : Event → String
  | .hostDirectoryMissing .. => "host artifacts directory does not exist; skipping suggestions"
  | .pluginDirectoryMade .. => "created plugin artifacts directory"
  | .suggestionsWritten .. => "wrote suggestions"
  | .suggestionsRead .. => "read stored suggestions"
  | .foreignSuggestions .. => "server UUIDs don't match; ignoring stored suggestions"
  | .headlessSuggestions .. => "suggestions file has no identity header; ignoring it"
  | .malformedLine .. => "skipping malformed suggestion line"
  | .previousSuggestionsRead .. => "read previously added suggestions"
  | .newSuggestionsWritten .. => "wrote new suggestions"
  | .suggestionsUnreadable .. => "failed to read stored suggestions"
  | .noSuggestion .. => "no stored suggestion for test"
  | .statisticsOfOtherVersion .. => "discarding statistics with unsupported version"
  | .statisticsUnreadable .. => "discarding unreadable statistics"
  | .statisticsSaved .. => "saved statistics"

/-- The values that the event carries, by name. -/
def fields : Event → List (String × Field)
  | .hostDirectoryMissing id path | .pluginDirectoryMade id path
  | .suggestionsUnreadable id path =>
    [("build_id", .number id.toNat), ("path", .text path.text)]
  | .suggestionsWritten path count | .suggestionsRead path count =>
    [("path", .text path.text), ("count", .number count)]
  | .foreignSuggestions path stored current =>
    [("path", .text path.text), ("stored", .text stored), ("current", .text current)]
  | .headlessSuggestions path | .statisticsUnreadable path | .statisticsSaved path =>
    [("path", .text path.text)]
  | .malformedLine path line => [("path", .text path.text), ("line", .number line)]
  | .previousSuggestionsRead id count | .newSuggestionsWritten id count =>
    [("build_id", .number id.toNat), ("count", .number count)]
  | .noSuggestion id test => [("build_id", .number id.toNat), ("test_name_id", .text test)]
  | .statisticsOfOtherVersion path version =>
    [("path", .text path.text), ("version", .text version)]

end Event

end Investigations
