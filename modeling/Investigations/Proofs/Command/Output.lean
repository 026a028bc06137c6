/-
What a run of the command gives: an exit code, and a text that is read back. The suggestions of a build and
the one for a test are printed as JSON, the counts in a report. Each text is told twice, how it is put
together and what a reader finds in it (`showsAll_printed`, `showsOne_printed`, `showsCounts_report`).
-/
import Investigations.Command.Run
import Investigations.Proofs.Json.Print
import Investigations.Proofs.Statistics.Report

namespace Investigations

open Files Json

/-! ## Suggestions as JSON -/

namespace Suggestion

theorem spelled_toJson (suggestion : Suggestion) : suggestion.toJson.Spelled := by
  apply Value.spelled_ofFields
  intro field hf
  simp only [List.mem_cons, List.not_mem_nil, or_false] at hf
  rcases hf with rfl | rfl | rfl
  all_goals exact Value.spelled_ofText _

theorem ofJson?_toJson (suggestion : Suggestion) : ofJson? suggestion.toJson = some suggestion := by
  simp [toJson, Value.ofFields, ofJson?, Value.field?]

/-- The suggestions that a JSON value stands for: an array of them. -/
def listOfJson? : Value → Option (List Suggestion)
  | .array items => items.mapM ofJson?
  | _ => none

theorem listOfJson?_array (suggestions : List Suggestion) :
    listOfJson? (.array (suggestions.map toJson)) = some suggestions := by
  show (suggestions.map toJson).mapM ofJson? = some suggestions
  induction suggestions with
  | nil => rfl
  | cons suggestion rest ih =>
    rw [List.map_cons, List.mapM_cons, ofJson?_toJson, ih]
    rfl

/-- The suggestion that a JSON value stands for, or none, which `null` stands for. -/
def optionOfJson? : Value → Option (Option Suggestion)
  | .null => some none
  | value => (ofJson? value).map some

end Suggestion

namespace Command

/-! ## Exit codes -/

/-- Carrying out an invocation goes well, and so does the command. -/
theorem Invocation.run_ok {invocation : Invocation} {disk : Disk} {text : String}
    (h : (perform invocation disk).answer = .ok text) :
    (invocation.run disk).exitCode = 0 ∧ (invocation.run disk).printed = text ∧
      (invocation.run disk).disk = (perform invocation disk).disk := by
  rw [run, h]
  exact ⟨rfl, rfl, rfl⟩

theorem Invocation.run_error {invocation : Invocation} {disk : Disk} {failure : Failure}
    (h : (perform invocation disk).answer = .error failure) :
    (invocation.run disk).exitCode = 1 ∧
      (invocation.run disk).complaint = some ("error: " ++ failure.message) ∧
      (invocation.run disk).disk = (perform invocation disk).disk := by
  rw [run, h]
  exact ⟨rfl, rfl, rfl⟩

theorem run_of_parse {arguments : List String} {invocation : Invocation}
    (hp : parse arguments = .ok invocation) (disk : Disk) :
    run arguments disk = invocation.run disk := by
  rw [run, hp]

/-! ## Texts that are printed -/

/-- What is printed of a value ends its last line, and reads back as the value. -/
theorem parse?_printed {v : Value} (h : v.Spelled) : Value.parse? (printed v) = some v := by
  have hbreak : "\n".toList = ['\n'] := rfl
  have hspace : ∀ c ∈ ['\n'], Token.isSpace c = true := by
    intro c hc
    rw [List.mem_singleton.1 hc]
    rfl
  have hparse := Value.parse?_print_spaces Layout.spaced_pretty h hspace
  rwa [← hbreak, String.ofList_append, String.ofList_toList] at hparse

theorem listOfJson?_printed (suggestions : List Suggestion) :
    (Value.parse? (printed (.array (suggestions.map Suggestion.toJson)))).bind
      Suggestion.listOfJson? = some suggestions := by
  have hspelled : (Value.array (suggestions.map Suggestion.toJson)).Spelled := by
    constructor
    intro item hi
    obtain ⟨suggestion, -, rfl⟩ := List.mem_map.1 hi
    exact suggestion.spelled_toJson
  rw [parse?_printed hspelled, Option.bind_some, Suggestion.listOfJson?_array]

/-- A text shows these suggestions: it is what is printed of them, and a reader finds them in it. -/
structure ShowsAll (text : String) (listing : List Suggestion) : Prop where
  written : text = printed (.array (listing.map Suggestion.toJson))
  read : (Value.parse? text).bind Suggestion.listOfJson? = some listing

theorem showsAll_printed (listing : List Suggestion) :
    ShowsAll (printed (.array (listing.map Suggestion.toJson))) listing :=
  ⟨rfl, listOfJson?_printed listing⟩

theorem showsAll_iff {text : String} {listing : List Suggestion} :
    ShowsAll text listing ↔ text = printed (.array (listing.map Suggestion.toJson)) := by
  constructor
  · intro h
    exact h.written
  · rintro rfl
    exact showsAll_printed listing

/-- A text shows the suggestion that was found, or that none was: it is what is printed of it, or `null`,
and a reader finds that in it. -/
structure ShowsOne (text : String) (found : Option Suggestion) : Prop where
  written : text = printed ((found.map Suggestion.toJson).getD .null)
  read : (Value.parse? text).bind Suggestion.optionOfJson? = some found

theorem showsOne_printed (found : Option Suggestion) :
    ShowsOne (printed ((found.map Suggestion.toJson).getD .null)) found := by
  refine ⟨rfl, ?_⟩
  cases found with
  | none =>
    rw [Option.map_none, Option.getD_none, parse?_printed .null]
    rfl
  | some suggestion =>
    rw [Option.map_some, Option.getD_some, parse?_printed suggestion.spelled_toJson, Option.bind_some]
    show (Suggestion.ofJson? suggestion.toJson).map some = some (some suggestion)
    rw [suggestion.ofJson?_toJson, Option.map_some]

theorem ShowsOne.null {text : String} (h : ShowsOne text none) : text = "null\n" := by
  rw [h.written]
  decide +kernel

/-- A text shows the counts: it is the report on the statistics, and a reader finds the value of each counter
in it. -/
structure ShowsCounts (text : String) (statistics : Statistics) : Prop where
  written : text = statistics.report
  read : ∀ counter, Statistics.reported? text counter = some (statistics.get counter).toNat

theorem showsCounts_report (statistics : Statistics) :
    ShowsCounts statistics.report statistics :=
  ⟨rfl, statistics.reported?_report⟩

theorem showsCounts_iff {text : String} {statistics : Statistics} :
    ShowsCounts text statistics ↔ text = statistics.report := by
  constructor
  · intro h
    exact h.written
  · rintro rfl
    exact showsCounts_report statistics

instance (text : String) (listing : List Suggestion) : Decidable (ShowsAll text listing) :=
  decidable_of_iff _ showsAll_iff.symm

instance (text : String) (statistics : Statistics) : Decidable (ShowsCounts text statistics) :=
  decidable_of_iff _ showsCounts_iff.symm

end Command

end Investigations
