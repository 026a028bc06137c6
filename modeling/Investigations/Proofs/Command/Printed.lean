/-
JSON that is stored and printed, read back: a suggestion, an identity and statistics from either of
their texts (`GivenBack`), and the suggestions of a build from what the command prints of them
(`texts_read_back`).
-/
import Investigations.Proofs.Command.Installation

namespace Investigations

open Files Json

/-- Both texts of a value, the one in one line and the one with a line for each item, give the value
back. -/
structure GivenBack {α : Type} (toJson : α → Value) (ofJson? : Value → Option α) (value : α) :
    Prop where
  compact : (Value.parse? (toJson value).compact).bind ofJson? = some value
  pretty : (Value.parse? (toJson value).pretty).bind ofJson? = some value

/-- It is enough that the JSON value gives the value back. -/
theorem GivenBack.of_ofJson? {α : Type} {toJson : α → Value} {ofJson? : Value → Option α} {value : α}
    (hs : (toJson value).Spelled) (h : ofJson? (toJson value) = some value) :
    GivenBack toJson ofJson? value := by
  constructor
  · rw [Value.compact, Value.parse?_print Layout.spaced_compact hs]
    exact h
  · rw [Value.pretty, Value.parse?_print Layout.spaced_pretty hs]
    exact h

theorem ServerIdentity.ofJson?_toJson (identity : ServerIdentity) :
    ofJson? identity.toJson = some identity := by
  rw [toJson, ofJson?, Value.text?_ofText]
  rfl

/-! ## What the command prints -/

namespace Command

/-- When the command shows the suggestions of a build, they can be read back from what it prints. -/
theorem read_shown {settings : Settings} {verbose : Bool} {build : Build} {disk : Disk}
    (hexit : (Invocation.run ⟨settings, verbose, .suggestions build none⟩ disk).exitCode = 0) :
    ∃ config held, settings.config disk = .ok config ∧
      build.view disk config.serverIdentity = .ok held ∧
      (Value.parse? (Invocation.run ⟨settings, verbose, .suggestions build none⟩ disk).printed).bind
        Suggestion.listOfJson? = some held := by
  have hanswer : (perform ⟨settings, verbose, .suggestions build none⟩ disk).answer =
      (withConfig settings disk fun config => performSuggestions config build disk).answer := rfl
  rw [withConfig] at hanswer
  rcases hc : settings.config disk with failure | config <;> rw [hc] at hanswer
  · rw [(Invocation.run_error hanswer).1] at hexit
    cases hexit
  · dsimp only at hanswer
    rw [performSuggestions_answer] at hanswer
    rcases hv : build.view disk config.serverIdentity with cause | held <;> rw [hv] at hanswer
    · rw [(Invocation.run_error hanswer).1] at hexit
      cases hexit
    · refine ⟨config, held, rfl, hv, ?_⟩
      rw [(Invocation.run_ok hanswer).2.1]
      exact listOfJson?_printed held

/-- What is stored or printed as JSON reads back as it was, whatever characters its texts hold and
whatever its counters stand at: every suggestion, identity and statistics from both its texts, and
every list of suggestions from what the command prints of it, which is what a reader finds of the
build. -/
theorem texts_read_back :
    (∀ suggestion, GivenBack Suggestion.toJson Suggestion.ofJson? suggestion) ∧
    (∀ identity, GivenBack ServerIdentity.toJson ServerIdentity.ofJson? identity) ∧
    (∀ statistics, GivenBack Statistics.toJson Statistics.ofJson? statistics) ∧
    (∀ suggestions : List Suggestion,
      (Value.parse? (printed (.array (suggestions.map Suggestion.toJson)))).bind
        Suggestion.listOfJson? = some suggestions) ∧
    ∀ (settings : Settings) (verbose : Bool) (build : Build) (disk : Disk),
      let report := Invocation.run ⟨settings, verbose, .suggestions build none⟩ disk
      report.exitCode = 0 → ∃ config held, settings.config disk = .ok config ∧
        build.view disk config.serverIdentity = .ok held ∧
        (Value.parse? report.printed).bind Suggestion.listOfJson? = some held := by
  refine ⟨?_, ?_, ?_, listOfJson?_printed, fun settings verbose build disk => read_shown⟩
  · intro suggestion
    exact .of_ofJson? suggestion.spelled_toJson suggestion.ofJson?_toJson
  · intro identity
    exact .of_ofJson? (Value.spelled_ofText _) identity.ofJson?_toJson
  · intro statistics
    exact .of_ofJson? statistics.spelled_toJson statistics.ofJson?_toJson

/-- A quote, a backslash and a control character in a suggestions file, as they are shown. -/
theorem texts_read_back_escaped :
    let settings : Settings := ⟨none, some "s", none⟩
    let build : Build := ⟨0, ⟨"a"⟩⟩
    let disk := Build.diskWith "serverUUID\ts\n\"1\\\t\x01é\t\t\n"
    let report := Invocation.run ⟨settings, false, .suggestions build none⟩ disk
    report.exitCode = 0 ∧
      (Value.parse? report.printed).bind Suggestion.listOfJson? = some [⟨"\"1\\", "\x01é", "\t"⟩] := by
  intro settings build disk report
  have hexit : report.exitCode = 0 := by decide +kernel
  have hview : build.view disk ⟨"s"⟩ = .ok [⟨"\"1\\", "\x01é", "\t"⟩] := by decide +kernel
  obtain ⟨config, held, hc, hv, hread⟩ :=
    texts_read_back.2.2.2.2 settings false build disk hexit
  cases hc
  cases hview.symm.trans hv
  exact ⟨hexit, hread⟩

end Command

end Investigations
