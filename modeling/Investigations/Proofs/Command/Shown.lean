/-
Showing all suggestions of a build, and showing the one for a test. All are printed as a reader finds
them, or the command fails (`run_show_all`); the one is picked out of them, and a file that can not be read
has none (`run_show_one`). So the two agree, read back from what is printed (`shown_agree`).
-/
import Investigations.Proofs.Command.Installation
import Investigations.Proofs.Command.Options

namespace Investigations

open Files Json

/-- What keeps the suggestions of a build from being read is in the file that is found. -/
theorem Build.view_eq_error_iff {build : Build} {disk : Disk} {identity : ServerIdentity}
    {cause : Error} :
    build.view disk identity = .error cause ↔ ∃ path, (build.find disk).1 = some path ∧
      SuggestionStore.read disk identity path = .error cause := by
  unfold view
  rcases (build.find disk).1 with _ | path
  · simp
  · rcases hr : SuggestionStore.read disk identity path with failure | reading <;> simp [Except.map, hr]

namespace Command

/-! ## The two tasks -/

section

variable (config : Config) (build : Build) (disk : Disk)

theorem performSuggestions_disk : (performSuggestions config build disk).disk = disk := by
  unfold performSuggestions
  rcases build.find disk with ⟨_ | path, events⟩
  · rfl
  · dsimp only
    rcases SuggestionStore.read disk config.serverIdentity path with cause | reading <;> rfl

/-- The suggestion for a test is looked for among those that are read. Where they can not be read, there
are none. -/
theorem performSuggestion_answer (testNameId : String) :
    (performSuggestion config build testNameId disk).answer =
      .ok (printed (((((build.view disk config.serverIdentity).toOption.getD []).find?
        (·.testNameId = testNameId)).map Suggestion.toJson).getD .null)) := by
  unfold performSuggestion
  dsimp only
  rw [build.findSuggestion_eq]
  rcases build.view disk config.serverIdentity with cause | held <;> rfl

end

/-! ## Both together -/

section

variable {arguments : List String} {settings : Settings} {verbose : Bool} {build : Build}
  {config : Config} {disk : Disk}

/-- Showing all suggestions prints those that are read, or fails for what keeps them from being read. -/
theorem run_show_all (hp : parse arguments = .ok ⟨settings, verbose, .suggestions build none⟩)
    (hc : settings.config disk = .ok config) :
    let all := run arguments disk
    all.disk = disk ∧
      match build.view disk config.serverIdentity with
      | .ok held => all.exitCode = 0 ∧ ShowsAll all.printed held
      | .error cause => all.exitCode = 1 ∧ all.complaint = some ("error: " ++ cause.message) := by
  have hperform : perform ⟨settings, verbose, .suggestions build none⟩ disk =
      performSuggestions config build disk := by
    show withConfig settings disk _ = _
    rw [withConfig, hc]
  have hanswer := performSuggestions_answer config build disk
  rw [← hperform] at hanswer
  have hsame := performSuggestions_disk config build disk
  rw [← hperform] at hsame
  dsimp only
  rw [run_of_parse hp]
  rcases hv : build.view disk config.serverIdentity with cause | held <;> rw [hv] at hanswer
  · obtain ⟨hexit, hcomplaint, hdisk⟩ := Invocation.run_error hanswer
    exact ⟨hdisk.trans hsame, hexit, hcomplaint⟩
  · obtain ⟨hexit, hprinted, hdisk⟩ := Invocation.run_ok hanswer
    exact ⟨hdisk.trans hsame, hexit, showsAll_iff.2 hprinted⟩

/-- Showing the suggestion for a test never fails. -/
theorem run_show_one {testNameId : String}
    (hp : parse arguments = .ok ⟨settings, verbose, .suggestions build (some testNameId)⟩)
    (hc : settings.config disk = .ok config) :
    let one := run arguments disk
    one.disk = disk ∧ one.exitCode = 0 ∧ ShowsOne one.printed
      (((build.view disk config.serverIdentity).toOption.getD []).find?
        (·.testNameId = testNameId)) := by
  have hperform : perform ⟨settings, verbose, .suggestions build (some testNameId)⟩ disk =
      performSuggestion config build testNameId disk := by
    show withConfig settings disk _ = _
    rw [withConfig, hc]
  have hanswer := performSuggestion_answer config build disk testNameId
  rw [← hperform] at hanswer
  obtain ⟨hexit, hprinted, hdisk⟩ := Invocation.run_ok hanswer
  dsimp only
  rw [run_of_parse hp, hprinted]
  exact ⟨by rw [hdisk, hperform]; rfl, hexit, showsOne_printed _⟩

/-- Showing all suggestions of a build agrees with showing the one for a test, on any files and under any
settings that the configuration can be loaded from. If all are shown, what is printed reads back as a list
of suggestions, and what is printed of the one as the first among them that is for the test, or `null` if
none is. It is `null` as well if they can not be shown, and they can not for one reason only: the
suggestions file is found and can not be read. Neither touches any file. Any test can be asked for, by one
argument more in a place that does not depend on the test. -/
theorem shown_agree (hall : parse arguments = .ok ⟨settings, verbose, .suggestions build none⟩)
    (hc : settings.config disk = .ok config) :
    let all := run arguments disk
    all.disk = disk ∧
    ((all.exitCode = 0 ∧ ∃ listing, ShowsAll all.printed listing) ∨
      all.exitCode = 1 ∧ ∃ path cause, (build.find disk).1 = some path ∧
        SuggestionStore.read disk config.serverIdentity path = .error cause ∧
        all.complaint = some ("error: " ++ cause.message)) ∧
    (∃ front after, arguments = front ++ "show" :: after ∧ ∀ testNameId,
      parse (front ++ "show" :: ("--test=" ++ testNameId) :: after) =
        .ok ⟨settings, verbose, .suggestions build (some testNameId)⟩) ∧
    ∀ narrowed loud testNameId,
      parse narrowed = .ok ⟨settings, loud, .suggestions build (some testNameId)⟩ →
      let one := run narrowed disk
      one.disk = disk ∧
      (∀ listing, all.exitCode = 0 →
        (Value.parse? all.printed).bind Suggestion.listOfJson? = some listing →
        one.exitCode = 0 ∧ ShowsOne one.printed (listing.find? (·.testNameId = testNameId))) ∧
      (all.exitCode = 1 → one.exitCode = 0 ∧ ShowsOne one.printed none ∧ one.printed = "null\n") := by
  intro all
  obtain ⟨hdisk, hview⟩ : all.disk = disk ∧ _ := run_show_all hall hc
  rcases hv : build.view disk config.serverIdentity with cause | held <;> rw [hv] at hview
  case error =>
    obtain ⟨hfailed, hcomplaint⟩ := hview
    obtain ⟨path, hfind, hread⟩ := Build.view_eq_error_iff.1 hv
    refine ⟨hdisk, .inr ⟨hfailed, path, cause, hfind, hread, hcomplaint⟩, parse_narrowed hall,
      fun narrowed loud testNameId hone => ?_⟩
    obtain ⟨hsame, hexit, hnone⟩ := run_show_one hone hc
    rw [hv] at hnone
    refine ⟨hsame, fun listing hok => ?_, fun _ => ⟨hexit, hnone, hnone.null⟩⟩
    rw [hfailed] at hok
    cases hok
  case ok =>
    obtain ⟨hok, hshown⟩ := hview
    refine ⟨hdisk, .inl ⟨hok, held, hshown⟩, parse_narrowed hall,
      fun narrowed loud testNameId hone => ?_⟩
    obtain ⟨hsame, hexit, hone⟩ := run_show_one hone hc
    rw [hv] at hone
    refine ⟨hsame, fun listing _ hlisting => ⟨hexit, ?_⟩, fun hfailed => ?_⟩
    · -- What is read back is the list that was printed, and no other.
      obtain rfl := Option.some.inj (hlisting.symm.trans hshown.read)
      exact hone
    · rw [hok] at hfailed
      cases hfailed

end

/-- Two suggestions for the test that is asked for, behind one for another test; and a directory in the
place of the suggestions file. -/
theorem shown_agree_directory :
    let arguments := ["--server-uuid", "s", "show", "--artifacts-dir", "a"]
    let narrowed := ["show", "-v", "--artifacts-dir=a", "--test", "t2", "--server-uuid=s"]
    let disk := Build.diskWith "serverUUID\ts\nt1\tu1\t\nt2\tu2\t\nt2\tu3\t\n"
    let other : Disk := ⟨.directory [("a", .directory [(hostDirectoryName, .directory
      [(pluginDirectoryName, .directory [(suggestionsFileName, .directory [])])])])], []⟩
    (Value.parse? (run arguments disk).printed).bind Suggestion.listOfJson? =
        some [⟨"t1", "u1", ""⟩, ⟨"t2", "u2", ""⟩, ⟨"t2", "u3", ""⟩] ∧
      (Value.parse? (run narrowed disk).printed).bind Suggestion.optionOfJson? =
        some (some ⟨"t2", "u2", ""⟩) ∧
      (run arguments other).exitCode = 1 ∧ (run narrowed other).printed = "null\n" := by
  intro arguments narrowed disk other
  let settings : Settings := ⟨none, some "s", none⟩
  let build : Build := ⟨0, ⟨"a"⟩⟩
  have hall : parse arguments = .ok ⟨settings, false, .suggestions build none⟩ := by decide +kernel
  have hone : parse narrowed = .ok ⟨settings, true, .suggestions build (some "t2")⟩ := by
    decide +kernel
  have hc : ∀ disk, settings.config disk = .ok { serverUuid := "s" } := fun _ => rfl
  let listing : List Suggestion := [⟨"t1", "u1", ""⟩, ⟨"t2", "u2", ""⟩, ⟨"t2", "u3", ""⟩]
  have hexit : (run arguments disk).exitCode = 0 := by decide +kernel
  have hshown : ShowsAll (run arguments disk).printed listing := by decide +kernel
  have hfailed : (run arguments other).exitCode = 1 := by decide +kernel
  obtain ⟨-, -, -, hagree⟩ := shown_agree hall (hc disk)
  obtain ⟨-, hfirst, -⟩ := hagree narrowed true "t2" hone
  obtain ⟨-, -, -, hagree⟩ := shown_agree hall (hc other)
  obtain ⟨-, -, hnull⟩ := hagree narrowed true "t2" hone
  exact ⟨hshown.read, (hfirst listing hexit hshown.read).2.read, hfailed, (hnull hfailed).2.2⟩

end Command

end Investigations
