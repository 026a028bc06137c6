/-
Adding suggestions to a build. It ends with nothing done, with a failure that leaves what resolving
the path left, or with the new suggestions saved in front of those from before (`append_cases`).
What a reader tolerates in a file is not always fit to be saved again: one carriage return in the
middle of a line keeps the build from getting further suggestions (`append_file`).
-/
import Investigations.Proofs.Build.Locate
import Investigations.Proofs.Statistics.Counting

namespace Investigations.Build

open Files

/-! ## The ways it ends -/

theorem append_nil (build : Build) (identity : ServerIdentity) (reporter : Reporter) (disk : Disk) :
    build.append identity [] reporter disk = (⟨.ok .skipped, disk, []⟩, reporter) := by
  rw [append, if_pos rfl]

theorem resolve_answer {build : Build} {disk : Disk} {path : Path}
    (h : (build.resolve disk).answer = .ok path) : path = build.suggestionsFile := by
  rcases build.resolve_cases disk with ⟨_, _, he⟩ | ⟨-, he⟩ | ⟨_, _, _, he, -⟩ <;> rw [he] at h <;>
    cases h <;> rfl

/-- The suggestions that new ones are added to, or what keeps them from being known. -/
def held (build : Build) (identity : ServerIdentity) (disk : Disk) : Except Error (List Suggestion) :=
  (build.resolve disk).answer.bind fun path =>
    (SuggestionStore.read (build.resolve disk).disk identity path).map Sheet.Reading.suggestions

/-- What adding comes to, the events apart. Of the file from before, nothing counts but the suggestions
that are read from it. -/
theorem append_eq (build : Build) (identity : ServerIdentity) {new : List Suggestion} (hn : new ≠ [])
    (reporter : Reporter) (disk : Disk) :
    let added := build.append identity new reporter disk
    let counted := reporter.report (.savedSuggestions new.length)
    let made := (build.resolve disk).disk
    (added.1.answer, added.1.disk, added.2) =
      match build.held identity disk with
      | .error failure => (.error failure, made, counted)
      | .ok old =>
        let saved := SuggestionStore.save made identity build.suggestionsFile (new ++ old)
        (saved.answer.map fun () => .appended new.length (new ++ old).length, saved.disk,
          if old = [] then counted.report .buildWithSuggestions else counted) := by
  unfold append held
  rw [if_neg hn]
  dsimp only
  rcases hl : (build.resolve disk).answer with failure | path
  · rfl
  · cases resolve_answer hl
    dsimp only [Except.bind]
    rcases SuggestionStore.read (build.resolve disk).disk identity build.suggestionsFile with
      failure | reading
    · rfl
    · dsimp only [Except.map]
      rcases (SuggestionStore.save (build.resolve disk).disk identity build.suggestionsFile
        (new ++ reading.suggestions)).answer with failure | done <;> rfl

/-- What has been counted does not matter when suggestions are added. -/
theorem append_other (build : Build) (identity : ServerIdentity) (new : List Suggestion)
    (reporter other : Reporter) (disk : Disk) :
    (build.append identity new other disk).1.answer =
        (build.append identity new reporter disk).1.answer ∧
      (build.append identity new other disk).1.disk =
        (build.append identity new reporter disk).1.disk := by
  by_cases hn : new = []
  · rw [hn, append_nil, append_nil]
    exact ⟨rfl, rfl⟩
  · have h := build.append_eq identity hn reporter disk
    have h' := build.append_eq identity hn other disk
    rcases hh : build.held identity disk with failure | old <;> rw [hh] at h h' <;>
      simp only [Prod.mk.injEq] at h h' <;> exact ⟨h'.1.trans h.1.symm, h'.2.1.trans h.2.1.symm⟩

/-- Suggestions have been added in front of those of the `reading`. -/
structure Appended (build : Build) (identity : ServerIdentity) (new : List Suggestion) (disk : Disk)
    (outcome : Outcome Added) (reading : Sheet.Reading) : Prop where
  located : (build.resolve disk).answer = .ok build.suggestionsFile
  read : SuggestionStore.read (build.resolve disk).disk identity build.suggestionsFile = .ok reading
  saved : (SuggestionStore.save (build.resolve disk).disk identity build.suggestionsFile
    (new ++ reading.suggestions)).answer = .ok ()
  answer : outcome.answer = .ok (.appended new.length (new ++ reading.suggestions).length)
  disk_eq : outcome.disk = (SuggestionStore.save (build.resolve disk).disk identity
    build.suggestionsFile (new ++ reading.suggestions)).disk

theorem held_of_read {build : Build} {identity : ServerIdentity} {disk : Disk}
    {reading : Sheet.Reading} (hl : (build.resolve disk).answer = .ok build.suggestionsFile)
    (hr : SuggestionStore.read (build.resolve disk).disk identity build.suggestionsFile = .ok reading) :
    build.held identity disk = .ok reading.suggestions := by
  unfold held
  rw [hl]
  dsimp only [Except.bind]
  rw [hr]
  rfl

theorem held_ok {build : Build} {identity : ServerIdentity} {disk : Disk} {old : List Suggestion}
    (h : build.held identity disk = .ok old) :
    (build.resolve disk).answer = .ok build.suggestionsFile ∧ ∃ reading : Sheet.Reading,
      SuggestionStore.read (build.resolve disk).disk identity build.suggestionsFile = .ok reading ∧
        reading.suggestions = old := by
  unfold held at h
  rcases hl : (build.resolve disk).answer with failure | path
  · rw [hl] at h
    cases h
  · cases resolve_answer hl
    rw [hl] at h
    dsimp only [Except.bind] at h
    rcases hr : SuggestionStore.read (build.resolve disk).disk identity build.suggestionsFile with
      failure | reading
    · rw [hr] at h
      cases h
    · rw [hr] at h
      exact ⟨rfl, reading, rfl, Except.ok.inj h⟩

/-- What new suggestions are added to is what readers find of the build. -/
theorem view_of_held {build : Build} {identity : ServerIdentity} {disk : Disk}
    {old : List Suggestion} (h : build.held identity disk = .ok old) :
    build.view disk identity = .ok old := by
  obtain ⟨hl, reading, hr, rfl⟩ := held_ok h
  have hmade : build.view (build.resolve disk).disk identity = .ok reading.suggestions := by
    rw [view_of_directory (isDirectory_resolve hl), hr]
    rfl
  rcases build.resolve_cases disk with ⟨_, _, he⟩ | ⟨-, he⟩ | ⟨made, above, _, he, ho⟩ <;>
    rw [he] at hmade
  · exact hmade
  · exact hmade
  · -- The directory was made for this call, so nothing was read from it and nothing seen before.
    obtain ⟨hbefore, hafter⟩ := ho.view
    rw [hafter] at hmade
    split at hmade
    · cases hmade
    · rw [hbefore, ← hmade]

/-- Once the suggestions from before are read, adding is saving all of them. -/
theorem append_of_read {build : Build} {identity : ServerIdentity} {new : List Suggestion}
    {disk : Disk} {reading : Sheet.Reading} (hn : new ≠ [])
    (hl : (build.resolve disk).answer = .ok build.suggestionsFile)
    (hr : SuggestionStore.read (build.resolve disk).disk identity build.suggestionsFile = .ok reading)
    (reporter : Reporter) :
    let saved := SuggestionStore.save (build.resolve disk).disk identity build.suggestionsFile
      (new ++ reading.suggestions)
    let outcome := (build.append identity new reporter disk).1
    outcome.answer =
        saved.answer.map (fun () => .appended new.length (new ++ reading.suggestions).length) ∧
      outcome.disk = saved.disk := by
  intro saved outcome
  have h : (outcome.answer, outcome.disk, _) = _ := append_eq build identity hn reporter disk
  rw [held_of_read hl hr] at h
  simp only [Prod.mk.injEq] at h
  exact ⟨h.1, h.2.1⟩

theorem append_cases (build : Build) (identity : ServerIdentity) (new : List Suggestion)
    (reporter : Reporter) (disk : Disk) :
    (new = [] ∧ build.append identity new reporter disk =
      (⟨.ok .skipped, disk, []⟩, reporter)) ∨
    (new ≠ [] ∧ ∃ failure, (build.append identity new reporter disk).1.answer = .error failure ∧
      (build.append identity new reporter disk).1.disk = (build.resolve disk).disk) ∨
    (new ≠ [] ∧ ∃ reading,
      Appended build identity new disk (build.append identity new reporter disk).1 reading) := by
  by_cases hn : new = []
  · subst hn
    exact .inl ⟨rfl, append_nil ..⟩
  · refine .inr ?_
    rcases hh : build.held identity disk with failure | old
    · have h := append_eq build identity hn reporter disk
      rw [hh] at h
      simp only [Prod.mk.injEq] at h
      exact .inl ⟨hn, failure, h.1, h.2.1⟩
    · obtain ⟨hl, reading, hr, rfl⟩ := held_ok hh
      obtain ⟨ha, hd⟩ := append_of_read hn hl hr reporter
      rcases hs : (SuggestionStore.save (build.resolve disk).disk identity build.suggestionsFile
        (new ++ reading.suggestions)).answer with failure | done
      · rw [hs] at ha
        exact .inl ⟨hn, failure, ha, hd.trans (SuggestionStore.save_error hs)⟩
      · refine .inr ⟨hn, reading, hl, hr, hs, ?_, hd⟩
        rw [ha, hs]
        rfl

namespace Appended

variable {build : Build} {identity : ServerIdentity} {new : List Suggestion} {disk : Disk}
  {outcome : Outcome Added} {reading : Sheet.Reading}

/-- Before, the file held what the new suggestions have been added to. -/
theorem read_before (h : Appended build identity new disk outcome reading) :
    SuggestionStore.read disk identity build.suggestionsFile = .ok reading := by
  rw [← h.read, SuggestionStore.read_congr (look_resolve build disk)]

theorem look_after (h : Appended build identity new disk outcome reading) :
    outcome.disk.look build.suggestionsFile =
      .ok (.file (Sheet.encode identity (new ++ reading.suggestions))) := by
  rw [h.disk_eq]
  exact (Disk.replace_ok (SuggestionStore.save_ok h.saved).2.2).2

theorem read_after (h : Appended build identity new disk outcome reading) :
    SuggestionStore.read outcome.disk identity build.suggestionsFile =
      .ok (.accepted (new ++ reading.suggestions) []) := by
  rw [h.disk_eq, SuggestionStore.read_saved h.saved, if_pos rfl]

end Appended

/-- Where the path of the suggestions file is too long to be followed, our directory is made in
vain. -/
theorem append_overlong {build : Build} {new : List Suggestion} {disk made : Disk} {above : Place}
    (ho : Opened build disk made above) (hl : build.Overlong) (hn : new ≠ [])
    (identity : ServerIdentity) (reporter : Reporter) :
    (build.append identity new reporter disk).1.answer = .error (.io .invalidFilename) ∧
      (build.append identity new reporter disk).1.disk = made := by
  have hread : SuggestionStore.read made identity build.suggestionsFile =
      .error (.io .invalidFilename) := by
    rw [SuggestionStore.read, Disk.read_eq, ho.look_file, fault?_suggestionsFile ho.fault, if_pos hl]
    rfl
  rw [append, if_neg hn, ho.resolve_eq]
  dsimp only
  rw [hread]
  exact ⟨rfl, rfl⟩

/-- The usages that adding counts: the new suggestions, stored or not, and the build if it is known to
have had none. -/
def usages (build : Build) (identity : ServerIdentity) (new : List Suggestion) (disk : Disk) :
    List Usage :=
  if new = [] then []
  else
    .savedSuggestions new.length ::
      match build.held identity disk with
      | .ok [] => [.buildWithSuggestions]
      | _ => []

theorem append_reporter (build : Build) (identity : ServerIdentity) (new : List Suggestion)
    (reporter : Reporter) (disk : Disk) :
    (build.append identity new reporter disk).2 =
      reporter.reportAll (build.usages identity new disk) := by
  unfold usages
  by_cases hn : new = []
  · subst hn
    rw [append_nil, if_pos rfl]
    rfl
  · have h := build.append_eq identity hn reporter disk
    rw [if_neg hn]
    rcases hh : build.held identity disk with failure | _ | ⟨first, old⟩ <;> rw [hh] at h <;>
      simp only [Prod.mk.injEq] at h <;> rw [h.2.2]
    · rfl
    · rfl
    · rfl

/-- The counters change, the store that they are saved to does not. -/
theorem append_store (build : Build) (identity : ServerIdentity) (new : List Suggestion)
    (reporter : Reporter) (disk : Disk) :
    (build.append identity new reporter disk).2.store = reporter.store := by
  rw [append_reporter, Reporter.store_reportAll]

/-- Adding changes our directory and the suggestions file at most. -/
theorem append_changed (build : Build) (identity : ServerIdentity) (new : List Suggestion)
    (reporter : Reporter) (disk : Disk) :
    let left := (build.append identity new reporter disk).1.disk
    disk.Changed (left.Leads build.pluginDirectory) (left.Leads build.suggestionsFile) left := by
  intro left
  rcases append_cases build identity new reporter disk with ⟨-, he⟩ | ⟨-, _, -, hd⟩ | ⟨-, reading, h⟩
  · have hleft : left = disk := congrArg (·.1.disk) he
    rw [hleft]
    exact .refl ..
  · have hleft : left = (build.resolve disk).disk := hd
    rw [hleft]
    exact (resolve_changed build disk).mono (fun _ h => h) fun _ => False.elim
  · have hsave := (Disk.replace_ok (SuggestionStore.save_ok h.saved).2.2).1
    rw [← h.disk_eq] at hsave
    -- Saving leaves our directory where it is.
    have hresolve : disk.Changed (left.Leads build.pluginDirectory)
        (left.Leads build.suggestionsFile) (build.resolve disk).disk :=
      (resolve_changed build disk).mono (fun _ hp => hp.grow hsave) fun _ => False.elim
    exact hresolve.trans (hsave.mono (fun _ => False.elim) fun _ h => h)

/-- Adding that fails makes our directory at most. -/
theorem append_error_changed {build : Build} {identity : ServerIdentity} {new : List Suggestion}
    {reporter : Reporter} {disk : Disk} {failure : Error}
    (h : (build.append identity new reporter disk).1.answer = .error failure) :
    disk.Changed ((build.append identity new reporter disk).1.disk.Leads build.pluginDirectory)
      (fun _ => False) (build.append identity new reporter disk).1.disk := by
  rcases append_cases build identity new reporter disk with ⟨-, he⟩ | ⟨-, _, -, hd⟩ | ⟨-, reading, ha⟩
  · rw [he] at h; cases h
  · rw [hd]
    exact resolve_changed build disk
  · rw [ha.answer] at h; cases h

/-- The suggestion for a test is the first one that the view holds. -/
theorem findSuggestion_eq (build : Build) (identity : ServerIdentity) (testNameId : String)
    (disk : Disk) :
    (build.findSuggestion identity testNameId disk).1 =
      match build.view disk identity with
      | .ok held => held.find? (·.testNameId = testNameId)
      | .error _ => none := by
  unfold findSuggestion view
  rcases build.find disk with ⟨_ | path, events⟩
  · rfl
  · dsimp only
    rcases SuggestionStore.read disk identity path with failure | reading
    · rfl
    · dsimp only [Except.map]
      split <;> rename_i hf <;> rw [hf]

/-! ## Adding to a file that is there -/

/-- Suggestions are added to a file of any content. If no line that counts is broken, they are saved
in front of all that was read, unless the file can not be replaced. Otherwise a suggestion from the
file is refused, and the build gets no new ones. -/
theorem append_file {build : Build} {identity : ServerIdentity} {new : List Suggestion}
    {disk : Disk} {content : List UInt8} (hn : new ≠ []) (hs : ∀ s ∈ new, s.defect? = none)
    (hi : identity.hasLineBreak = false) (hc : disk.read build.suggestionsFile = .ok content)
    (reporter : Reporter) :
    let kept := (Sheet.decode identity content).suggestions
    let outcome := (build.append identity new reporter disk).1
    (Sheet.Unbroken identity content →
      (outcome.answer = .ok (.appended new.length (new.length + kept.length)) ∧
        (SuggestionStore.read outcome.disk identity build.suggestionsFile).map
          Sheet.Reading.suggestions = .ok (new ++ kept)) ∨
      ∃ fault, outcome.answer = .error (.io fault) ∧ outcome.disk = disk ∧
        disk.destination build.suggestionsFile = .error fault) ∧
    (¬ Sheet.Unbroken identity content →
      outcome.disk = disk ∧ ∃ s ∈ kept, ∃ defect, s.defect? = some defect ∧
        outcome.answer = .error (.invalidSuggestion s.testNameId defect.message)) := by
  intro kept outcome
  have hlook := Disk.look_of_read hc
  have hresolve := resolve_of_look hlook
  have hl : (build.resolve disk).answer = .ok build.suggestionsFile := by rw [hresolve]
  have hr : SuggestionStore.read (build.resolve disk).disk identity build.suggestionsFile =
      .ok (Sheet.decode identity content) := by
    rw [hresolve]
    exact SuggestionStore.read_of_look hlook identity
  obtain ⟨ha, hd⟩ := append_of_read hn hl hr reporter
  rw [hresolve] at ha hd
  dsimp only at ha hd
  refine ⟨fun h => ?_, fun h => ?_⟩
  · have hall : ∀ s ∈ new ++ kept, s.defect? = none := by
      intro s hm
      rcases List.mem_append.1 hm with hm | hm
      · exact hs s hm
      · exact Sheet.unbroken_iff.1 h s hm
    rcases SuggestionStore.save_checked hall hi disk build.suggestionsFile with
      hsave | ⟨fault, hdest, hsave⟩
    · refine .inl ⟨?_, ?_⟩
      · rw [ha, hsave, List.length_append]
        rfl
      · rw [hd, SuggestionStore.read_saved hsave, if_pos rfl]
        rfl
    · rw [hsave] at ha hd
      exact .inr ⟨fault, ha, hd, hdest⟩
  · -- The new ones are in order, so the one that is refused is from the file.
    have hbroken : ¬ ∀ s ∈ new ++ kept, s.defect? = none := fun hall =>
      h (Sheet.unbroken_iff.2 fun s hm => hall s (List.mem_append_right _ hm))
    obtain ⟨s, hm, defect, hdef, hsave⟩ :=
      SuggestionStore.save_refused hbroken disk identity build.suggestionsFile
    rw [hsave] at ha hd
    refine ⟨hd, s, ?_, defect, hdef, ha⟩
    rcases List.mem_append.1 hm with hm | hm
    · rw [hs s hm] at hdef
      cases hdef
    · exact hm

/-- The files of a build with the artifacts directory `a`, whose suggestions file holds this text. -/
def diskWith (text : String) : Disk where
  root := .directory [("a", .directory [(hostDirectoryName, .directory [(pluginDirectoryName,
    .directory [(suggestionsFileName, .file (Utf8.encode text))])])])]
  cwd := []

/-- Lines that end in a carriage return and a line feed are no obstacle. -/
theorem append_file_crlf :
    let build : Build := ⟨7, ⟨"a"⟩⟩
    let disk := diskWith "serverUUID\ts\r\nt1\tu1\tr\r\n"
    let outcome := (build.append ⟨"s"⟩ [⟨"t2", "u2", ""⟩] .inMemory disk).1
    outcome.answer = .ok (.appended 1 2) ∧
      (SuggestionStore.read outcome.disk ⟨"s"⟩ build.suggestionsFile).map
        Sheet.Reading.suggestions = .ok [⟨"t2", "u2", ""⟩, ⟨"t1", "u1", "r"⟩] := by
  intro build disk outcome
  have hkept : (Sheet.decode ⟨"s"⟩ (Utf8.encode "serverUUID\ts\r\nt1\tu1\tr\r\n")).suggestions =
      [⟨"t1", "u1", "r"⟩] := by decide +kernel
  have hplace : disk.destination build.suggestionsFile =
      .ok ["a", hostDirectoryName, pluginDirectoryName, suggestionsFileName] := by decide +kernel
  have hn : [(⟨"t2", "u2", ""⟩ : Suggestion)] ≠ [] := by decide
  have hs : ∀ s ∈ [(⟨"t2", "u2", ""⟩ : Suggestion)], s.defect? = none := by decide +kernel
  have hi : (⟨"s"⟩ : ServerIdentity).hasLineBreak = false := by decide +kernel
  have hread : disk.read build.suggestionsFile =
      .ok (Utf8.encode "serverUUID\ts\r\nt1\tu1\tr\r\n") := by decide +kernel
  have hall := (append_file hn hs hi hread .inMemory).1
  rw [Sheet.unbroken_iff, hkept] at hall
  rcases hall (by decide +kernel) with h | ⟨fault, -, -, hf⟩
  · exact h
  · rw [hplace] at hf
    cases hf

/-- One carriage return in the middle of a line, and the build gets no new suggestions. -/
theorem append_file_broken :
    let build : Build := ⟨7, ⟨"a"⟩⟩
    let disk := diskWith "serverUUID\ts\nt\r1\tu1\tr\n"
    (SuggestionStore.read disk ⟨"s"⟩ build.suggestionsFile).map Sheet.Reading.suggestions =
        .ok [⟨"t\r1", "u1", "r"⟩] ∧
      (build.append ⟨"s"⟩ [⟨"t2", "u2", ""⟩] .inMemory disk).1.answer =
        .error (.invalidSuggestion "t\r1" "test name id contains a tab or line break") := by
  decide +kernel

end Investigations.Build
