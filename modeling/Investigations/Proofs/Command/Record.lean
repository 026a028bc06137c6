/-
Recording a suggestion with the command. A run that ends well has stored the suggestion in front of the
others, and one that fails has stored nothing, with one exception: the suggestion is stored before the
counts are saved, and stays if these can not be (`run_record`). That failure is told from all others by
what the command complains of (`Invocation.unsaved_iff`). The two files never get into each other's way,
since their names differ.
-/
import Investigations.Proofs.Command.Output
import Investigations.Proofs.Frame

namespace Investigations

open Files

theorem isName_statisticsFileName : IsName statisticsFileName := ⟨by decide, by decide⟩

/-- Whatever comes of saving counts, a suggestions file that is there stays as it is. -/
theorem Reporter.look_save {disk : Disk} {build : Build} {content : List UInt8}
    (h : disk.look build.suggestionsFile = .ok (.file content)) (reporter : Reporter) :
    (reporter.save disk).1.disk.look build.suggestionsFile = .ok (.file content) := by
  have hframe := reporter.save_frame disk
  rcases ha : (reporter.save disk).1.answer with failure | done
  · exact (hframe.failed failure ha).look_file h fun _ _ => id
  · refine (hframe.done done ha).look_file h fun p hp hq => ?_
    have hlast := hp.getLast?_child Build.isName_suggestionsFileName
    rw [hq.getLast?_child isName_statisticsFileName] at hlast
    exact absurd hlast (by decide)

namespace Command

/-! ## All that recording can come to -/

/-- A suggestion has been added in front of those of the `reading`, and then the counts were to be
saved. -/
structure Recorded (config : Config) (build : Build) (suggestion : Suggestion) (disk : Disk)
    (reporter : Reporter) (reading : Sheet.Reading) : Prop where
  opened : (openReporter config disk).1 = .ok reporter
  added : build.Appended config.serverIdentity [suggestion] disk
    (build.append config.serverIdentity [suggestion] reporter disk).1 reading

/-- The counts of a suggestion that has been added, and the disk, after they were to be saved. -/
def savedCounts (config : Config) (build : Build) (suggestion : Suggestion) (disk : Disk)
    (reporter : Reporter) : Outcome Unit × Reporter :=
  let added := build.append config.serverIdentity [suggestion] reporter disk
  added.2.save added.1.disk

theorem performRecord_cases (config : Config) (build : Build) (suggestion : Suggestion) (disk : Disk) :
    let performed := performRecord config build suggestion disk
    (∃ failure, performed.answer = .error failure ∧ (∀ cause, failure ≠ .saving cause) ∧
      (performed.disk = disk ∨ performed.disk = (build.resolve disk).disk)) ∨
    ∃ reporter reading, Recorded config build suggestion disk reporter reading ∧
      let saved := (savedCounts config build suggestion disk reporter).1
      performed.disk = saved.disk ∧
        ((saved.answer = .ok () ∧ ∃ text, performed.answer = .ok text) ∨
          ∃ cause, saved.answer = .error cause ∧ performed.answer = .error (.saving cause)) := by
  unfold performRecord
  rcases ho : openReporter config disk with ⟨cause | reporter, events⟩
  · exact .inl ⟨_, rfl, nofun, .inl rfl⟩
  · dsimp only
    rcases build.append_cases config.serverIdentity [suggestion] reporter disk with
      ⟨hn, -⟩ | ⟨-, failure, ha, hd⟩ | ⟨-, reading, h⟩
    · cases hn
    · rw [ha]
      exact .inl ⟨_, rfl, nofun, .inr hd⟩
    · refine .inr ⟨reporter, reading, ⟨congrArg Prod.fst ho, h⟩, ?_⟩
      rw [h.answer, savedCounts]
      dsimp only
      rcases (Reporter.save _ _).1.answer with cause | ⟨⟩
      · exact ⟨rfl, .inr ⟨cause, rfl, rfl⟩⟩
      · exact ⟨rfl, .inl ⟨rfl, _, rfl⟩⟩

/-! ## All or nothing -/

/-- The suggestions file of the build reads as the suggestion followed by what it read as before. -/
def Stored (identity : ServerIdentity) (build : Build) (suggestion : Suggestion)
    (before after : Disk) : Prop :=
  ∃ old, (SuggestionStore.read before identity build.suggestionsFile).map
      Sheet.Reading.suggestions = .ok old ∧
    (SuggestionStore.read after identity build.suggestionsFile).map
      Sheet.Reading.suggestions = .ok (suggestion :: old)

variable {config : Config} {build : Build} {suggestion : Suggestion} {disk : Disk}
  {reporter : Reporter} {reading : Sheet.Reading}

/-- Once a suggestion has been added, it is stored, whether the counts can be saved or not. -/
theorem Recorded.stored (h : Recorded config build suggestion disk reporter reading) :
    Stored config.serverIdentity build suggestion disk
      (savedCounts config build suggestion disk reporter).1.disk := by
  have hleft := Reporter.look_save h.added.look_after
    (build.append config.serverIdentity [suggestion] reporter disk).2
  refine ⟨reading.suggestions, ?_, ?_⟩
  · rw [h.added.read_before]
    rfl
  · rw [savedCounts, SuggestionStore.read_congr (hleft.trans h.added.look_after.symm),
      h.added.read_after]
    rfl

/-- A recording that is refused leaves the suggestions file as it was, byte for byte, or missing. -/
theorem read_of_refused {performed : Performed}
    (h : performed.disk = disk ∨ performed.disk = (build.resolve disk).disk) :
    performed.disk.read build.suggestionsFile = disk.read build.suggestionsFile := by
  rcases h with h | h
  · rw [h]
  · rw [h, Disk.read_eq, Disk.read_eq, build.look_resolve]

/-! ## What the command complains of -/

/-- The command complains that the counts could not be saved. -/
def Report.Unsaved (report : Report) : Prop :=
  ∃ detail, report.complaint = some ("error: failed to save statistics: " ++ detail)

/-- The beginnings of all messages but the one that counts could not be saved. -/
def otherBeginnings : List String :=
  ["either --config", "no plugin data directory", "failed to load config ",
    "failed to record suggestion for build ", "artifact directory ", "invalid record for test '",
    "config error", "serialization error: ", "io error"]

/-- A text of four parts begins with the first. -/
theorem prefix_of_parts (a b c d : String) : a.toList <+: (a ++ b ++ c ++ d).toList := by
  simp only [String.toList_append, List.append_assoc]
  exact List.prefix_append ..

theorem beginning_of_cause (cause : Error) :
    ∃ beginning ∈ otherBeginnings, beginning.toList <+: cause.message.toList := by
  have hdetail : ∀ kind detail, kind.toList <+: (Error.withDetail kind detail).toList := by
    intro kind detail
    cases detail with
    | none => exact List.prefix_refl _
    | some detail =>
      unfold Error.withDetail
      simp only [String.toList_append, List.append_assoc]
      exact List.prefix_append ..
  cases cause with
  | hostDirectoryMissing buildId path =>
    refine ⟨"artifact directory ", by simp [otherBeginnings], ?_⟩
    unfold Error.message
    exact prefix_of_parts ..
  | invalidSuggestion testNameId reason =>
    refine ⟨"invalid record for test '", by simp [otherBeginnings], ?_⟩
    unfold Error.message
    exact prefix_of_parts ..
  | config text => exact ⟨"config error", by simp [otherBeginnings], hdetail ..⟩
  | serialization text =>
    refine ⟨"serialization error: ", by simp [otherBeginnings], ?_⟩
    unfold Error.message
    rw [String.toList_append]
    exact List.prefix_append ..
  | io fault => exact ⟨"io error", by simp [otherBeginnings], hdetail ..⟩

theorem beginning_of_failure {failure : Failure} (h : ∀ cause, failure ≠ .saving cause) :
    ∃ beginning ∈ otherBeginnings, beginning.toList <+: failure.message.toList := by
  cases failure with
  | noIdentity => exact ⟨"either --config", by simp [otherBeginnings], by decide +kernel⟩
  | noDataDirectory => exact ⟨"no plugin data directory", by simp [otherBeginnings], by decide +kernel⟩
  | loading path cause =>
    refine ⟨"failed to load config ", by simp [otherBeginnings], ?_⟩
    unfold Failure.message
    exact prefix_of_parts ..
  | recording buildId cause =>
    refine ⟨"failed to record suggestion for build ", by simp [otherBeginnings], ?_⟩
    unfold Failure.message
    exact prefix_of_parts ..
  | saving cause => exact absurd rfl (h cause)
  | plain cause => exact beginning_of_cause cause

/-- The command complains that the counts could not be saved if that is why it failed, and only then. -/
theorem Invocation.unsaved_iff {invocation : Invocation} {disk : Disk} {failure : Failure}
    (h : (perform invocation disk).answer = .error failure) :
    (invocation.run disk).Unsaved ↔ ∃ cause, failure = .saving cause := by
  have hbegin : "error: failed to save statistics: " = "error: " ++ "failed to save statistics: " := by
    decide +kernel
  rw [Report.Unsaved, (run_error h).2.1, hbegin]
  constructor
  · rintro ⟨detail, hd⟩
    by_contra hn
    obtain ⟨beginning, hm, hb⟩ := beginning_of_failure (not_exists.1 hn)
    -- No other beginning goes with this one.
    have hother : ∀ beginning ∈ otherBeginnings,
        ¬ beginning.toList <+: "failed to save statistics: ".toList ∧
          ¬ "failed to save statistics: ".toList <+: beginning.toList := by decide +kernel
    have hsaving : "failed to save statistics: ".toList <+: failure.message.toList := by
      have hlist := congrArg String.toList (Option.some.inj hd)
      simp only [String.toList_append, List.append_assoc] at hlist
      rw [List.append_cancel_left hlist]
      exact List.prefix_append ..
    rcases List.prefix_or_prefix_of_prefix hb hsaving with hp | hp
    · exact (hother beginning hm).1 hp
    · exact (hother beginning hm).2 hp
  · rintro ⟨cause, rfl⟩
    refine ⟨cause.message, ?_⟩
    unfold Failure.message
    rw [String.append_assoc]

/-! ## Runs of the command -/

theorem Settings.config_ne_saving {settings : Settings} {disk : Disk} {failure : Failure}
    (h : settings.config disk = .error failure) (cause : Error) : failure ≠ .saving cause := by
  rintro rfl
  unfold Settings.config at h
  split at h
  · split at h <;> cases h
  · cases h
  · cases h

/-- Recording with the command. Success has stored the suggestion in front of those from before. After a
failure to save the counts, which the command complains of, the suggestion is stored just so. After every
other failure the suggestions file is as it was, byte for byte, or missing. -/
theorem run_record {arguments : List String} {invocation : Invocation}
    (hp : parse arguments = .ok invocation) (ha : invocation.action = .record build suggestion)
    (disk : Disk) :
    let report := run arguments disk
    (report.exitCode = 0 ∨ report.exitCode = 1) ∧
    (report.exitCode = 0 → ∃ config, invocation.settings.config disk = .ok config ∧
      Stored config.serverIdentity build suggestion disk report.disk) ∧
    (report.exitCode = 1 → report.Unsaved →
      ∃ (config : Config) (cause : Error), invocation.settings.config disk = .ok config ∧
        report.complaint = some ("error: " ++ (Failure.saving cause).message) ∧
        Stored config.serverIdentity build suggestion disk report.disk) ∧
    (report.exitCode = 1 → ¬ report.Unsaved →
      report.disk.read build.suggestionsFile = disk.read build.suggestionsFile) := by
  have hperform : perform invocation disk =
      withConfig invocation.settings disk fun config => performRecord config build suggestion disk := by
    rw [perform, ha]
  rw [withConfig] at hperform
  dsimp only
  rw [run_of_parse hp]
  rcases hc : invocation.settings.config disk with failure | config <;> rw [hc] at hperform
  · have hanswer : (perform invocation disk).answer = .error failure := by rw [hperform]
    obtain ⟨hexit, -, hdisk⟩ := Invocation.run_error hanswer
    rw [hexit, hdisk, hperform, Invocation.unsaved_iff hanswer]
    refine ⟨.inr rfl, nofun, ?_, fun _ _ => rfl⟩
    rintro - ⟨cause, hcause⟩
    exact absurd hcause (Settings.config_ne_saving hc cause)
  · dsimp only at hperform
    rcases performRecord_cases config build suggestion disk with
      ⟨failure, hanswer, hother, hdisk⟩ |
      ⟨reporter, reading, h, hdisk, ⟨-, text, hanswer⟩ | ⟨cause, -, hanswer⟩⟩ <;>
      rw [← hperform] at hanswer hdisk
    · obtain ⟨hexit, -, hleft⟩ := Invocation.run_error hanswer
      rw [hexit, hleft, Invocation.unsaved_iff hanswer]
      refine ⟨.inr rfl, nofun, ?_, fun _ _ => read_of_refused hdisk⟩
      rintro - ⟨cause, hcause⟩
      exact absurd hcause (hother cause)
    · obtain ⟨hexit, -, hleft⟩ := Invocation.run_ok hanswer
      rw [hexit, hleft, hdisk]
      exact ⟨.inl rfl, fun _ => ⟨config, rfl, h.stored⟩, nofun, nofun⟩
    · obtain ⟨hexit, hcomplaint, hleft⟩ := Invocation.run_error hanswer
      rw [hexit, hleft, hdisk, Invocation.unsaved_iff hanswer]
      refine ⟨.inr rfl, nofun, fun _ _ => ⟨config, cause, rfl, hcomplaint, h.stored⟩, fun _ hn => ?_⟩
      exact absurd ⟨cause, rfl⟩ hn

/-- A suggestion for a test that has one already goes in front of it. One with a line break in its reason is
refused, and the file stays as it is. -/
theorem run_record_again :
    let arguments (reason : String) := ["record", "--artifacts-dir=a", "--test", "t1", "--investigator",
      "u2", "--reason", reason, "--server-uuid", "s"]
    let build : Build := ⟨0, ⟨"a"⟩⟩
    let disk := Build.diskWith "serverUUID\ts\nt1\tu1\tr\n"
    let report := run (arguments "-") disk
    let refused := run (arguments "x\ny") disk
    report.exitCode = 0 ∧ (SuggestionStore.read report.disk ⟨"s"⟩ build.suggestionsFile).map
        Sheet.Reading.suggestions = .ok [⟨"t1", "u2", "-"⟩, ⟨"t1", "u1", "r"⟩] ∧
      refused.exitCode = 1 ∧
      refused.disk.read build.suggestionsFile = disk.read build.suggestionsFile := by
  intro arguments build disk report refused
  let settings : Settings := ⟨none, some "s", none⟩
  let broken : Invocation := ⟨settings, false, .record build ⟨"t1", "u2", "x\ny"⟩⟩
  have hp : parse (arguments "-") = .ok ⟨settings, false, .record build ⟨"t1", "u2", "-"⟩⟩ := by
    decide +kernel
  have hbroken : parse (arguments "x\ny") = .ok broken := by decide +kernel
  have hconfig : settings.config disk = .ok { serverUuid := "s" } := rfl
  have hbefore : (SuggestionStore.read disk ⟨"s"⟩ build.suggestionsFile).map
      Sheet.Reading.suggestions = .ok [⟨"t1", "u1", "r"⟩] := by decide +kernel
  have hexit : report.exitCode = 0 := by decide +kernel
  have hanswer : (perform broken disk).answer =
      .error (.recording 0 (.invalidSuggestion "t1" "reason contains a line break")) := by decide +kernel
  have hrefused : refused.exitCode = 1 := by
    unfold refused
    rw [run_of_parse hbroken, (Invocation.run_error hanswer).1]
  have hsaved : ¬ refused.Unsaved := by
    unfold refused
    rw [run_of_parse hbroken, Invocation.unsaved_iff hanswer]
    rintro ⟨cause, hcause⟩
    cases hcause
  obtain ⟨config, hc, old, hold, hnew⟩ := (run_record hp rfl disk).2.1 hexit
  cases hconfig.symm.trans hc
  cases hbefore.symm.trans hold
  exact ⟨hexit, hnew, hrefused, (run_record hbroken rfl disk).2.2.2 hrefused hsaved⟩

/-- The suggestions file itself is given as the data directory. It is no directory by the time when the
counts are to be saved, so the command fails, and the suggestion is stored. -/
theorem run_record_unsaved :
    let arguments := ["--config", "c", "record", "--artifacts-dir", "a", "--test", "t",
      "--investigator", "u", "--reason", "r"]
    let file : Path := ⟨"a/.teamcity/investigationsAutoAssigner/suggestions.txt"⟩
    let config := "server_uuid = \"s\"\nplugin_data_dir = \"" ++ file.text ++
      "\"\nstatistics_enabled = true\n"
    let disk : Disk := ⟨.directory [("c", .file (Utf8.encode config)),
      ("a", .directory [(hostDirectoryName, .directory [])])], []⟩
    let report := run arguments disk
    report.exitCode = 1 ∧ disk.read file = .error .notFound ∧
      report.disk.read file = .ok (Utf8.encode "serverUUID\ts\nt\tu\tr\n") := by
  decide +kernel

end Command

end Investigations
