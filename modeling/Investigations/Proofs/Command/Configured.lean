/-
The identity that a command works under. It is given with the command or stands in the configuration
file, and a file with a blank one can not be loaded, whatever is given in its place
(`Config.not_blank_of_load`). All that a command reads or stores of suggestions, it reads and stores under
this identity (`WorksUnder`). A line break in it is not found when the configuration is loaded, but when a
suggestion is to be saved, before any file is touched (`RefusesBreaks`).
-/
import Investigations.Proofs.Build.Resolve
import Investigations.Proofs.Command.Shown
import Investigations.Proofs.Suggestion.Verdict

namespace Investigations

open Files Json

namespace ServerIdentity

/-- Nothing but white space, or nothing at all. -/
def Blank (identity : ServerIdentity) : Prop := ∀ c ∈ identity.value.toList, Text.isBlank c = true

/-- There is a line break in the identity. -/
def Broken (identity : ServerIdentity) : Prop :=
  '\n' ∈ identity.value.toList ∨ '\r' ∈ identity.value.toList

theorem blank_iff {identity : ServerIdentity} :
    identity.Blank ↔ Text.allBlank identity.value = true := List.all_eq_true.symm

instance (identity : ServerIdentity) : Decidable identity.Blank := decidable_of_iff _ blank_iff.symm

instance (identity : ServerIdentity) : Decidable identity.Broken := inferInstanceAs (Decidable (_ ∨ _))

theorem not_broken_iff {identity : ServerIdentity} :
    ¬ identity.Broken ↔ identity.hasLineBreak = false := by
  rw [Broken, not_or, hasLineBreak, any_isLineBreak]

end ServerIdentity

/-! ## Configurations that are accepted -/

namespace Config

variable {config : Config}

theorem ofText_eq_ok_iff {text : String} :
    ofText text = .ok config ↔
      (Toml.parse? text).bind ofEntries? = some config ∧ ¬ config.serverIdentity.Blank := by
  rw [ServerIdentity.blank_iff, ofText]
  constructor
  · intro h
    split at h
    · cases h
    · rename_i found hf
      split at h
      · cases h
      · rename_i hn
        cases h
        exact ⟨hf, hn⟩
  · rintro ⟨hf, hn⟩
    rw [hf]
    exact if_neg hn

theorem load_eq_ok_iff {disk : Disk} {path : Path} :
    load disk path = .ok config ↔
      ∃ text, disk.read path = .ok (Utf8.encode text) ∧ ofText text = .ok config := by
  unfold load
  constructor
  · intro h
    split at h
    · cases h
    · rename_i bytes hr
      split at h
      · cases h
      · rename_i text hd
        exact ⟨text, by rw [hr, Utf8.decode?_eq_some_iff.1 hd], h⟩
  · rintro ⟨text, hr, ht⟩
    rw [hr]
    dsimp only
    rw [Utf8.decode?_encode]
    exact ht

/-- No file has a blank identity and can be loaded. -/
theorem not_blank_of_load {disk : Disk} {path : Path} (h : load disk path = .ok config) :
    ¬ config.serverIdentity.Blank := by
  obtain ⟨text, -, ht⟩ := load_eq_ok_iff.1 h
  exact (ofText_eq_ok_iff.1 ht).2

end Config

/-! ## Failures that are for the files -/

theorem StatisticsStore.read_fault {store : StatisticsStore} {disk : Disk} {cause : Error}
    (h : (store.read disk).answer = .error cause) : ∃ fault, cause = .io fault := by
  unfold read at h
  split at h
  · cases h
  · cases h
    exact ⟨_, rfl⟩
  · split at h <;> cases h
    exact ⟨_, rfl⟩

theorem StatisticsStore.write_fault {store : StatisticsStore} {disk : Disk} {statistics : Statistics}
    {cause : Error} (h : (store.write disk statistics).1.answer = .error cause) :
    ∃ fault, cause = .io fault := by
  unfold write at h
  split at h
  · cases h
  · split at h
    · cases h
      exact ⟨_, rfl⟩
    · split at h <;> cases h
      exact ⟨_, rfl⟩

/-- Saving counts fails for the files only. -/
theorem Reporter.save_fault {reporter : Reporter} {disk : Disk} {cause : Error}
    (h : (reporter.save disk).1.answer = .error cause) : ∃ fault, cause = .io fault := by
  unfold save at h
  split at h
  · exact StatisticsStore.write_fault h
  · cases h

theorem SuggestionStore.read_fault {disk : Disk} {identity : ServerIdentity} {path : Path}
    {cause : Error} (h : read disk identity path = .error cause) : ∃ fault, cause = .io fault := by
  unfold read at h
  split at h <;> cases h
  exact ⟨_, rfl⟩

theorem Build.resolve_ne_config {build : Build} {disk : Disk} {text : Option String} :
    (build.resolve disk).answer ≠ .error (.config text) := by
  intro h
  unfold resolve at h
  split at h
  · split at h
    · cases h
    · split at h <;> cases h
  · cases h

/-- What keeps the suggestions from before from being known is a directory or a file. -/
theorem Build.held_ne_config {build : Build} {identity : ServerIdentity} {disk : Disk}
    {text : Option String} : build.held identity disk ≠ .error (.config text) := by
  intro h
  unfold held at h
  rcases hl : (build.resolve disk).answer with failure | path <;> rw [hl] at h
  · cases h
    exact resolve_ne_config hl
  · dsimp only [Except.bind] at h
    rcases hr : SuggestionStore.read (build.resolve disk).disk identity path with cause | reading <;>
      rw [hr] at h <;> cases h
    obtain ⟨fault, hf⟩ := SuggestionStore.read_fault hr
    cases hf

/-- Adding suggestions is refused for the identity once all else has been checked. -/
theorem Build.append_config_iff {build : Build} {identity : ServerIdentity} {new : List Suggestion}
    (hn : new ≠ []) (reporter : Reporter) {disk : Disk} {text : Option String} :
    (build.append identity new reporter disk).1.answer = .error (.config text) ↔
      (∃ old, build.held identity disk = .ok old ∧ ∀ s ∈ new ++ old, s.Clean) ∧
        identity.Broken ∧ text = some (SuggestionStore.brokenIdentity identity) := by
  have happend := congrArg Prod.fst (build.append_eq identity hn reporter disk)
  dsimp only at happend
  rw [happend]
  rcases hh : build.held identity disk with failure | old
  · have hne : failure ≠ .config text := by
      rintro rfl
      exact held_ne_config hh
    simp [hne]
  · dsimp only
    constructor
    · intro h
      have hsave : (SuggestionStore.save (build.resolve disk).disk identity build.suggestionsFile
          (new ++ old)).answer = .error (.config text) := by
        rcases hs : (SuggestionStore.save (build.resolve disk).disk identity build.suggestionsFile
          (new ++ old)).answer with failure | done <;> rw [hs] at h <;> cases h
        rfl
      obtain ⟨hclean, hbroken, htext⟩ := SuggestionStore.save_config_iff.1 hsave
      exact ⟨⟨old, rfl, hclean⟩, hbroken, htext⟩
    · rintro ⟨⟨_, ⟨⟩, hclean⟩, hbroken, htext⟩
      rw [SuggestionStore.save_config_iff.2 ⟨hclean, hbroken, htext⟩]
      rfl

namespace Command

/-! ## Where the identity comes from -/

/-- A configuration is loaded from the file, if one is given, and what is given with the command goes
before it. -/
theorem Settings.config_eq_ok_iff {settings : Settings} {disk : Disk} {config : Config} :
    settings.config disk = .ok config ↔
      (∃ path file, settings.configFile = some path ∧ Config.load disk path = .ok file ∧
        config = settings.override file) ∨
      settings.configFile = none ∧ ∃ uuid, settings.serverUuid = some uuid ∧
        config = settings.override { serverUuid := uuid } := by
  unfold Settings.config
  rcases settings.configFile with _ | path
  · rcases settings.serverUuid with _ | uuid
    · simp
    · simp [eq_comm]
  · rcases hl : Config.load disk path with cause | file
    · simp [hl]
    · simp [hl, eq_comm]

/-- There is an identity to be used: one is given with the command or a configuration file is, what is given
is not blank, and the file can be loaded. -/
structure Settings.Usable (settings : Settings) (disk : Disk) : Prop where
  source : settings.configFile ≠ none ∨ settings.serverUuid ≠ none
  given : ∀ uuid, settings.serverUuid = some uuid → ¬ (⟨uuid⟩ : ServerIdentity).Blank
  file : ∀ path, settings.configFile = some path → ∃ file, Config.load disk path = .ok file

/-- Where the identity of a command comes from. -/
structure Settings.Named (settings : Settings) (disk : Disk) (identity : ServerIdentity) : Prop where
  /-- What is given with the command goes before the file. -/
  given : ∀ uuid, settings.serverUuid = some uuid → identity = ⟨uuid⟩
  /-- Otherwise it is the identity of a configuration file. -/
  stored : settings.serverUuid = none → ∃ path file, settings.configFile = some path ∧
    Config.load disk path = .ok file ∧ identity = file.serverIdentity
  /-- A configuration file has an identity that is not blank, also where it does not count. -/
  file : ∀ path, settings.configFile = some path →
    ∃ file, Config.load disk path = .ok file ∧ ¬ file.serverIdentity.Blank

variable {settings : Settings} {disk : Disk} {config : Config}

theorem Settings.Usable.configured (h : settings.Usable disk) :
    ∃ config, settings.config disk = .ok config := by
  rcases hp : settings.configFile with _ | path
  · rcases hu : settings.serverUuid with _ | uuid
    · rcases h.source with hn | hn
      · exact absurd hp hn
      · exact absurd hu hn
    · exact ⟨_, Settings.config_eq_ok_iff.2 (.inr ⟨hp, uuid, hu, rfl⟩)⟩
  · obtain ⟨file, hl⟩ := h.file path hp
    exact ⟨_, Settings.config_eq_ok_iff.2 (.inl ⟨path, file, hp, hl, rfl⟩)⟩

theorem Settings.Named.of_config (h : settings.config disk = .ok config) :
    settings.Named disk config.serverIdentity := by
  rcases Settings.config_eq_ok_iff.1 h with ⟨path, file, hp, hl, rfl⟩ | ⟨hp, uuid, hu, rfl⟩
  · constructor
    · intro uuid hu
      simp [Config.serverIdentity, override, hu]
    · intro hu
      exact ⟨path, file, hp, hl, by simp [Config.serverIdentity, override, hu]⟩
    · rintro _ hq
      cases hp.symm.trans hq
      exact ⟨file, hl, Config.not_blank_of_load hl⟩
  · constructor
    · intro other ho
      simp [Config.serverIdentity, override, ho]
    · intro hn
      cases hn.symm.trans hu
    · intro path hq
      cases hp.symm.trans hq

/-- The identity is not blank, unless a blank one is given with the command. -/
theorem Settings.Named.not_blank {identity : ServerIdentity} (h : settings.Named disk identity)
    (hg : ∀ uuid, settings.serverUuid = some uuid → ¬ (⟨uuid⟩ : ServerIdentity).Blank) :
    ¬ identity.Blank := by
  rcases hu : settings.serverUuid with _ | uuid
  · obtain ⟨path, file, hp, hl, rfl⟩ := h.stored hu
    exact Config.not_blank_of_load hl
  · rw [h.given uuid hu]
    exact hg uuid hu

/-! ## Recording under an identity -/

variable {build : Build} {suggestion : Suggestion}

/-- Once a suggestion has been added, the file has been written under the identity, whether the counts
can be saved or not. -/
theorem Recorded.read_bytes {reporter : Reporter} {reading : Sheet.Reading}
    (h : Recorded config build suggestion disk reporter reading) :
    (savedCounts config build suggestion disk reporter).1.disk.read build.suggestionsFile =
      .ok (Sheet.encode config.serverIdentity (suggestion :: reading.suggestions)) := by
  have hleft := Reporter.look_save h.added.look_after
    (build.append config.serverIdentity [suggestion] reporter disk).2
  rw [savedCounts, Disk.read_eq, hleft]
  rfl

/-- What went wrong, where something did. -/
def Failure.cause? : Failure → Option Error
  | .noIdentity | .noDataDirectory => none
  | .loading _ cause | .recording _ cause | .saving cause | .plain cause => some cause

/-- A suggestion is not recorded because of a line break in the identity. -/
def refusal (build : Build) (identity : ServerIdentity) : Failure :=
  .recording build.id (.config (some (SuggestionStore.brokenIdentity identity)))

/-- Recording comes as far as to the identity: the counts are open, and neither the suggestion nor one of
those from before has a defect. -/
structure ReachesIdentity (config : Config) (build : Build) (suggestion : Suggestion) (disk : Disk) :
    Prop where
  opened : ∃ reporter, (openReporter config disk).1 = .ok reporter
  clean : ∃ old, build.held config.serverIdentity disk = .ok old ∧ ∀ s ∈ suggestion :: old, s.Clean

/-- Counts are opened, or a file is to blame. -/
theorem openReporter_fault {cause : Error} (h : (openReporter config disk).1 = .error cause) :
    ∃ fault, cause = .io fault := by
  unfold openReporter at h
  split at h
  · rename_i directory hd
    unfold Reporter.new at h
    rcases hr : ((StatisticsStore.ofDataDirectory directory).read disk).answer with failure | statistics <;>
      dsimp only at h <;> rw [hr] at h <;> cases h
    exact StatisticsStore.read_fault hr
  · cases h

/-- Recording fails for the counts, which can not be opened or saved because of a file, or because the
suggestion can not be added. -/
theorem performRecord_error {failure : Failure}
    (h : (performRecord config build suggestion disk).answer = .error failure) :
    (∃ fault, failure = .plain (.io fault) ∨ failure = .saving (.io fault)) ∨
    ∃ reporter cause, (openReporter config disk).1 = .ok reporter ∧
      (build.append config.serverIdentity [suggestion] reporter disk).1.answer = .error cause ∧
      failure = .recording build.id cause := by
  unfold performRecord at h
  rcases ho : openReporter config disk with ⟨cause | reporter, events⟩ <;> rw [ho] at h
  · cases h
    obtain ⟨fault, rfl⟩ := openReporter_fault (congrArg Prod.fst ho)
    exact .inl ⟨fault, .inl rfl⟩
  · dsimp only at h
    rcases ha : (build.append config.serverIdentity [suggestion] reporter disk).1.answer with
      cause | added <;> rw [ha] at h
    · cases h
      exact .inr ⟨reporter, cause, rfl, ha, rfl⟩
    · dsimp only at h
      split at h
      · rename_i cause hs
        cases h
        obtain ⟨fault, rfl⟩ := Reporter.save_fault hs
        exact .inl ⟨fault, .inr rfl⟩
      · cases h

theorem performRecord_of_append_error {reporter : Reporter} {cause : Error}
    (ho : (openReporter config disk).1 = .ok reporter)
    (ha : (build.append config.serverIdentity [suggestion] reporter disk).1.answer = .error cause) :
    (performRecord config build suggestion disk).answer = .error (.recording build.id cause) := by
  unfold performRecord
  rcases hopen : openReporter config disk with ⟨answer, events⟩
  rw [hopen] at ho
  cases ho
  dsimp only
  rw [ha]

/-- Recording is refused for the configuration once all else has been checked, and for a line break in the
identity only. -/
theorem performRecord_config_iff {failure : Failure} :
    ((performRecord config build suggestion disk).answer = .error failure ∧
      ∃ text, failure.cause? = some (.config text)) ↔
    failure = refusal build config.serverIdentity ∧ config.serverIdentity.Broken ∧
      ReachesIdentity config build suggestion disk := by
  have hone : [suggestion] ≠ [] := List.cons_ne_nil _ _
  constructor
  · rintro ⟨hanswer, text, hcause⟩
    rcases performRecord_error hanswer with ⟨fault, rfl | rfl⟩ | ⟨reporter, cause, ho, ha, rfl⟩
    · cases hcause
    · cases hcause
    · cases hcause
      obtain ⟨hclean, hbroken, rfl⟩ := (Build.append_config_iff hone reporter).1 ha
      exact ⟨rfl, hbroken, ⟨reporter, ho⟩, hclean⟩
  · rintro ⟨rfl, hbroken, ⟨reporter, ho⟩, hclean⟩
    have ha := (Build.append_config_iff hone reporter).2 ⟨hclean, hbroken, rfl⟩
    exact ⟨performRecord_of_append_error ho ha, _, rfl⟩

/-- Under an identity with a line break nothing is recorded: no file is touched, and our directory is made
at most. -/
theorem performRecord_of_broken (h : config.serverIdentity.Broken) :
    let performed := performRecord config build suggestion disk
    (∃ failure, performed.answer = .error failure) ∧
      disk.Changed (performed.disk.Leads build.pluginDirectory) (fun _ => False) performed.disk := by
  intro performed
  rcases performRecord_cases config build suggestion disk with
    ⟨failure, hanswer, -, hdisk⟩ | ⟨reporter, reading, hrecorded, -⟩
  · refine ⟨⟨failure, hanswer⟩, ?_⟩
    rcases hdisk with hdisk | hdisk
    · have hleft : performed.disk = disk := hdisk
      rw [hleft]
      exact .refl ..
    · have hleft : performed.disk = (build.resolve disk).disk := hdisk
      rw [hleft]
      exact build.resolve_changed disk
  · -- What has been added was saved, and what was saved has been checked.
    have hchecked := (SuggestionStore.save_ok hrecorded.added.saved).2.1
    exact absurd h (ServerIdentity.not_broken_iff.2 hchecked)

/-! ## What a configured command does -/

/-- What a command does with suggestions, it does under the identity of its configuration. It shows those
that a reader of this identity finds. If it does not leave a suggestions file as it is, it writes it under
the identity, with the new suggestion in front of what a reader finds. The counts are the same under any
identity. -/
structure WorksUnder (config : Config) (invocation : Invocation) (disk : Disk) (report : Report) :
    Prop where
  all : ∀ build, invocation.action = .suggestions build none →
    report.disk = disk ∧
      match build.view disk config.serverIdentity with
      | .ok held => report.exitCode = 0 ∧ ShowsAll report.printed held
      | .error cause =>
        report.exitCode = 1 ∧ report.complaint = some ("error: " ++ cause.message)
  one : ∀ build testNameId, invocation.action = .suggestions build (some testNameId) →
    report.disk = disk ∧ report.exitCode = 0 ∧ ShowsOne report.printed
      (((build.view disk config.serverIdentity).toOption.getD []).find?
        (·.testNameId = testNameId))
  record : ∀ build suggestion, invocation.action = .record build suggestion →
    (report.exitCode = 1 ∧
      report.disk.read build.suggestionsFile = disk.read build.suggestionsFile) ∨
    ∃ old, build.view disk config.serverIdentity = .ok old ∧
      report.disk.read build.suggestionsFile =
        .ok (Sheet.encode config.serverIdentity (suggestion :: old))
  stats : invocation.action = .stats → report.disk = disk ∧
    ∀ uuid, (performStats { config with serverUuid := uuid } disk).answer =
      (perform invocation disk).answer

/-- A line break in the identity is found when a suggestion is to be recorded. -/
structure RefusesBreaks (config : Config) (build : Build) (suggestion : Suggestion)
    (invocation : Invocation) (disk : Disk) (report : Report) : Prop where
  /-- Nothing is recorded under an identity with a line break. -/
  untouched : config.serverIdentity.Broken → report.exitCode = 1 ∧
    disk.Changed (report.disk.Leads build.pluginDirectory) (fun _ => False) report.disk
  /-- It is refused for the configuration, if there is no other reason. -/
  refused : config.serverIdentity.Broken → ReachesIdentity config build suggestion disk →
    report.complaint = some ("error: " ++ (refusal build config.serverIdentity).message)
  /-- Nothing else is ever refused for the configuration once that has been loaded. -/
  only : ∀ failure text, (perform invocation disk).answer = .error failure →
    failure.cause? = some (.config text) →
      failure = refusal build config.serverIdentity ∧ config.serverIdentity.Broken ∧
        ReachesIdentity config build suggestion disk

theorem performStats_disk (config : Config) (disk : Disk) : (performStats config disk).disk = disk := by
  unfold performStats
  split
  · rfl
  · rcases openReporter config disk with ⟨cause | reporter, events⟩ <;> rfl

variable {arguments : List String} {invocation : Invocation}

theorem WorksUnder.of_config (hp : parse arguments = .ok invocation)
    (hc : invocation.settings.config disk = .ok config) :
    WorksUnder config invocation disk (run arguments disk) := by
  obtain ⟨settings, verbose, action⟩ := invocation
  constructor
  case all =>
    rintro build rfl
    exact run_show_all hp hc
  case one =>
    rintro build testNameId rfl
    exact run_show_one hp hc
  case record =>
    rintro build suggestion rfl
    have hperform := perform_record hc rfl
    rw [run_of_parse hp, Invocation.run_disk, hperform]
    rcases performRecord_cases config build suggestion disk with
      ⟨failure, hanswer, -, hdisk⟩ | ⟨reporter, reading, h, hdisk, -⟩
    · rw [← hperform] at hanswer
      exact .inl ⟨(Invocation.run_error hanswer).1, read_of_refused hdisk⟩
    · have hview := Build.view_of_held (Build.held_of_read h.added.located h.added.read)
      rw [hdisk]
      exact .inr ⟨reading.suggestions, hview, h.read_bytes⟩
  case stats =>
    rintro rfl
    rw [run_of_parse hp, Invocation.run_disk, perform_stats hc rfl]
    exact ⟨performStats_disk config disk, fun uuid => rfl⟩

theorem RefusesBreaks.of_config {build : Build} {suggestion : Suggestion}
    (hp : parse arguments = .ok invocation) (hc : invocation.settings.config disk = .ok config)
    (ha : invocation.action = .record build suggestion) :
    RefusesBreaks config build suggestion invocation disk (run arguments disk) := by
  have hperform := perform_record hc ha
  rw [run_of_parse hp]
  constructor
  case untouched =>
    intro hb
    obtain ⟨⟨failure, hanswer⟩, hchanged⟩ := performRecord_of_broken hb
    rw [← hperform] at hanswer hchanged
    obtain ⟨hexit, -, hdisk⟩ := Invocation.run_error hanswer
    rw [hdisk]
    exact ⟨hexit, hchanged⟩
  case refused =>
    intro hb hr
    obtain ⟨hanswer, -⟩ := performRecord_config_iff.2 ⟨rfl, hb, hr⟩
    rw [← hperform] at hanswer
    exact (Invocation.run_error hanswer).2.1
  case only =>
    intro failure text hanswer htext
    rw [hperform] at hanswer
    exact performRecord_config_iff.1 ⟨hanswer, text, htext⟩

/-- The identity that a command works under, if its configuration can be loaded: the one that is given with
the command, otherwise the one of the configuration file. It is not blank, unless a blank one is given.
All suggestions are read and stored under it. Nothing is recorded under an identity with a line break, and
nothing else about a configuration that has been loaded keeps a suggestion from being recorded. What is
usable is loaded, and a command whose configuration can not be loaded does nothing. -/
theorem configured_identity (hp : parse arguments = .ok invocation) (disk : Disk) :
    let report := run arguments disk
    (invocation.settings.Usable disk → ∃ config, invocation.settings.config disk = .ok config) ∧
    (∀ failure, invocation.settings.config disk = .error failure →
      (∀ build create, invocation.action ≠ .path build create) →
        report.exitCode = 1 ∧ report.printed = "" ∧ report.disk = disk) ∧
    ∀ config, invocation.settings.config disk = .ok config →
      invocation.settings.Named disk config.serverIdentity ∧
      ((∀ uuid, invocation.settings.serverUuid = some uuid → ¬ (⟨uuid⟩ : ServerIdentity).Blank) →
        ¬ config.serverIdentity.Blank) ∧
      WorksUnder config invocation disk report ∧
      ∀ build suggestion, invocation.action = .record build suggestion →
        RefusesBreaks config build suggestion invocation disk report := by
  intro report
  refine ⟨Settings.Usable.configured, ?failed, ?loaded⟩
  case failed =>
    intro failure hf hpath
    have hperform : perform invocation disk = ⟨.error failure, disk, []⟩ := by
      unfold perform
      split
      · rename_i build create ha
        exact absurd ha (hpath build create)
      all_goals rw [withConfig, hf]
    have hreport : report = invocation.run disk := run_of_parse hp disk
    rw [hreport, Invocation.run, hperform]
    exact ⟨rfl, rfl, rfl⟩
  case loaded =>
    intro config hc
    have hnamed := Settings.Named.of_config hc
    exact ⟨hnamed, hnamed.not_blank, .of_config hp hc, fun build suggestion => .of_config hp hc⟩

/-- A configuration file has an identity with white space around it, and suggestions stored under it are
shown. Another identity that ends in a carriage return is given before it, and nothing is recorded. -/
theorem configured_identity_returned :
    let options := ["--config", "c"]
    let shown := options ++ ["show", "--artifacts-dir", "a"]
    let record := options ++ ["record", "--server-uuid", "s\r", "--artifacts-dir", "a", "--test", "t",
      "--investigator", "u", "--reason", "r"]
    let disk : Disk := ⟨.directory [("c", .file (Utf8.encode "server_uuid = \" s\\u00a0\"\n")),
      ("a", .directory [(hostDirectoryName, .directory [(pluginDirectoryName, .directory
        [(suggestionsFileName, .file (Utf8.encode "serverUUID\t s\u00a0\n1\t2\t3\n"))])])])], []⟩
    ¬ (⟨" s\u00a0"⟩ : ServerIdentity).Blank ∧
      (Value.parse? (run shown disk).printed).bind Suggestion.listOfJson? = some [⟨"1", "2", "3"⟩] ∧
      (run record disk).complaint = some ("error: failed to record suggestion for build 0: " ++
        "config error: server identity \"s\\r\" contains a line break") := by
  intro options shown record disk
  let build : Build := ⟨0, ⟨"a"⟩⟩
  let suggestion : Suggestion := ⟨"t", "u", "r"⟩
  let stored : Config := { serverUuid := " s\u00a0" }
  let given : Config := { serverUuid := "s\r" }
  have hshow : parse shown = .ok ⟨⟨some ⟨"c"⟩, none, none⟩, false, .suggestions build none⟩ := by
    decide +kernel
  have hrecord : parse record =
      .ok ⟨⟨some ⟨"c"⟩, some "s\r", none⟩, false, .record build suggestion⟩ := by
    decide +kernel
  have hstored : (⟨some ⟨"c"⟩, none, none⟩ : Settings).config disk = .ok stored := by decide +kernel
  have hgiven : (⟨some ⟨"c"⟩, some "s\r", none⟩ : Settings).config disk = .ok given := by
    decide +kernel
  obtain ⟨-, hblank, hworks, -⟩ := (configured_identity hshow disk).2.2 stored hstored
  obtain ⟨-, -, -, hrefuses⟩ := (configured_identity hrecord disk).2.2 given hgiven
  have hview : build.view disk stored.serverIdentity = .ok [⟨"1", "2", "3"⟩] := by decide +kernel
  have hshown := (hworks.all build rfl).2
  rw [hview] at hshown
  have hreaches : ReachesIdentity given build suggestion disk := by
    refine ⟨⟨.inMemory, rfl⟩, [], by decide +kernel, List.forall_mem_singleton.2 ?_⟩
    exact Suggestion.clean_iff.2 (by decide +kernel)
  have hbroken : given.serverIdentity.Broken := .inr (by decide)
  have hmessage : "error: " ++ (refusal build given.serverIdentity).message =
      "error: failed to record suggestion for build 0: " ++
        "config error: server identity \"s\\r\" contains a line break" := by decide +kernel
  rw [← hmessage]
  exact ⟨hblank nofun, hshown.2.read, (hrefuses build suggestion rfl).refused hbroken hreaches⟩

/-- An identity with a line break stands in a configuration file. The file is loaded, and a suggestion without
a defect is refused. A blank identity is given with the command, and the suggestion is stored under it. -/
theorem configured_identity_broken :
    let record := ["record", "--artifacts-dir", "a", "--test", "t", "--investigator", "u", "--reason", "r"]
    let build : Build := ⟨0, ⟨"a"⟩⟩
    let suggestion : Suggestion := ⟨"t", "u", "r"⟩
    let disk : Disk := ⟨.directory [("c", .file (Utf8.encode "server_uuid = \"s\\nt\"\n")),
      ("a", .directory [(hostDirectoryName, .directory [])])], []⟩
    let stored : Settings := ⟨some ⟨"c"⟩, none, none⟩
    let given : Settings := ⟨none, some " ", none⟩
    let broken := run (["--config", "c"] ++ record) disk
    let blank := run (["--server-uuid", " "] ++ record) disk
    suggestion.defect? = none ∧
      parse (["--config", "c"] ++ record) = .ok ⟨stored, false, .record build suggestion⟩ ∧
      stored.config disk = .ok { serverUuid := "s\nt" } ∧ (⟨"s\nt"⟩ : ServerIdentity).Broken ∧
      broken.exitCode = 1 ∧ broken.complaint = some ("error: failed to record suggestion for build 0: " ++
        "config error: server identity \"s\\nt\" contains a line break") ∧
      parse (["--server-uuid", " "] ++ record) = .ok ⟨given, false, .record build suggestion⟩ ∧
      given.config disk = .ok { serverUuid := " " } ∧ (⟨" "⟩ : ServerIdentity).Blank ∧
      blank.exitCode = 0 ∧ blank.disk.read build.suggestionsFile =
        .ok (Sheet.encode ⟨" "⟩ [suggestion]) := by
  decide +kernel

end Command

end Investigations
