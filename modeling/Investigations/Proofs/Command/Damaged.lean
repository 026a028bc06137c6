/-
Damaged counts. The statistics file is read as a text, and a text that is not current statistics is
discarded: counting starts afresh, and no command is refused for what the file says
(`damaged_counts`). Bytes that are no text are not discarded. They fail every read, and with it every
command that counts, until somebody takes the file away (`damaged_counts_undecodable`).
-/
import Investigations.Proofs.Command.Installation
import Investigations.Proofs.Files.Shape
import Investigations.Proofs.Statistics.Remembered

namespace Investigations

open Files

/-! ## What the bytes of a statistics file say -/

namespace StatisticsStore

/-- The bytes are the JSON text of statistics of the current version. -/
def Holds (content : List UInt8) (statistics : Statistics) : Prop :=
  ∃ text value, Utf8.encode text = content ∧ Json.Value.parse? text = some value ∧
    Statistics.ofJson? value = some statistics ∧ statistics.version = statisticsVersion

/-- Counting goes on from the statistics that the bytes hold, and starts afresh if they hold none. -/
structure GoesOnFrom (content : List UInt8) (statistics : Statistics) : Prop where
  current : ∀ held, Holds content held → statistics = held
  discarded : (∀ held, ¬ Holds content held) → statistics = .fresh

theorem holds_text_iff {text : String} {statistics : Statistics} :
    Holds (Utf8.encode text) statistics ↔ Content.ofText text = .current statistics := by
  unfold Holds Content.ofText
  constructor
  · -- No other text has these bytes.
    rintro ⟨text', value, he, hp, hs, hv⟩
    cases Utf8.encode_injective he
    rw [hp, Option.bind_some, hs]
    exact if_pos hv
  · intro h
    split at h
    · cases h
    · rename_i found hf
      split at h
      · rename_i hv
        cases h
        obtain ⟨value, hp, hs⟩ := Option.bind_eq_some_iff.1 hf
        exact ⟨text, value, rfl, hp, hs, hv⟩
      · cases h

/-- A file holds the statistics that were written to it. -/
theorem holds_encode {statistics : Statistics} (hv : statistics.version = statisticsVersion) :
    Holds (encode statistics) statistics := holds_text_iff.2 (ofText_pretty hv)

theorem goesOnFrom_ofText (text : String) :
    GoesOnFrom (Utf8.encode text) (Content.ofText text).statistics := by
  refine ⟨fun held h => ?_, fun h => ?_⟩
  · rw [holds_text_iff.1 h]
    rfl
  · rcases hc : Content.ofText text with statistics | version | _
    · exact absurd (holds_text_iff.2 hc) (h statistics)
    · rfl
    · rfl

/-- A text is read, whatever it says. -/
theorem read_of_text {store : StatisticsStore} {disk : Disk} {text : String}
    (h : disk.read store.path = .ok (Utf8.encode text)) :
    (store.read disk).answer = .ok (Content.ofText text).statistics := by
  unfold read
  rw [h]
  dsimp only
  rw [Utf8.decode?_encode]

/-- Bytes that are no text are not read. -/
theorem read_undecodable {store : StatisticsStore} {disk : Disk} {content : List UInt8}
    (h : disk.read store.path = .ok content) (hn : ∀ text, Utf8.encode text ≠ content) :
    store.read disk = ⟨.error (.io .invalidData), store, []⟩ := by
  have hdecode : Utf8.decode? content = none :=
    Option.eq_none_iff_forall_ne_some.2 fun text he => hn text (Utf8.decode?_eq_some_iff.1 he)
  unfold read
  rw [h]
  dsimp only
  rw [hdecode]

end StatisticsStore

/-! ## Reporters -/

/-- A reporter goes on from the statistics that are read. -/
theorem Reporter.new_ok {store : StatisticsStore} {disk : Disk} {statistics : Statistics}
    (h : (store.read disk).answer = .ok statistics) (enabled : Bool) :
    (new store enabled disk).1 = .ok ⟨{ store with onDisk := statistics }, statistics, enabled⟩ := by
  unfold new
  dsimp only
  rw [h, (StatisticsStore.read_ok h).2]
  rfl

theorem Reporter.new_error {store : StatisticsStore} {disk : Disk} {cause : Error}
    (h : (store.read disk).answer = .error cause) (enabled : Bool) :
    (new store enabled disk).1 = .error cause := by
  unfold new
  dsimp only
  rw [h]
  rfl

/-- Adding suggestions leaves a statistics file as it is. -/
theorem Build.look_append {disk : Disk} {store : StatisticsStore} {content : List UInt8}
    (h : disk.look store.path = .ok (.file content)) (build : Build) (identity : ServerIdentity)
    (new : List Suggestion) (reporter : Reporter) :
    (build.append identity new reporter disk).1.disk.look store.path = .ok (.file content) := by
  refine (build.append_changed identity new reporter disk).look_file h fun p hp hq => ?_
  have hlast := hp.getLast?_child isName_statisticsFileName
  rw [hq.getLast?_child Build.isName_suggestionsFileName] at hlast
  exact absurd hlast (by decide)

/-- Saving to a file that is there fails for want of a draft only. -/
theorem Reporter.save_error {reporter : Reporter} {disk : Disk} {dataDirectory : Path}
    {content : List UInt8} {cause : Error}
    (hd : reporter.store.directory = dataDirectory.child pluginDirectoryName)
    (hl : disk.look reporter.store.path = .ok (.file content))
    (h : (reporter.save disk).1.answer = .error cause) :
    ∃ fault, cause = .io fault ∧
      (∀ content, disk.makeDraft reporter.store.path content = .error fault) ∧
      (fault = .alreadyExists ∨ (disk.draftPath reporter.store.path).fault? = some fault) := by
  -- Where the file is, its directory is, and none is to be made.
  have hdirectory : disk.isDirectory reporter.store.directory = true := by
    refine Build.isDirectory_of_child isName_statisticsFileName hl ?_
    rw [hd]
    exact Path.text_child_ne_empty Build.isName_pluginDirectoryName
  have hmade : disk.makeDirectories reporter.store.directory = (.ok (), disk) := by
    rw [hd] at hdirectory ⊢
    exact Disk.makeDirectories_of_directory Build.isName_pluginDirectoryName hdirectory
  unfold save at h
  split at h
  · unfold StatisticsStore.write at h
    split at h
    · cases h
    · rw [hmade] at h
      dsimp only at h
      rcases hr : disk.replace reporter.store.path (StatisticsStore.encode reporter.statistics) with
        ⟨fault | done, left⟩ <;> rw [hr] at h <;> cases h
      exact ⟨fault, rfl, Disk.replace_error_of_look hl (congrArg Prod.fst hr)⟩
  · cases h

namespace Command

/-! ## Opening the counts -/

/-- The settings come to a configuration that has its counts in this data directory. -/
structure CountsIn (settings : Settings) (disk : Disk) (dataDirectory : Path) (config : Config) :
    Prop where
  configured : settings.config disk = .ok config
  data : config.dataDirectory = some dataDirectory

variable {invocation : Invocation} {config : Config} {dataDirectory : Path} {disk : Disk}
  {build : Build} {suggestion : Suggestion}

/-- Where the counts can not be opened, nothing is recorded. -/
theorem performRecord_of_unopened {cause : Error} (h : (openReporter config disk).1 = .error cause)
    (build : Build) (suggestion : Suggestion) :
    (performRecord config build suggestion disk).disk = disk ∧
      (performRecord config build suggestion disk).answer = .error (.plain cause) := by
  unfold performRecord
  rcases ho : openReporter config disk with ⟨answer, events⟩
  rw [ho] at h
  cases h
  exact ⟨rfl, rfl⟩

/-- Why a suggestion was not recorded, where the content of the statistics file is no reason. -/
inductive OtherReason (config : Config) (build : Build) (suggestion : Suggestion) (file : Path)
    (disk : Disk) : Failure → Prop
  /-- The suggestion can not be added, whatever has been counted. -/
  | refused {cause : Error} (h : ∀ reporter,
      (build.append config.serverIdentity [suggestion] reporter disk).1.answer = .error cause) :
      OtherReason config build suggestion file disk (.recording build.id cause)
  /-- Once the suggestion has been added, no draft of the file can be made, whatever it is to hold: there
  is no way to a draft, or no name for one. -/
  | unsaved {fault : Fault} (h : ∀ reporter content,
      (build.append config.serverIdentity [suggestion] reporter disk).1.disk.makeDraft file content =
        .error fault)
      (hf : fault = .alreadyExists ∨ (disk.draftPath file).fault? = some fault) :
      OtherReason config build suggestion file disk (.saving (.io fault))

/-- Once the counts are open, a suggestion is recorded, or it is not for another reason. -/
theorem performRecord_of_opened {reporter : Reporter} {content : List UInt8}
    (ho : (openReporter config disk).1 = .ok reporter)
    (hd : reporter.store.directory = dataDirectory.child pluginDirectoryName)
    (hl : disk.look reporter.store.path = .ok (.file content)) {failure : Failure}
    (hf : (performRecord config build suggestion disk).answer = .error failure) :
    OtherReason config build suggestion reporter.store.path disk failure := by
  unfold performRecord at hf
  rcases hopen : openReporter config disk with ⟨cause | opened, events⟩ <;> rw [hopen] at ho hf <;>
    cases ho
  have hother := fun other => build.append_other config.serverIdentity [suggestion] reporter other disk
  dsimp only at hf
  rcases ha : (build.append config.serverIdentity [suggestion] reporter disk).1.answer with
    cause | added <;> rw [ha] at hf
  · cases hf
    exact .refused fun other => (hother other).1.trans ha
  · -- The file is still there after the suggestion was added, and is all that is left to be written.
    have hstore := build.append_store config.serverIdentity [suggestion] reporter disk
    have hleft := build.append_changed config.serverIdentity [suggestion] reporter disk
    have hlook := Build.look_append hl build config.serverIdentity [suggestion] reporter
    dsimp only at hf
    split at hf
    · rename_i cause hs
      cases hf
      rw [← hstore] at hd hlook
      obtain ⟨fault, rfl, hdraft, hfault⟩ := Reporter.save_error hd hlook hs
      rw [hstore] at hdraft hfault
      rw [Disk.draftPath_congr hleft.cwd] at hfault
      refine .unsaved (fun other content => ?_) hfault
      rw [(hother other).2]
      exact hdraft content
    · cases hf

/-! ## What a statistics file does to the command -/

/-- Everything goes on from these statistics: every store of the data directory, whatever it remembers,
every reporter, and every command that counts. -/
structure GoesOn (dataDirectory : Path) (disk : Disk) (statistics : Statistics) : Prop where
  read : ∀ store : StatisticsStore, store.directory = dataDirectory.child pluginDirectoryName →
    (store.read disk).answer = .ok statistics ∧
      (store.read disk).store = { store with onDisk := statistics }
  reporter : ∀ store : StatisticsStore, store.directory = dataDirectory.child pluginDirectoryName →
    ∀ enabled, (Reporter.new store enabled disk).1 =
      .ok ⟨{ store with onDisk := statistics }, statistics, enabled⟩
  stats : ∀ (invocation : Invocation) (config : Config), invocation.action = .stats →
    CountsIn invocation.settings disk dataDirectory config →
      let report := invocation.run disk
      report.exitCode = 0 ∧ ShowsCounts report.printed statistics ∧ report.disk = disk
  record : ∀ (invocation : Invocation) (config : Config) (build : Build) (suggestion : Suggestion),
    invocation.action = .record build suggestion →
      CountsIn invocation.settings disk dataDirectory config →
        let report := invocation.run disk
        report.exitCode = 0 ∨ report.exitCode = 1 ∧ ∃ failure,
          OtherReason config build suggestion (StatisticsStore.ofDataDirectory dataDirectory).path disk
            failure ∧
          report.complaint = some ("error: " ++ failure.message)

/-- Nothing goes on: no store of the data directory can be read, there is no reporter, and every command
that counts is refused and changes nothing. -/
structure Halts (dataDirectory : Path) (disk : Disk) (cause : Error) : Prop where
  read : ∀ store : StatisticsStore, store.directory = dataDirectory.child pluginDirectoryName →
    store.read disk = ⟨.error cause, store, []⟩
  reporter : ∀ store : StatisticsStore, store.directory = dataDirectory.child pluginDirectoryName →
    ∀ enabled, (Reporter.new store enabled disk).1 = .error cause
  run : ∀ (invocation : Invocation) (config : Config),
    (invocation.action = .stats ∨
      ∃ build suggestion, invocation.action = .record build suggestion) →
      CountsIn invocation.settings disk dataDirectory config →
        let report := invocation.run disk
        report.exitCode = 1 ∧ report.complaint = some ("error: " ++ (Failure.plain cause).message) ∧
          report.disk = disk

/-- All stores of a data directory have one file. -/
theorem path_of_directory {store : StatisticsStore}
    (h : store.directory = dataDirectory.child pluginDirectoryName) :
    store.path = (StatisticsStore.ofDataDirectory dataDirectory).path := Reporter.path_eq h

theorem goesOn_of_text {text : String}
    (h : disk.read (StatisticsStore.ofDataDirectory dataDirectory).path = .ok (Utf8.encode text)) :
    GoesOn dataDirectory disk (StatisticsStore.Content.ofText text).statistics := by
  have hread : ∀ store : StatisticsStore,
      store.directory = dataDirectory.child pluginDirectoryName →
        (store.read disk).answer = .ok (StatisticsStore.Content.ofText text).statistics := by
    intro store hd
    rw [← path_of_directory hd] at h
    exact StatisticsStore.read_of_text h
  have hnew := Reporter.new_ok (hread (.ofDataDirectory dataDirectory) rfl)
  refine ⟨fun store hd => ⟨hread store hd, (StatisticsStore.read_ok (hread store hd)).2⟩,
    fun store hd => Reporter.new_ok (hread store hd), ?stats, ?record⟩
  case stats =>
    intro invocation config ha hc report
    obtain ⟨hdisk, hanswer⟩ := performStats_answer hc.data disk
    rw [← perform_stats hc.configured ha] at hdisk hanswer
    rw [openReporter_of_data hc.data, hnew] at hanswer
    obtain ⟨hexit, hprinted, hleft⟩ := Invocation.run_ok hanswer
    exact ⟨hexit, showsCounts_iff.2 hprinted, hleft.trans hdisk⟩
  case record =>
    intro invocation config build suggestion ha hc report
    rcases hanswer : (perform invocation disk).answer with failure | printed
    · obtain ⟨hexit, hcomplaint, -⟩ := Invocation.run_error hanswer
      have hopen := (openReporter_of_data hc.data disk).trans (hnew config.statisticsEnabled)
      rw [perform_record hc.configured ha] at hanswer
      exact .inr ⟨hexit, failure,
        performRecord_of_opened hopen rfl (Disk.look_of_read h) hanswer, hcomplaint⟩
    · exact .inl (Invocation.run_ok hanswer).1

theorem halts_of_undecodable {content : List UInt8}
    (h : disk.read (StatisticsStore.ofDataDirectory dataDirectory).path = .ok content)
    (hn : ∀ text, Utf8.encode text ≠ content) : Halts dataDirectory disk (.io .invalidData) := by
  have hread : ∀ store : StatisticsStore,
      store.directory = dataDirectory.child pluginDirectoryName →
        store.read disk = ⟨.error (.io .invalidData), store, []⟩ := by
    intro store hd
    rw [← path_of_directory hd] at h
    exact StatisticsStore.read_undecodable h hn
  have hnew : ∀ store : StatisticsStore,
      store.directory = dataDirectory.child pluginDirectoryName →
        ∀ enabled, (Reporter.new store enabled disk).1 = .error (.io .invalidData) :=
    fun store hd => Reporter.new_error (by rw [hread store hd])
  refine ⟨hread, hnew, ?_⟩
  intro invocation config ha hc report
  have hopen := (openReporter_of_data hc.data disk).trans (hnew _ rfl config.statisticsEnabled)
  have hperform : (perform invocation disk).disk = disk ∧
      (perform invocation disk).answer = .error (.plain (.io .invalidData)) := by
    rcases ha with ha | ⟨build, suggestion, ha⟩
    · have hstats := performStats_answer hc.data disk
      rwa [hopen, ← perform_stats hc.configured ha] at hstats
    · rw [perform_record hc.configured ha]
      exact performRecord_of_unopened hopen build suggestion
  obtain ⟨hexit, hcomplaint, hleft⟩ := Invocation.run_error hperform.2
  exact ⟨hexit, hcomplaint, hleft.trans hperform.1⟩

/-- Counts that are damaged are discarded, as long as the statistics file is a text. Whatever the text,
counting goes on from the statistics of the current version that it holds, such as were written to it,
and from fresh ones if it holds none, and no command is refused for it. A file that is no text is not
discarded: nothing that counts goes on. -/
theorem damaged_counts {content : List UInt8}
    (h : disk.read (StatisticsStore.ofDataDirectory dataDirectory).path = .ok content) :
    ((∃ text, Utf8.encode text = content) → ∃ statistics,
      StatisticsStore.GoesOnFrom content statistics ∧ GoesOn dataDirectory disk statistics) ∧
    (∀ written : Statistics, written.version = statisticsVersion →
      content = StatisticsStore.encode written → StatisticsStore.Holds content written) ∧
    ((∀ text, Utf8.encode text ≠ content) → Halts dataDirectory disk (.io .invalidData)) := by
  refine ⟨?_, ?_, halts_of_undecodable h⟩
  · rintro ⟨text, rfl⟩
    exact ⟨_, StatisticsStore.goesOnFrom_ofText text, goesOn_of_text h⟩
  · rintro written hv rfl
    exact StatisticsStore.holds_encode hv

/-- A text that is no JSON is discarded, and the command reports fresh counts. -/
theorem damaged_counts_broken :
    let content := Utf8.encode "\x7b not json"
    let disk := StatisticsStore.diskWith content
    let store := StatisticsStore.ofDataDirectory ⟨"d"⟩
    let settings : Settings := ⟨none, some "s", some ⟨"d"⟩⟩
    let stats : Invocation := ⟨settings, false, .stats⟩
    disk.read store.path = .ok content ∧ (store.read disk).answer = .ok .fresh ∧
      (Reporter.new store true disk).1 = .ok ⟨store, .fresh, true⟩ ∧
      (stats.run disk).exitCode = 0 ∧ ShowsCounts (stats.run disk).printed .fresh := by
  intro content disk store settings stats
  have hread : disk.read store.path = .ok content := by decide +kernel
  obtain ⟨statistics, hfrom, hgoes⟩ := (damaged_counts hread).1 ⟨_, rfl⟩
  have hfresh : statistics = .fresh := by
    refine hfrom.discarded fun held hheld => ?_
    have hunreadable : StatisticsStore.Content.ofText "\x7b not json" = .unreadable := by
      decide +kernel
    rw [StatisticsStore.holds_text_iff, hunreadable] at hheld
    cases hheld
  subst hfresh
  obtain ⟨hexit, hshown, -⟩ := hgoes.stats stats { serverUuid := "s", dataDirectory := some ⟨"d"⟩ } rfl
    ⟨rfl, rfl⟩
  exact ⟨hread, (hgoes.read store rfl).1, hgoes.reporter store rfl true, hexit, hshown⟩

/-- One byte that is in no text, and the statistics file is not discarded: it can not be read, and
neither counts are reported nor a suggestion is recorded. -/
theorem damaged_counts_undecodable :
    let disk := StatisticsStore.diskWith [255]
    let store := StatisticsStore.ofDataDirectory ⟨"d"⟩
    let options := ["--server-uuid", "s", "--data-dir", "d"]
    let record := ["record", "--artifacts-dir", "d", "--test", "t", "--investigator", "u", "--reason", "r"]
    disk.read store.path = .ok [255] ∧ (store.read disk).answer = .error (.io .invalidData) ∧
      (Reporter.new store true disk).1 = .error (.io .invalidData) ∧
      (run (options ++ ["stats"]) disk).exitCode = 1 ∧
      (run (options ++ ["stats"]) disk).complaint = some "error: io error" ∧
      (run (options ++ record) disk).exitCode = 1 ∧
      (run (options ++ record) disk).complaint = some "error: io error" := by
  decide +kernel

end Command

end Investigations
