/-
An installation, as one configuration file tells of it: a data directory with counts, and artifacts
directories with suggestions. What the command prints there is what is found in two kinds of files
(`shows_of_view`, `reports_of_read`). The files keep out of each other's way: what changes within one
artifacts directory, or on the way to the counts, is not seen anywhere else (`Stands.changed_inside`,
`Stands.changed_outside`).
-/
import Investigations.Proofs.Command.Record
import Investigations.Proofs.Files.Way
import Investigations.Proofs.Statistics.Restart

namespace Investigations

open Files

/-- The view of a build does not depend on its number. -/
theorem Build.view_id (id : UInt64) (directory : Path) :
    (⟨id, directory⟩ : Build).view = (⟨0, directory⟩ : Build).view := by
  funext disk reader
  unfold view
  rw [find_eq, find_eq]
  rfl

namespace Command

/-- The suggestions of a build are printed as a reader finds them. -/
theorem performSuggestions_answer (config : Config) (build : Build) (disk : Disk) :
    (performSuggestions config build disk).answer =
      match build.view disk config.serverIdentity with
      | .ok held => .ok (printed (.array (held.map Suggestion.toJson)))
      | .error cause => .error (.plain cause) := by
  unfold performSuggestions Build.view
  rcases build.find disk with ⟨_ | path, events⟩
  · rfl
  · dsimp only
    rcases SuggestionStore.read disk config.serverIdentity path with cause | reading <;> rfl

/-! ## Tasks of a configuration -/

theorem perform_stats {invocation : Invocation} {config : Config} {disk : Disk}
    (h : invocation.settings.config disk = .ok config) (ha : invocation.action = .stats) :
    perform invocation disk = performStats config disk := by
  rw [perform, ha]
  dsimp only
  rw [withConfig, h]

theorem perform_record {invocation : Invocation} {config : Config} {disk : Disk} {build : Build}
    {suggestion : Suggestion} (h : invocation.settings.config disk = .ok config)
    (ha : invocation.action = .record build suggestion) :
    perform invocation disk = performRecord config build suggestion disk := by
  rw [perform, ha]
  dsimp only
  rw [withConfig, h]

/-- A command starts from the counts that a new reporter of the data directory starts from. -/
theorem openReporter_of_data {config : Config} {dataDirectory : Path}
    (hd : config.dataDirectory = some dataDirectory) (disk : Disk) :
    (openReporter config disk).1 =
      (Reporter.new (.ofDataDirectory dataDirectory) config.statisticsEnabled disk).1 := by
  rw [openReporter, hd]

theorem performStats_answer {config : Config} {dataDirectory : Path}
    (hd : config.dataDirectory = some dataDirectory) (disk : Disk) :
    (performStats config disk).disk = disk ∧ (performStats config disk).answer =
      match (openReporter config disk).1 with
      | .ok reporter => .ok reporter.statistics.report
      | .error cause => .error (.plain cause) := by
  unfold performStats
  rw [hd]
  rcases openReporter config disk with ⟨cause | reporter, events⟩ <;> exact ⟨rfl, rfl⟩

/-! ## Installations -/

/-- An installation: the settings that the command is given, the configuration that they come to, and
the directories that are in use. -/
structure Installation (ι : Type) where
  settings : Settings
  configFile : Path
  config : Config
  dataDirectory : Path
  directories : ι → Path

namespace Installation

variable {ι : Type}

/-- The build of an artifacts directory, as far as no number is given. -/
def build (site : Installation ι) (b : ι) : Build := ⟨0, site.directories b⟩

/-- The statistics file. -/
def statisticsFile (site : Installation ι) : Path :=
  (StatisticsStore.ofDataDirectory site.dataDirectory).path

/-- The suggestions that are found in an artifacts directory. -/
def shown (site : Installation ι) (disk : Disk) (b : ι) : Except Error (List Suggestion) :=
  (site.build b).view disk site.config.serverIdentity

/-- The statistics that are found in the data directory. -/
def kept (site : Installation ι) (disk : Disk) : Except Error Statistics :=
  ((StatisticsStore.ofDataDirectory site.dataDirectory).read disk).answer

/-- The invocation that shows the suggestions in an artifacts directory. -/
def showing (site : Installation ι) (b : ι) : Invocation :=
  ⟨site.settings, false, .suggestions (site.build b) none⟩

/-- The invocation that reports the counts. -/
def counting (site : Installation ι) : Invocation := ⟨site.settings, false, .stats⟩

/-- The command shows these suggestions in an artifacts directory. -/
def Shows (site : Installation ι) (disk : Disk) (b : ι) (listing : List Suggestion) : Prop :=
  ((site.showing b).run disk).exitCode = 0 ∧ ShowsAll ((site.showing b).run disk).printed listing

/-- The command fails to show the suggestions in an artifacts directory. -/
def Hides (site : Installation ι) (disk : Disk) (b : ι) (cause : Error) : Prop :=
  ((site.showing b).run disk).exitCode = 1 ∧
    ((site.showing b).run disk).complaint = some ("error: " ++ cause.message)

/-- The command reports these statistics. -/
def Reports (site : Installation ι) (disk : Disk) (statistics : Statistics) : Prop :=
  (site.counting.run disk).exitCode = 0 ∧ ShowsCounts (site.counting.run disk).printed statistics

instance (site : Installation ι) (disk : Disk) (b : ι) (listing : List Suggestion) :
    Decidable (site.Shows disk b listing) := inferInstanceAs (Decidable (_ ∧ _))

instance (site : Installation ι) (disk : Disk) (statistics : Statistics) :
    Decidable (site.Reports disk statistics) := inferInstanceAs (Decidable (_ ∧ _))

/-- How the files of an installation lie: no artifacts directory is inside another or inside the data
directory, the path of the data directory does not lead into any of them, and the configuration file is
in none of these directories. -/
structure LaidOut (site : Installation ι) (disk : Disk) : Prop where
  down : ∀ b, .up ∉ (site.directories b).steps
  apart : ∀ b c, b ≠ c → ¬ disk.place (site.directories b) <+: disk.place (site.directories c)
  around : ∀ b, ¬ disk.goal site.dataDirectory <+: disk.place (site.directories b)
  way : ∀ b, ∀ p ∈ disk.way site.dataDirectory, ¬ disk.place (site.directories b) <+: p
  config : ∀ b, ¬ disk.place (site.directories b) <+: disk.goal site.configFile
  data : ¬ disk.goal site.dataDirectory <+: disk.goal site.configFile

/-- The configuration file is there, it has counts kept in the data directory, and the files keep out of
each other's way. -/
structure Stands (site : Installation ι) (disk : Disk) : Prop where
  file : site.settings.configFile = some site.configFile
  configured : site.settings.config disk = .ok site.config
  enabled : site.config.statisticsEnabled = true
  data : site.config.dataDirectory = some site.dataDirectory
  layout : site.LaidOut disk

/-! ## What the command prints -/

namespace Stands

variable {site : Installation ι} {disk : Disk} (h : site.Stands disk)

include h

theorem perform_showing (b : ι) :
    (perform (site.showing b) disk).answer =
      match site.shown disk b with
      | .ok held => .ok (printed (.array (held.map Suggestion.toJson)))
      | .error cause => .error (.plain cause) := by
  rw [showing, perform]
  dsimp only
  rw [withConfig, h.configured]
  exact performSuggestions_answer site.config (site.build b) disk

theorem shows_of_view {b : ι} {held : List Suggestion} (hv : site.shown disk b = .ok held) :
    site.Shows disk b held := by
  have hperform := h.perform_showing b
  rw [hv] at hperform
  obtain ⟨hexit, hprinted, -⟩ := Invocation.run_ok hperform
  exact ⟨hexit, showsAll_iff.2 hprinted⟩

theorem hides_of_view {b : ι} {cause : Error} (hv : site.shown disk b = .error cause) :
    site.Hides disk b cause := by
  have hperform := h.perform_showing b
  rw [hv] at hperform
  obtain ⟨hexit, hcomplaint, -⟩ := Invocation.run_error hperform
  exact ⟨hexit, hcomplaint⟩

/-- Suggestions that are shown can be read. -/
theorem view_of_shown {b : ι} (hexit : ((site.showing b).run disk).exitCode = 0) :
    ∃ held, site.shown disk b = .ok held := by
  rcases hv : site.shown disk b with cause | held
  · rw [(h.hides_of_view hv).1] at hexit
    cases hexit
  · exact ⟨held, rfl⟩

theorem perform_counting :
    (perform site.counting disk).answer =
      match site.kept disk with
      | .ok statistics => .ok statistics.report
      | .error cause => .error (.plain cause) := by
  have hperform : perform site.counting disk = performStats site.config disk :=
    perform_stats h.configured rfl
  rw [hperform, (performStats_answer h.data disk).2, openReporter_of_data h.data, kept]
  dsimp only [Reporter.new]
  rcases ((StatisticsStore.ofDataDirectory site.dataDirectory).read disk).answer with
    cause | statistics <;> rfl

theorem reports_of_read {statistics : Statistics} (hr : site.kept disk = .ok statistics) :
    site.Reports disk statistics := by
  have hperform := h.perform_counting
  rw [hr] at hperform
  obtain ⟨hexit, hprinted, -⟩ := Invocation.run_ok hperform
  exact ⟨hexit, showsCounts_iff.2 hprinted⟩

/-- Counts that are reported can be read. -/
theorem read_of_reported (hexit : (site.counting.run disk).exitCode = 0) :
    ∃ statistics, site.kept disk = .ok statistics := by
  have hperform := h.perform_counting
  rcases hr : site.kept disk with cause | statistics
  · rw [hr] at hperform
    rw [(Invocation.run_error hperform).1] at hexit
    cases hexit
  · exact ⟨statistics, rfl⟩

end Stands

/-! ## Where things are -/

namespace LaidOut

variable {site : Installation ι} {disk left : Disk}

theorem congr (h : site.LaidOut disk) (hc : left.cwd = disk.cwd) : site.LaidOut left := by
  have hplace : ∀ path, left.place path = disk.place path := by
    intro path
    rw [Disk.place, Disk.place, Disk.start_congr hc]
  refine ⟨h.down, ?_, ?_, ?_, ?_, ?_⟩ <;> simp only [hplace, Disk.goal_congr hc, Disk.way_congr hc]
  · exact h.apart
  · exact h.around
  · exact h.way
  · exact h.config
  · exact h.data

theorem goal_statisticsFile (site : Installation ι) (disk : Disk) :
    disk.goal site.statisticsFile =
      disk.goal site.dataDirectory ++ [pluginDirectoryName, statisticsFileName] := by
  rw [statisticsFile, StatisticsStore.path, disk.goal_child isName_statisticsFileName,
    StatisticsStore.ofDataDirectory, disk.goal_child Build.isName_pluginDirectoryName,
    List.append_assoc]
  rfl

/-- The way to the statistics file keeps out of the artifacts directories. -/
theorem way_statisticsFile (h : site.LaidOut disk) (b : ι) {p : Place}
    (hp : p ∈ disk.way site.statisticsFile) : ¬ disk.place (site.directories b) <+: p := by
  have beyond : ∀ (name : String) {above : Place}, disk.goal site.dataDirectory <+: above →
      ¬ disk.place (site.directories b) <+: above →
        ¬ disk.place (site.directories b) <+: above ++ [name] := by
    intro name above habove hout hin
    -- The last place on the way would be the artifacts directory, inside the data directory.
    rcases List.prefix_concat_iff.1 hin with he | hin
    · exact h.around b (he ▸ habove.trans (List.prefix_append ..))
    · exact hout hin
  have hgoal := h.way b _ (disk.goal_mem_way site.dataDirectory)
  have hplugin := beyond pluginDirectoryName (List.prefix_refl _) hgoal
  have hfile := beyond statisticsFileName (List.prefix_append ..) hplugin
  rw [statisticsFile, StatisticsStore.path, disk.way_child isName_statisticsFileName,
    disk.goal_child isName_statisticsFileName, StatisticsStore.ofDataDirectory,
    disk.way_child Build.isName_pluginDirectoryName, disk.goal_child Build.isName_pluginDirectoryName,
    List.mem_append, List.mem_append, List.mem_singleton, List.mem_singleton] at hp
  rcases hp with (hp | rfl) | rfl
  · exact h.way b p hp
  · exact hplugin
  · exact hfile

end LaidOut

/-! ## Changes -/

namespace Stands

variable {site : Installation ι} {disk left : Disk} {made written : Place → Prop}

/-- As long as nothing is written in its place, the configuration is the same. -/
theorem changed (h : site.Stands disk) (hc : disk.Changed made written left)
    (hw : ¬ written (disk.goal site.configFile)) : site.Stands left := by
  refine ⟨h.file, ?_, h.enabled, h.data, h.layout.congr hc.cwd⟩
  have hread : left.read site.configFile = disk.read site.configFile := by
    have hconfig := h.configured
    rw [Settings.config, h.file] at hconfig
    dsimp only at hconfig
    -- The configuration has been loaded, so there is a file.
    rcases hr : disk.read site.configFile with fault | content
    · rw [Config.load, hr] at hconfig
      cases hconfig
    · have hlook := hc.look_file (Disk.look_of_read hr) fun p hp => by
        rw [hp.eq_goal, Disk.goal_congr hc.cwd]
        exact hw
      rw [Disk.read_eq, hlook]
  rw [← h.configured, Settings.config, Settings.config, h.file]
  dsimp only
  rw [Config.load, Config.load, hread]

/-- Changes outside of an artifacts directory are not seen in it. -/
theorem shown_untouched (h : site.Stands disk) (hc : disk.Changed made written left) {b : ι}
    (hout : ∀ p, disk.place (site.directories b) <+: p → ¬ made p ∧ ¬ written p) :
    site.shown left b = site.shown disk b := by
  have hup : .up ∉ (site.build b).artifactsDirectory.steps := h.layout.down b
  have hview : (site.build b).view left = (site.build b).view disk := by
    refine Build.view_untouched hup hc fun p hp => hout p ?_
    rwa [Build.place, Disk.place, Disk.start_congr hc.cwd] at hp
  rw [shown, shown, hview]

/-- Changes in an artifacts directory leave the configuration and the statistics as they are, and are
not seen in any other artifacts directory. -/
theorem changed_inside (h : site.Stands disk) (hc : disk.Changed made written left) {b : ι}
    (hin : ∀ p, made p ∨ written p → disk.place (site.directories b) <+: p) :
    site.Stands left ∧ left.read site.statisticsFile = disk.read site.statisticsFile ∧
      ∀ c, b ≠ c → site.shown left c = site.shown disk c := by
  refine ⟨h.changed hc fun hw => h.layout.config b (hin _ (.inr hw)), ?_, fun c hne => ?_⟩
  · have hlook : disk.look site.statisticsFile = left.look site.statisticsFile := by
      refine Disk.look_congr_way hc.cwd.symm fun p hp => ?_
      have hout := fun hchange => h.layout.way_statisticsFile b hp (hin p hchange)
      rcases hc.tree p with he | ⟨hm, -⟩ | ⟨hw, -⟩
      · exact he.symm
      · exact absurd (.inl hm) hout
      · exact absurd (.inr hw) hout
    rw [Disk.read_eq, Disk.read_eq, hlook]
  · refine h.shown_untouched hc fun p hp => not_or.1 fun hchange => ?_
    -- A place inside both would have one of them inside the other.
    rcases List.prefix_or_prefix_of_prefix (hin p hchange) hp with hprefix | hprefix
    · exact h.layout.apart b c hne hprefix
    · exact h.layout.apart c b (Ne.symm hne) hprefix

/-- Changes on the way to the statistics file leave the configuration as it is and are not seen in any
artifacts directory. -/
theorem changed_outside (h : site.Stands disk) (hc : disk.Changed made written left)
    (hm : ∀ p, made p → p ∈ disk.way site.statisticsFile)
    (hw : ∀ p, written p → p = disk.goal site.statisticsFile) :
    site.Stands left ∧ site.shown left = site.shown disk := by
  constructor
  · refine h.changed hc fun hwritten => h.layout.data ?_
    rw [hw _ hwritten, LaidOut.goal_statisticsFile]
    exact List.prefix_append ..
  · funext b
    refine h.shown_untouched hc fun p hp => ⟨fun hmade => ?_, fun hwritten => ?_⟩
    · exact h.layout.way_statisticsFile b (hm p hmade) hp
    · exact h.layout.way_statisticsFile b (disk.goal_mem_way _) (hw p hwritten ▸ hp)

/-- Saving counts changes the statistics only. -/
theorem save_counts (h : site.Stands disk) {reporter : Reporter}
    (hd : reporter.store.directory = (StatisticsStore.ofDataDirectory site.dataDirectory).directory)
    (hok : (reporter.save disk).1.answer = .ok ()) :
    site.Stands (reporter.save disk).1.disk ∧
      site.shown (reporter.save disk).1.disk = site.shown disk := by
  have hc := (reporter.save_frame disk).done () hok
  refine h.changed_outside hc (fun p hp => ?_) fun p hp => ?_
  · rw [← Disk.way_congr hc.cwd, statisticsFile, StatisticsStore.path,
      Disk.way_child _ isName_statisticsFileName, ← hd]
    exact List.mem_append_left _ hp.mem_way
  · rw [hp.eq_goal, Disk.goal_congr hc.cwd, Reporter.path_eq hd]
    rfl

end Stands

end Installation

end Command

end Investigations
