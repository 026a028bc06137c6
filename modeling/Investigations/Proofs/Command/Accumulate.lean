/-
Recordings one after the other. Every run of the command is a process of its own, which knows no more
than it finds in two files, and yet suggestions pile up and counts add up over any number of runs
(`recordings_accumulate`). What a run comes to is of the kind that many runs come to: nothing does, and
two such stretches make one (`Accumulated.refl`, `Accumulated.trans`).
-/
import Investigations.Proofs.Build.Session
import Investigations.Proofs.Command.Installation

namespace Investigations

open Files

namespace Command

variable {ι : Type}

/-! ## Suggestions that pile up -/

/-- What becomes of the suggestions that are found in one directory while others are recorded, which are
put in front. If none are, nothing changes, or a directory without suggestions can not be read any more,
because the path of its suggestions file is too long. -/
inductive Piled (overlong : Prop) :
    List Suggestion → Except Error (List Suggestion) → Except Error (List Suggestion) → Prop
  | put (news old : List Suggestion) : Piled overlong news (.ok old) (.ok (news ++ old))
  | same (found : Except Error (List Suggestion)) : Piled overlong [] found found
  | lost (h : overlong) : Piled overlong [] (.ok []) (.error (.io .invalidFilename))

theorem Piled.trans {overlong : Prop} {earlier later : List Suggestion}
    {a b c : Except Error (List Suggestion)} (h : Piled overlong earlier a b)
    (h' : Piled overlong later b c) : Piled overlong (later ++ earlier) a c := by
  cases h' with
  | put later old =>
    cases h with
    | put earlier older =>
      rw [← List.append_assoc]
      exact .put ..
    | same =>
      rw [List.append_nil]
      exact .put ..
  | same => exact h
  | lost ho =>
    -- Nothing was recorded before either, since there were no suggestions.
    generalize hm : Except.ok [] = middle at h
    cases h with
    | put earlier older =>
      obtain ⟨rfl, rfl⟩ := List.append_eq_nil_iff.1 (Except.ok.inj hm).symm
      exact .lost ho
    | same =>
      rw [← hm]
      exact .lost ho
    | lost => cases hm

/-- Resolving the path of a build, if only for a recording that is refused. -/
theorem piled_resolve (build : Build) (disk : Disk) (reader : ServerIdentity) :
    Piled build.Overlong [] (build.view disk reader) (build.view (build.resolve disk).disk reader) := by
  rcases build.resolve_cases disk with ⟨_, _, he⟩ | ⟨-, he⟩ | ⟨made, above, _, he, ho⟩ <;> rw [he]
  · exact .same _
  · exact .same _
  · obtain ⟨hbefore, hafter⟩ := ho.view
    rw [hbefore, hafter]
    by_cases hlong : build.Overlong
    · rw [if_pos hlong]
      exact .lost hlong
    · rw [if_neg hlong]
      exact .same _

/-! ## Counts that add up -/

/-- Statistics that differ by this many suggestions saved, if there were any before. -/
def Counted (amount : Nat) (before after : Except Error Statistics) : Prop :=
  ∀ first, before = .ok first → ∃ last, after = .ok last ∧
    (last.get .savedSuggestions).toNat =
      min counterLimit ((first.get .savedSuggestions).toNat + amount)

theorem Counted.refl (found : Except Error Statistics) : Counted 0 found found := by
  intro first hf
  have hlimit : (first.get .savedSuggestions).toNat ≤ counterLimit :=
    Nat.le_sub_one_of_lt (first.get .savedSuggestions).toNat_lt
  exact ⟨first, hf, by omega⟩

theorem Counted.trans {a b c : Except Error Statistics} {earlier later : Nat}
    (h : Counted earlier a b) (h' : Counted later b c) : Counted (earlier + later) a c := by
  intro first hf
  obtain ⟨middle, hm, hearlier⟩ := h first hf
  obtain ⟨last, hl, hlater⟩ := h' middle hm
  exact ⟨last, hl, by omega⟩

section Counting

variable {config : Config} {build : Build} {suggestion : Suggestion} {disk : Disk}
  {reporter : Reporter} {reading : Sheet.Reading} {directory : Path}

/-- A suggestion that is stored is counted, and so is a build that had none. -/
theorem Recorded.reporter_eq (hr : Recorded config build suggestion disk reporter reading) :
    (build.append config.serverIdentity [suggestion] reporter disk).2 =
      if reading.suggestions = [] then
        (reporter.report (.savedSuggestions 1)).report .buildWithSuggestions
      else reporter.report (.savedSuggestions 1) := by
  have heq := build.append_eq config.serverIdentity (List.cons_ne_nil suggestion []) reporter disk
  rw [Build.held_of_read hr.added.located hr.added.read] at heq
  exact congrArg (·.2.2) heq

theorem Recorded.get_savedSuggestions
    (hr : Recorded config build suggestion disk reporter reading) :
    (((build.append config.serverIdentity [suggestion] reporter disk).2.statistics.get
      .savedSuggestions).toNat) =
        min counterLimit ((reporter.statistics.get .savedSuggestions).toNat + 1) := by
  rw [hr.reporter_eq, ← toNat_addSaturating]
  split <;> simp [Reporter.report, Statistics.get_increase, Usage.counter, Usage.amount]

theorem Recorded.sound (hr : Recorded config build suggestion disk reporter reading)
    (hs : reporter.Sound directory disk) :
    (build.append config.serverIdentity [suggestion] reporter disk).2.Sound directory disk := by
  rw [hr.reporter_eq]
  split
  · exact (hs.report _).report _
  · exact hs.report _

/-- What a reporter of an installation starts from. -/
theorem Recorded.start {site : Installation ι} (h : site.Stands disk)
    (hr : Recorded site.config build suggestion disk reporter reading) :
    reporter.Sound (StatisticsStore.ofDataDirectory site.dataDirectory).directory disk ∧
      site.kept disk = .ok reporter.statistics := by
  have hopened := hr.opened
  rw [openReporter, h.data, h.enabled] at hopened
  obtain ⟨hsound, hsame⟩ := Reporter.sound_new (Prod.ext hopened rfl)
  refine ⟨hsound, ?_⟩
  rw [hsame, ← hsound.known.resolve_left (not_not_intro hsame)]
  exact StatisticsStore.read_congr (congrArg disk.read (Reporter.path_eq hsound.directory.symm))

/-- The counts that are saved are those from before and one suggestion more. -/
theorem Recorded.counted {site : Installation ι} (h : site.Stands disk)
    (hr : Recorded site.config build suggestion disk reporter reading)
    (same : (build.append site.config.serverIdentity [suggestion] reporter disk).1.disk.read
      site.statisticsFile = disk.read site.statisticsFile)
    (hok : (savedCounts site.config build suggestion disk reporter).1.answer = .ok ()) :
    Counted 1 (site.kept disk)
      (site.kept (savedCounts site.config build suggestion disk reporter).1.disk) := by
  obtain ⟨hsound, hbefore⟩ := hr.start h
  intro first hfirst
  cases hbefore.symm.trans hfirst
  have hcounted := hr.sound hsound
  have hpath : (build.append site.config.serverIdentity [suggestion] reporter disk).2.store.path =
      site.statisticsFile := Reporter.path_eq hcounted.directory
  rw [← hpath] at same
  rw [savedCounts] at hok ⊢
  rcases (hcounted.elsewhere same).save_cases with ⟨-, -, hread⟩ | ⟨⟨failure, hfailed⟩, -⟩
  · exact ⟨_, (StatisticsStore.read_congr (by rw [hpath]; rfl)).trans hread, hr.get_savedSuggestions⟩
  · cases hfailed.symm.trans hok

end Counting

/-! ## Recordings -/

/-- A suggestion that is to be recorded in an artifacts directory. -/
structure Recording (ι : Type) where
  directory : ι
  buildId : UInt64
  suggestion : Suggestion
  verbose : Bool := false

/-- A recording that was run: the disk it found, and what it came to. -/
structure Ran (ι : Type) where
  recording : Recording ι
  before : Disk
  report : Report

/-- The suggestions for a directory whose recordings ended well, the latest first. -/
def stored [DecidableEq ι] (trace : List (Ran ι)) (b : ι) : List Suggestion :=
  ((trace.filter fun ran => ran.recording.directory = b ∧ ran.report.exitCode = 0).map
    (·.recording.suggestion)).reverse

/-- The number of recordings that ended well. -/
def succeeded (trace : List (Ran ι)) : Nat := trace.countP (·.report.exitCode = 0)

theorem stored_append [DecidableEq ι] (earlier later : List (Ran ι)) (b : ι) :
    stored (earlier ++ later) b = stored later b ++ stored earlier b := by
  rw [stored, List.filter_append, List.map_append, List.reverse_append]
  rfl

theorem succeeded_append (earlier later : List (Ran ι)) :
    succeeded (earlier ++ later) = succeeded earlier + succeeded later := List.countP_append

section Single

variable {recording : Recording ι} {disk : Disk} {report : Report}

theorem stored_of_ok [DecidableEq ι] (h : report.exitCode = 0) (b : ι) :
    stored [⟨recording, disk, report⟩] b =
      if recording.directory = b then [recording.suggestion] else [] := by
  by_cases hb : recording.directory = b <;> simp [stored, h, hb]

theorem stored_of_failed [DecidableEq ι] (h : report.exitCode = 1) (b : ι) :
    stored [⟨recording, disk, report⟩] b = [] := by
  simp [stored, h]

theorem succeeded_of_ok (h : report.exitCode = 0) : succeeded [⟨recording, disk, report⟩] = 1 := by
  simp [succeeded, h]

theorem succeeded_of_failed (h : report.exitCode = 1) :
    succeeded [⟨recording, disk, report⟩] = 0 := by
  simp [succeeded, h]

end Single

namespace Installation

/-- The build that is recorded for. -/
def buildOf (site : Installation ι) (recording : Recording ι) : Build :=
  ⟨recording.buildId, site.directories recording.directory⟩

/-- The invocation that records. -/
def recordingOf (site : Installation ι) (recording : Recording ι) : Invocation :=
  ⟨site.settings, recording.verbose, .record (site.buildOf recording) recording.suggestion⟩

/-- The view of the build that is recorded for is that of its directory. -/
theorem view_buildOf (site : Installation ι) (recording : Recording ι) :
    (site.buildOf recording).view = (site.build recording.directory).view := Build.view_id ..

theorem overlong_buildOf (site : Installation ι) (recording : Recording ι) :
    (site.buildOf recording).Overlong = (site.build recording.directory).Overlong := by
  rw [Build.Overlong, Build.Overlong, Build.suggestionsFile, Build.suggestionsFile,
    Build.pluginDirectory, Build.pluginDirectory, Build.hostDirectory, Build.hostDirectory]
  rfl

theorem perform_recordingOf {site : Installation ι} {disk : Disk} (h : site.Stands disk)
    (recording : Recording ι) :
    perform (site.recordingOf recording) disk =
      performRecord site.config (site.buildOf recording) recording.suggestion disk :=
  perform_record h.configured rfl

/-- Runs recordings one after the other, and gives the disk that the last one leaves. -/
def runAll (site : Installation ι) : Disk → List (Recording ι) → List (Ran ι) × Disk
  | disk, [] => ([], disk)
  | disk, recording :: rest =>
    let report := (site.recordingOf recording).run disk
    let (trace, last) := site.runAll report.disk rest
    (⟨recording, disk, report⟩ :: trace, last)

/-- The counts could not be saved. -/
def Unsaved (site : Installation ι) (ran : Ran ι) : Prop :=
  ∃ cause, (perform (site.recordingOf ran.recording) ran.before).answer = .error (.saving cause)

/-- A recording ended well, or it failed and left both files as they were. -/
def Settled (site : Installation ι) (ran : Ran ι) : Prop :=
  ran.report.exitCode = 0 ∨ ran.report.exitCode = 1 ∧
    ran.report.disk.read (site.buildOf ran.recording).suggestionsFile =
      ran.before.read (site.buildOf ran.recording).suggestionsFile ∧
    ran.report.disk.read site.statisticsFile = ran.before.read site.statisticsFile

/-- What recordings come to one after the other, unless the counts can not be saved. -/
structure Accumulated [DecidableEq ι] (site : Installation ι) (start : Disk) (trace : List (Ran ι))
    (last : Disk) : Prop where
  stands : site.Stands last
  piled : ∀ b, Piled (site.build b).Overlong (stored trace b) (site.shown start b) (site.shown last b)
  counted : Counted (succeeded trace) (site.kept start) (site.kept last)
  settled : ∀ ran ∈ trace, site.Settled ran

namespace Accumulated

variable [DecidableEq ι] {site : Installation ι} {start middle last : Disk}
  {earlier later : List (Ran ι)}

theorem refl (h : site.Stands start) : site.Accumulated start [] start :=
  ⟨h, fun _ => .same _, .refl _, nofun⟩

theorem trans (h : site.Accumulated start earlier middle) (h' : site.Accumulated middle later last) :
    site.Accumulated start (earlier ++ later) last := by
  refine ⟨h'.stands, fun b => ?_, ?_, List.forall_mem_append.2 ⟨h.settled, h'.settled⟩⟩
  · rw [stored_append]
    exact (h.piled b).trans (h'.piled b)
  · rw [succeeded_append]
    exact h.counted.trans h'.counted

end Accumulated

/-! ## One recording -/

namespace Stands

variable {site : Installation ι} {disk left : Disk} {reporter : Reporter} {reading : Sheet.Reading}
  (h : site.Stands disk) (recording : Recording ι)

include h

/-- All that a build's own operations change is in its artifacts directory. -/
theorem leads_inside (hc : left.cwd = disk.cwd) {p : Place}
    (hp : left.Leads (site.buildOf recording).pluginDirectory p ∨
      left.Leads (site.buildOf recording).suggestionsFile p) :
    disk.place (site.directories recording.directory) <+: p := by
  have hup : .up ∉ (site.buildOf recording).artifactsDirectory.steps :=
    h.layout.down recording.directory
  have hin := Build.leads_below hup hp
  rwa [Build.place, Disk.place, Disk.start_congr hc] at hin

/-- A recording that is refused leaves the statistics, and the suggestions in all directories. -/
theorem refused (hleft : left = disk ∨ left = ((site.buildOf recording).resolve disk).disk) :
    site.Stands left ∧ left.read site.statisticsFile = disk.read site.statisticsFile ∧
      ∀ b, Piled (site.build b).Overlong [] (site.shown disk b) (site.shown left b) := by
  rcases hleft with rfl | rfl
  · exact ⟨h, rfl, fun b => .same _⟩
  · have hc := (site.buildOf recording).resolve_changed disk
    obtain ⟨hstands, hread, hothers⟩ := h.changed_inside hc fun p hp =>
      h.leads_inside recording hc.cwd (hp.imp_right False.elim)
    refine ⟨hstands, hread, fun b => ?_⟩
    by_cases hb : recording.directory = b
    · subst hb
      rw [shown, shown, ← site.view_buildOf, ← site.overlong_buildOf]
      exact piled_resolve ..
    · rw [hothers b hb]
      exact .same _

/-- A recording that is stored puts the suggestion in front of those in its directory. -/
theorem added [DecidableEq ι]
    (hr : Recorded site.config (site.buildOf recording) recording.suggestion disk reporter reading) :
    let left := ((site.buildOf recording).append site.config.serverIdentity [recording.suggestion]
      reporter disk).1.disk
    site.Stands left ∧ left.read site.statisticsFile = disk.read site.statisticsFile ∧
      ∀ b, Piled (site.build b).Overlong
        (if recording.directory = b then [recording.suggestion] else [])
        (site.shown disk b) (site.shown left b) := by
  intro left
  have hc := (site.buildOf recording).append_changed site.config.serverIdentity
    [recording.suggestion] reporter disk
  obtain ⟨hstands, hread, hothers⟩ := h.changed_inside hc fun p hp =>
    h.leads_inside recording hc.cwd hp
  refine ⟨hstands, hread, fun b => ?_⟩
  by_cases hb : recording.directory = b
  · subst hb
    obtain ⟨hbefore, hafter⟩ := Session.appended_view hr.added
    rw [if_pos rfl, shown, shown, ← site.view_buildOf, hbefore, congrFun hafter, if_pos rfl]
    exact .put ..
  · rw [if_neg hb, hothers b hb]
    exact .same _

/-- One recording, however it ends, as long as the counts are saved. -/
theorem record [DecidableEq ι]
    (hs : ¬ site.Unsaved ⟨recording, disk, (site.recordingOf recording).run disk⟩) :
    site.Accumulated disk [⟨recording, disk, (site.recordingOf recording).run disk⟩]
      ((site.recordingOf recording).run disk).disk := by
  have hperform := perform_recordingOf h recording
  rcases performRecord_cases site.config (site.buildOf recording) recording.suggestion disk with
    ⟨failure, hanswer, -, hdisk⟩ |
    ⟨reporter, reading, hr, hdisk, ⟨hok, text, hanswer⟩ | ⟨cause, -, hanswer⟩⟩ <;>
    rw [← hperform] at hanswer hdisk
  · -- It is refused, and nothing was written.
    obtain ⟨hexit, -, hleft⟩ := Invocation.run_error hanswer
    have hfile := read_of_refused hdisk
    obtain ⟨hstands, hread, hshown⟩ := h.refused recording hdisk
    rw [← hleft] at hstands hread hshown hfile
    refine ⟨hstands, fun b => ?_, ?_, List.forall_mem_singleton.2 (.inr ⟨hexit, hfile, hread⟩)⟩
    · rw [stored_of_failed hexit]
      exact hshown b
    · have hkept : site.kept ((site.recordingOf recording).run disk).disk = site.kept disk :=
        StatisticsStore.read_congr hread
      rw [hkept, succeeded_of_failed hexit]
      exact .refl _
  · obtain ⟨hexit, -, hleft⟩ := Invocation.run_ok hanswer
    rw [hdisk] at hleft
    -- First the suggestion is added, then the counts are saved.
    obtain ⟨hstands, hread, hshown⟩ := h.added recording hr
    obtain ⟨hstands, hsame⟩ := hstands.save_counts (hr.sound (hr.start h).1).directory hok
    refine ⟨hleft ▸ hstands, fun b => ?_, ?_, List.forall_mem_singleton.2 (.inl hexit)⟩
    · rw [stored_of_ok hexit, hleft, savedCounts, hsame]
      exact hshown b
    · rw [succeeded_of_ok hexit, hleft]
      exact hr.counted h hread hok
  · exact absurd ⟨cause, hanswer⟩ hs

end Stands

/-! ## Any number of recordings -/

section Runs

variable [DecidableEq ι] {site : Installation ι} {start : Disk}

theorem Stands.recordAll (h : site.Stands start) (recordings : List (Recording ι))
    (hs : ∀ ran ∈ (site.runAll start recordings).1, ¬ site.Unsaved ran) :
    site.Accumulated start (site.runAll start recordings).1 (site.runAll start recordings).2 := by
  induction recordings generalizing start with
  | nil => exact .refl h
  | cons recording rest ih =>
    rw [runAll] at hs ⊢
    dsimp only at hs ⊢
    rw [List.forall_mem_cons] at hs
    have hfirst := h.record recording hs.1
    exact hfirst.trans (ih hfirst.stands hs.2)

/-- Recordings accumulate. After any number of them, in any order and however they end, the
suggestions that are shown for each directory are those of the recordings that ended well, the latest
first, and then those from before, and the suggestions that are counted as saved are so many more, up
to the limit of a counter. A recording that fails has changed neither file. Only a directory for which
nothing could be recorded may lose the empty list that it showed: once our directory is made there, a
suggestions file whose path is too long can not be opened. -/
theorem recordings_accumulate (h : site.Stands start)
    (hshow : ∀ b, ((site.showing b).run start).exitCode = 0)
    (hstats : (site.counting.run start).exitCode = 0) (recordings : List (Recording ι))
    (hs : ∀ ran ∈ (site.runAll start recordings).1, ¬ site.Unsaved ran) :
    let trace := (site.runAll start recordings).1
    let last := (site.runAll start recordings).2
    (∀ b, ∃ old, site.Shows start b old ∧
      (site.Shows last b (stored trace b ++ old) ∨
        (site.build b).Overlong ∧ stored trace b = [] ∧ old = [] ∧
          site.Hides last b (.io .invalidFilename))) ∧
    (∃ before after, site.Reports start before ∧ site.Reports last after ∧
      (after.get .savedSuggestions).toNat =
        min counterLimit ((before.get .savedSuggestions).toNat + succeeded trace)) ∧
    ∀ ran ∈ trace, site.Settled ran := by
  intro trace last
  have hall : site.Accumulated start trace last := h.recordAll recordings hs
  refine ⟨fun b => ?_, ?_, hall.settled⟩
  · obtain ⟨old, hold⟩ := h.view_of_shown (hshow b)
    refine ⟨old, h.shows_of_view hold, ?_⟩
    have hpiled := hall.piled b
    rw [hold] at hpiled
    generalize hafter : site.shown last b = after, hnews : stored trace b = news at hpiled
    cases hpiled with
    | put => exact .inl (hall.stands.shows_of_view hafter)
    | same => exact .inl (hall.stands.shows_of_view hafter)
    | lost hlong => exact .inr ⟨hlong, rfl, rfl, hall.stands.hides_of_view hafter⟩
  · obtain ⟨before, hbefore⟩ := h.read_of_reported hstats
    obtain ⟨after, hafter, hcount⟩ := hall.counted before hbefore
    exact ⟨before, after, h.reports_of_read hbefore, hall.stands.reports_of_read hafter, hcount⟩

end Runs

/-- A disk with a configuration file `c`, which has counts kept in a data directory. -/
def configuredDisk (dataDirectory : String) (others : List (String × Tree)) : Disk where
  root := .directory (("c", .file (Utf8.encode ("server_uuid = \"s\"\nplugin_data_dir = \"" ++
    dataDirectory ++ "\"\nstatistics_enabled = true\n"))) :: others)
  cwd := []

/-- Two builds, and a recording for one of them between two for the other. It fails. -/
theorem recordings_accumulate_two :
    let site : Installation Bool := ⟨⟨some ⟨"c"⟩, none, none⟩, ⟨"c"⟩, ⟨"s", some ⟨"d"⟩, true⟩, ⟨"d"⟩,
      fun b => ⟨if b then "a" else "b"⟩⟩
    let start := configuredDisk "d" [("a", .directory [(hostDirectoryName, .directory [])]),
      ("b", .directory [(hostDirectoryName, .directory [])])]
    let recordings : List (Recording Bool) := [⟨true, 1, ⟨"t1", "u", "r"⟩, false⟩,
      ⟨false, 2, ⟨"t2", "u", "x\ny"⟩, true⟩, ⟨true, 3, ⟨"t3", "u", ""⟩, false⟩]
    let last := (site.runAll start recordings).2
    (∃ old, site.Shows start true old ∧
      site.Shows last true ([⟨"t3", "u", ""⟩, ⟨"t1", "u", "r"⟩] ++ old)) ∧
    ∃ before after, site.Reports start before ∧ site.Reports last after ∧
      (after.get .savedSuggestions).toNat =
        min counterLimit ((before.get .savedSuggestions).toNat + 2) := by
  intro site start recordings last
  have h : site.Stands start := ⟨rfl, by decide +kernel, rfl, rfl, by decide +kernel,
    by decide +kernel, by decide +kernel, by decide +kernel, by decide +kernel, by decide +kernel⟩
  have hshow : ∀ b, ((site.showing b).run start).exitCode = 0 := by decide +kernel
  have hstats : (site.counting.run start).exitCode = 0 := by decide +kernel
  obtain ⟨hanswers, hstored, hsucceeded⟩ :
      let trace := (site.runAll start recordings).1
      (∀ ran ∈ trace, (perform (site.recordingOf ran.recording) ran.before).answer ∈
        [.ok (printed (Added.appended 1 1).toJson), .ok (printed (Added.appended 1 2).toJson),
          .error (.recording 2 (.invalidSuggestion "t2" "reason contains a line break"))]) ∧
      stored trace true = [⟨"t3", "u", ""⟩, ⟨"t1", "u", "r"⟩] ∧ succeeded trace = 2 := by
    decide +kernel
  have hs : ∀ ran ∈ (site.runAll start recordings).1, ¬ site.Unsaved ran := by
    rintro ran hran ⟨cause, hanswer⟩
    have hmem := hanswers ran hran
    rw [hanswer] at hmem
    simp at hmem
  obtain ⟨hshown, hreported, -⟩ := recordings_accumulate h hshow hstats recordings hs
  rw [hsucceeded] at hreported
  refine ⟨?_, hreported⟩
  obtain ⟨old, hbefore, hafter⟩ := hshown true
  rw [hstored] at hafter
  rcases hafter with hafter | ⟨-, hnone, -⟩
  · exact ⟨old, hbefore, hafter⟩
  · cases hnone

/-! ## Where they do not accumulate -/

/-- Where the path of the suggestions file is too long, a recording fails and leaves our directory. -/
theorem perform_overlong {site : Installation ι} {recording : Recording ι} {disk made : Disk}
    {above : Place} (h : site.Stands disk) {reporter : Reporter}
    (hopen : (openReporter site.config disk).1 = .ok reporter)
    (ho : (site.buildOf recording).Opened disk made above)
    (hl : (site.buildOf recording).Overlong) :
    let performed := perform (site.recordingOf recording) disk
    performed.answer = .error (.recording recording.buildId (.io .invalidFilename)) ∧
      performed.disk = made := by
  intro performed
  have hperformed : performed =
      performRecord site.config (site.buildOf recording) recording.suggestion disk :=
    perform_recordingOf h recording
  obtain ⟨ha, hd⟩ := Build.append_overlong ho hl (List.cons_ne_nil recording.suggestion [])
    site.config.serverIdentity reporter
  rw [hperformed, performRecord]
  rcases hr : openReporter site.config disk with ⟨answer, events⟩
  rw [hr] at hopen
  cases hopen
  dsimp only
  rw [ha]
  exact ⟨rfl, hd⟩

/-- There the suggestions of the build are shown until a recording has failed. -/
theorem hides_overlong {site : Installation ι} {recording : Recording ι} {disk made : Disk}
    {above : Place} (h : site.Stands disk) {reporter : Reporter}
    (hopen : (openReporter site.config disk).1 = .ok reporter)
    (ho : (site.buildOf recording).Opened disk made above)
    (hl : (site.buildOf recording).Overlong) :
    (∀ ran ∈ (site.runAll disk [recording]).1,
      (perform (site.recordingOf ran.recording) ran.before).answer =
        .error (.recording recording.buildId (.io .invalidFilename))) ∧
      site.Shows disk recording.directory [] ∧
      site.Hides (site.runAll disk [recording]).2 recording.directory (.io .invalidFilename) := by
  obtain ⟨hanswer, hdisk⟩ := perform_overlong h hopen ho hl
  have hlast : (site.runAll disk [recording]).2 = made :=
    (Invocation.run_error hanswer).2.2.trans hdisk
  have hmade : made = ((site.buildOf recording).resolve disk).disk := by rw [ho.resolve_eq]
  have hstands := (h.refused recording (.inr hmade)).1
  obtain ⟨hbefore, hafter⟩ := ho.view
  rw [if_pos hl] at hafter
  rw [hlast]
  refine ⟨List.forall_mem_singleton.2 hanswer, h.shows_of_view ?_, hstands.hides_of_view ?_⟩ <;>
    rw [shown, ← site.view_buildOf]
  · exact congrFun hbefore _
  · exact congrFun hafter _

/-- Recordings do not accumulate where a suggestions file has a path that is too long, or where the path
of the data directory leads through an artifacts directory. One failure ends what was shown before, and
another one brings counts to light. -/
theorem recordings_accumulate_beyond :
    let site (dataDirectory : String) (directory : Path) : Installation Unit :=
      ⟨⟨some ⟨"c"⟩, none, none⟩, ⟨"c"⟩, ⟨"s", some ⟨dataDirectory⟩, true⟩, ⟨dataDirectory⟩,
        fun _ => directory⟩
    let host : Tree := .directory [(hostDirectoryName, .directory [])]
    (let site := site "d" (.slashed "a" 4049)
      let start := configuredDisk "d" [("a", host)]
      let recording : Recording Unit := ⟨(), 7, ⟨"t", "u", "r"⟩, false⟩
      site.Stands start ∧ (site.counting.run start).exitCode = 0 ∧
        (∀ ran ∈ (site.runAll start [recording]).1,
          (perform (site.recordingOf ran.recording) ran.before).answer =
            .error (.recording 7 (.io .invalidFilename))) ∧
        site.Shows start () [] ∧
        site.Hides (site.runAll start [recording]).2 () (.io .invalidFilename)) ∧
    (let through := "a/.teamcity/investigationsAutoAssigner/../../../d"
      let site := site through ⟨"a"⟩
      let start := configuredDisk through [("a", host), ("d", .directory [(pluginDirectoryName,
        .directory [(statisticsFileName, .file (StatisticsStore.encode
          ⟨statisticsVersion, { savedSuggestions := some 5 }⟩))])])]
      let recording : Recording Unit := ⟨(), 7, ⟨"t", "u", "x\ny"⟩, false⟩
      site.settings.config start = .ok site.config ∧
        start.goal site.dataDirectory = ["d"] ∧ start.place (site.directories ()) = ["a"] ∧
        (∀ ran ∈ (site.runAll start [recording]).1,
          (perform (site.recordingOf ran.recording) ran.before).answer =
            .error (.recording 7 (.invalidSuggestion "t" "reason contains a line break"))) ∧
        site.Shows start () [] ∧ site.Reports start .fresh ∧
        site.Reports (site.runAll start [recording]).2
          ⟨statisticsVersion, { savedSuggestions := some 5 }⟩) := by
  intro site host
  refine ⟨?_, by decide +kernel⟩
  intro site start recording
  have hlow : 4045 ≤ 4049 := by omega
  have hhigh : 4049 ≤ 4057 := by omega
  obtain ⟨hl, made, ho⟩ : (Session.slashedBuild 4049).Overlong ∧ ∃ made,
      (Session.slashedBuild 4049).Opened start made ["a", hostDirectoryName] :=
    Session.opened_slashed hlow hhigh rfl rfl rfl rfl
  have hup : .up ∉ (site.directories ()).steps := by
    rw [Path.steps_slashed Session.isName_a]
    decide
  have hplace : start.place (site.directories ()) = ["a"] := by
    rw [← Disk.goal_eq_place hup, Disk.goal, Disk.start, Path.isAbsolute_slashed Session.isName_a,
      Path.steps_slashed Session.isName_a]
    rfl
  have h : site.Stands start := by
    refine ⟨rfl, by decide +kernel, rfl, rfl, fun _ => hup, fun b c hne => absurd rfl hne,
      fun _ => ?_, fun _ => ?_, fun _ => ?_, by decide +kernel⟩ <;> rw [hplace]
    · decide +kernel
    · decide +kernel
    · decide +kernel
  have hopen : (openReporter site.config start).1 =
      .ok ⟨.ofDataDirectory ⟨"d"⟩, .fresh, true⟩ := by decide +kernel
  exact ⟨h, by decide +kernel, hides_overlong h hopen ho hl⟩

end Installation

end Command

end Investigations
