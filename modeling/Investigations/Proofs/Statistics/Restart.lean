/-
Restarts of the plugin. Whenever a reporter has saved, a reporter that starts anew finds the very
counts that the first one had, however often they were saved before and whatever failed in between
(`run_survives`). A reporter knows what is on disk, or has counted more than that; in the one case
there is nothing to save, and in the other a failure to save takes nothing away.
-/
import Investigations.Proofs.Frame
import Investigations.Proofs.Statistics.Document

namespace Investigations

open Files

/-! ## Reading statistics -/

namespace StatisticsStore

theorem ofText_pretty {statistics : Statistics} (h : statistics.version = statisticsVersion) :
    Content.ofText statistics.toJson.pretty = .current statistics := by
  rw [Content.ofText, statistics.parse?_pretty]
  exact if_pos h

theorem version_of_content (content : String) :
    (Content.ofText content).statistics.version = statisticsVersion := by
  unfold Content.ofText
  split
  · rfl
  · split
    · assumption
    · rfl

/-- What reading gives is decided by the bytes of the file. -/
theorem read_congr {store other : StatisticsStore} {disk left : Disk}
    (h : disk.read store.path = left.read other.path) :
    (store.read disk).answer = (other.read left).answer := by
  unfold read
  rw [h]
  rcases left.read other.path with fault | bytes
  · cases fault <;> rfl
  · dsimp only
    rcases Utf8.decode? bytes with _ | text <;> rfl

/-- Statistics that were read have the current version, and the store remembers them. -/
theorem read_ok {store : StatisticsStore} {disk : Disk} {statistics : Statistics}
    (h : (store.read disk).answer = .ok statistics) :
    statistics.version = statisticsVersion ∧
      (store.read disk).store = { store with onDisk := statistics } := by
  unfold read at h ⊢
  split at h
  · cases h
    exact ⟨rfl, rfl⟩
  · cases h
  · split at h
    · cases h
    · rename_i text _
      cases h
      exact ⟨version_of_content text, rfl⟩

/-- Statistics that were written are read. -/
theorem read_encode {store : StatisticsStore} {disk : Disk} {statistics : Statistics}
    (hv : statistics.version = statisticsVersion)
    (h : disk.read store.path = .ok (encode statistics)) :
    (store.read disk).answer = .ok statistics := by
  unfold read
  rw [h]
  dsimp only
  rw [encode, Utf8.decode?_encode]
  dsimp only
  rw [ofText_pretty hv]
  rfl

end StatisticsStore

/-! ## Runs of a reporter -/

namespace Reporter

/-- What happened while a reporter was running. -/
inductive Happening where
  | counted (usage : Usage)
  | saved (answer : Except Error Unit)
  /-- Others worked on files, and left the statistics file as it was. -/
  | elsewhere

/-- The runs of a reporter: it counts, it saves, and nobody else writes the statistics file. -/
inductive Run (reporter : Reporter) (disk : Disk) : List Happening → Reporter → Disk → Prop
  | start : Run reporter disk [] reporter disk
  | report {past : List Happening} {current : Reporter} {left : Disk}
      (run : Run reporter disk past current left) (usage : Usage) :
      Run reporter disk (past ++ [.counted usage]) (current.report usage) left
  | save {past : List Happening} {current : Reporter} {left : Disk}
      (run : Run reporter disk past current left) :
      Run reporter disk (past ++ [.saved (current.save left).1.answer]) (current.save left).2
        (current.save left).1.disk
  | elsewhere {past : List Happening} {current : Reporter} {left next : Disk}
      (run : Run reporter disk past current left)
      (same : next.read current.store.path = left.read current.store.path) :
      Run reporter disk (past ++ [.elsewhere]) current next

/-- All that was counted in a run, in order. -/
def counted (past : List Happening) : List Usage :=
  past.filterMap fun
    | .counted usage => some usage
    | _ => none

/-- Nothing was counted since the start of the run or since a save that succeeded. -/
def Settled (past : List Happening) : Prop :=
  ∃ before after, past = before ++ after ∧
    (before = [] ∨ before.getLast? = some (.saved (.ok ()))) ∧ ∀ usage, .counted usage ∉ after

theorem settled_concat {past : List Happening} {last : Happening} (h : Settled (past ++ [last])) :
    last = .saved (.ok ()) ∨ (∀ usage, last ≠ .counted usage) ∧ Settled past := by
  obtain ⟨before, after, he, hb, ha⟩ := h
  rcases List.eq_nil_or_concat after with rfl | ⟨after, end', rfl⟩
  · rw [List.append_nil] at he
    rcases hb with rfl | hb
    · simp at he
    · rw [← he, List.getLast?_concat] at hb
      exact .inl (Option.some.inj hb)
  · rw [List.concat_eq_append, ← List.append_assoc] at he
    obtain ⟨hpast, hlast⟩ := List.append_inj' he rfl
    cases hlast
    refine .inr ⟨?_, before, after, hpast, hb, fun usage hm => ha usage (by simp [hm])⟩
    rintro usage rfl
    exact ha usage (by simp)

/-! ## What a run keeps -/

/-- A reporter of a directory: what it remembers of the file is what the file holds, unless there are
newer counts to be saved. These have never gone down. -/
structure Sound (directory : Path) (reporter : Reporter) (disk : Disk) : Prop where
  directory : reporter.store.directory = directory
  enabled : reporter.enabled = true
  version : reporter.statistics.version = statisticsVersion
  within : reporter.store.onDisk.Within reporter.statistics
  known : reporter.statistics ≠ reporter.store.onDisk ∨
    (reporter.store.read disk).answer = .ok reporter.store.onDisk

theorem path_eq {a b : StatisticsStore} (h : a.directory = b.directory) : a.path = b.path := by
  unfold StatisticsStore.path
  rw [h]

theorem sound_new {store : StatisticsStore} {disk : Disk} {reporter : Reporter} {events : List Event}
    (h : Reporter.new store true disk = (.ok reporter, events)) :
    Sound store.directory reporter disk ∧ reporter.statistics = reporter.store.onDisk := by
  unfold new at h
  dsimp only at h
  rcases hr : (store.read disk).answer with failure | statistics
  · rw [hr] at h
    cases h
  · obtain ⟨hv, hs⟩ := StatisticsStore.read_ok hr
    rw [hr, hs] at h
    cases h
    have hread : (StatisticsStore.read ⟨store.directory, statistics⟩ disk).answer =
        (store.read disk).answer := StatisticsStore.read_congr rfl
    exact ⟨⟨rfl, rfl, hv, .refl _, .inr (hread.trans hr)⟩, rfl⟩

variable {directory : Path} {reporter : Reporter} {disk left : Disk}

theorem Sound.report (h : Sound directory reporter disk) (usage : Usage) :
    Sound directory (reporter.report usage) disk := by
  have hmore := Statistics.within_increase reporter.statistics usage.counter usage.amount
  refine ⟨h.directory, h.enabled, h.version, h.within.trans hmore, ?_⟩
  by_cases he : reporter.statistics.increase usage.counter usage.amount = reporter.store.onDisk
  · -- What is counted now is on disk, so it was all counted before.
    have hless := h.within
    rw [← he] at hless
    have hsame := hmore.antisymm hless
    rcases h.known with hk | hk
    · exact absurd (hsame.trans he) hk
    · exact .inr hk
  · exact .inl he

theorem Sound.elsewhere (h : Sound directory reporter disk)
    (same : left.read reporter.store.path = disk.read reporter.store.path) :
    Sound directory reporter left :=
  ⟨h.directory, h.enabled, h.version, h.within,
    h.known.imp_right fun hk => (StatisticsStore.read_congr same).trans hk⟩

/-- What saving comes to: the file holds the counts and the reporter knows, or saving has failed and
there are counts left to be saved. -/
theorem Sound.save_cases (h : Sound directory reporter disk) :
    ((reporter.save disk).1.answer = .ok () ∧
      (reporter.save disk).2 =
        { reporter with store := { reporter.store with onDisk := reporter.statistics } } ∧
      (reporter.store.read (reporter.save disk).1.disk).answer = .ok reporter.statistics) ∨
    ((∃ failure, (reporter.save disk).1.answer = .error failure) ∧
      reporter.statistics ≠ reporter.store.onDisk ∧ (reporter.save disk).2 = reporter) := by
  rw [save, if_pos h.enabled]
  dsimp only
  rcases reporter.store.write_cases disk reporter.statistics with
    ⟨hsame, he⟩ | ⟨hother, failure, he⟩ | ⟨written, hr, he⟩ <;> rw [he]
  · refine .inl ⟨rfl, by rw [← hsame], ?_⟩
    rcases h.known with hk | hk
    · exact absurd hsame.symm hk
    · rw [← hsame]
      exact hk
  · exact .inr ⟨⟨failure, rfl⟩, Ne.symm hother, rfl⟩
  · refine .inl ⟨rfl, rfl, StatisticsStore.read_encode h.version ?_⟩
    rw [Disk.read_eq, (Disk.replace_ok hr).2]

theorem Sound.save (h : Sound directory reporter disk) :
    Sound directory (reporter.save disk).2 (reporter.save disk).1.disk := by
  rcases h.save_cases with ⟨-, he, hread⟩ | ⟨-, hother, he⟩ <;> rw [he]
  · have hsame : (StatisticsStore.read ⟨reporter.store.directory, reporter.statistics⟩
        (reporter.save disk).1.disk).answer =
        (reporter.store.read (reporter.save disk).1.disk).answer := StatisticsStore.read_congr rfl
    exact ⟨h.directory, h.enabled, h.version, .refl _, .inr (hsame.trans hread)⟩
  · exact ⟨h.directory, h.enabled, h.version, h.within, .inl hother⟩

/-- With nothing new to save, saving does nothing. -/
theorem save_of_known (h : Sound directory reporter disk)
    (hk : reporter.statistics = reporter.store.onDisk) :
    reporter.save disk = (⟨.ok (), disk, []⟩, reporter) := by
  rw [Reporter.save, if_pos h.enabled, StatisticsStore.write, if_pos hk.symm]

theorem Run.sound {past : List Happening} {current : Reporter} (h : Sound directory reporter disk)
    (run : Run reporter disk past current left) : Sound directory current left := by
  induction run with
  | start => exact h
  | report _ usage ih => exact ih.report usage
  | save _ ih => exact ih.save
  | elsewhere _ same ih => exact ih.elsewhere same

theorem Run.statistics {past : List Happening} {current : Reporter}
    (h : Sound directory reporter disk) (run : Run reporter disk past current left) :
    current.statistics = (counted past).foldl
      (fun statistics usage => statistics.increase usage.counter usage.amount)
      reporter.statistics := by
  unfold counted
  induction run with
  | start => rfl
  | report _ usage ih =>
    rw [List.filterMap_append, List.foldl_append, ← ih]
    rfl
  | save run ih =>
    rw [List.filterMap_append, List.foldl_append, ← ih]
    rcases (run.sound h).save_cases with ⟨-, he, -⟩ | ⟨-, -, he⟩ <;> rw [he] <;> rfl
  | elsewhere _ _ ih =>
    rw [List.filterMap_append, List.foldl_append, ← ih]
    rfl

/-- As long as nothing is counted after a save, or after the start, the file is known to hold all
counts. -/
theorem Run.known {past : List Happening} {current : Reporter} (h : Sound directory reporter disk)
    (hk : reporter.statistics = reporter.store.onDisk) (run : Run reporter disk past current left)
    (hs : Settled past) : current.statistics = current.store.onDisk := by
  induction run with
  | start => exact hk
  | report _ usage ih =>
    rcases settled_concat hs with he | ⟨hn, -⟩
    · cases he
    · exact absurd rfl (hn usage)
  | save run ih =>
    rcases (run.sound h).save_cases with ⟨-, he, -⟩ | ⟨⟨failure, ha⟩, hother, -⟩
    · rw [he]
    · rcases settled_concat hs with he | ⟨-, hs⟩
      · rw [ha] at he
        cases he
      · exact absurd (ih hs) hother
  | elsewhere _ _ ih =>
    rcases settled_concat hs with he | ⟨-, hs⟩
    · cases he
    · exact ih hs

/-- Saved counts survive a restart. In every run of a reporter the counts are those from its start and
all that was counted since, and whenever they are saved, a reporter that starts anew has exactly
these. With nothing counted since the start or since a save that succeeded, a save leaves all files
as they are. -/
theorem run_survives {dataDirectory : Path} {events : List Event} {past : List Happening}
    {current : Reporter}
    (hnew : Reporter.new (.ofDataDirectory dataDirectory) true disk = (.ok reporter, events))
    (run : Run reporter disk past current left) :
    current.statistics = (counted past).foldl
        (fun statistics usage => statistics.increase usage.counter usage.amount)
        reporter.statistics ∧
      (let saved := current.save left
       saved.1.answer = .ok () → saved.2.statistics = current.statistics ∧ ∀ enabled,
         ∃ restarted, (Reporter.new (.ofDataDirectory dataDirectory) enabled saved.1.disk).1 =
           .ok restarted ∧ restarted.statistics = current.statistics) ∧
      (Settled past → current.save left = (⟨.ok (), left, []⟩, current)) := by
  obtain ⟨hsound, hknown⟩ := sound_new hnew
  have hcurrent := run.sound hsound
  refine ⟨run.statistics hsound, fun hok => ?_, fun hs =>
    save_of_known hcurrent (run.known hsound hknown hs)⟩
  rcases hcurrent.save_cases with ⟨-, he, hread⟩ | ⟨⟨failure, ha⟩, -⟩
  · refine ⟨by rw [he], fun enabled => ?_⟩
    have hpath : (StatisticsStore.ofDataDirectory dataDirectory).path = current.store.path :=
      path_eq hcurrent.directory.symm
    have hnew' := (StatisticsStore.read_congr (by rw [hpath])).trans hread
    unfold new
    dsimp only
    rw [hnew']
    exact ⟨_, rfl, rfl⟩
  · rw [ha] at hok
    cases hok

/-- A counter that was told of nothing has a value from then on, and keeps it over a restart. -/
theorem run_survives_zero :
    let store : StatisticsStore := .ofDataDirectory ⟨"d"⟩
    let reporter : Reporter := ⟨store, .fresh, true⟩
    let disk : Disk := ⟨.directory [], []⟩
    let past : List Happening :=
      [.counted (.assignedInvestigations 0), .counted (.savedSuggestions counterLimit)]
    let current := (reporter.report (.assignedInvestigations 0)).report (.savedSuggestions counterLimit)
    Reporter.new store true disk = (.ok reporter, []) ∧ Run reporter disk past current disk ∧
      (current.save disk).1.answer = .ok () ∧
      current.statistics.values.assignedInvestigations = some 0 ∧
      ∃ restarted, (Reporter.new store true (current.save disk).1.disk).1 = .ok restarted ∧
        restarted.statistics = current.statistics := by
  intro store reporter disk past current
  have hnew : Reporter.new store true disk = (.ok reporter, []) := by decide +kernel
  have hrun : Run reporter disk past current disk := (Run.start.report _).report _
  have hok : (current.save disk).1.answer = .ok () := by decide +kernel
  exact ⟨hnew, hrun, hok, by decide +kernel, ((run_survives hnew hrun).2.1 hok).2 true⟩

end Reporter

end Investigations
