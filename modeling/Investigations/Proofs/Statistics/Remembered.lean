/-
What a statistics store remembers. It leaves out a write of the statistics that it takes the file to
hold, and it is right about them once it has read the file or has written something else to it
(`write_lands`). Before that it takes the file to hold fresh statistics, whatever stands there: a write
of fresh statistics then answers that all is well and leaves the file as it is (`write_lands_unread`).
-/
import Investigations.Proofs.Statistics.Restart

namespace Investigations.StatisticsStore

open Files

/-! ## Runs of a store -/

/-- What happened to a store. -/
inductive Use where
  | read (answer : Except Error Statistics)
  | wrote (statistics : Statistics) (answer : Except Error Unit)
  /-- Others worked on files, and left the statistics file as it was. -/
  | elsewhere

/-- The runs of a store: it reads, it writes, and nobody else writes the statistics file. -/
inductive Run (store : StatisticsStore) (disk : Disk) : List Use → StatisticsStore → Disk → Prop
  | start : Run store disk [] store disk
  | read {past : List Use} {current : StatisticsStore} {left : Disk}
      (run : Run store disk past current left) :
      Run store disk (past ++ [.read (current.read left).answer]) (current.read left).store left
  | write {past : List Use} {current : StatisticsStore} {left : Disk}
      (run : Run store disk past current left) (statistics : Statistics) :
      Run store disk (past ++ [.wrote statistics (current.write left statistics).1.answer])
        (current.write left statistics).2 (current.write left statistics).1.disk
  | elsewhere {past : List Use} {current : StatisticsStore} {left next : Disk}
      (run : Run store disk past current left)
      (same : next.read current.path = left.read current.path) :
      Run store disk (past ++ [.elsewhere]) current next

/-- What the calls tell of the file: the statistics that were last read or written, and whether a store
that starts anew is sure to find them. -/
structure Memory where
  statistics : Statistics := .fresh
  sure : Bool := false
deriving DecidableEq, Repr

/-- What is known after one more call. A write that fails may have made directories, by which a path
that led nowhere comes to lead to a file; it is only of a file that was there that nothing is lost. -/
def Memory.after (memory : Memory) : Use → Memory
  | .read (.ok statistics) => ⟨statistics, true⟩
  | .wrote statistics (.ok ()) => ⟨statistics, memory.sure || memory.statistics ≠ statistics⟩
  | .wrote _ (.error _) => { memory with sure := memory.sure && memory.statistics ≠ .fresh }
  | .read (.error _) | .elsewhere => memory

/-- What is known after all calls of a run. -/
def memory (past : List Use) : Memory := past.foldl Memory.after {}

theorem memory_concat (past : List Use) (use : Use) :
    memory (past ++ [use]) = (memory past).after use := List.foldl_concat ..

/-! ## What a run keeps -/

/-- Where other than fresh statistics are read, there is a file. -/
theorem look_of_read_ne {store : StatisticsStore} {disk : Disk} {statistics : Statistics}
    (h : (store.read disk).answer = .ok statistics) (hn : statistics ≠ .fresh) :
    ∃ content, disk.look store.path = .ok (.file content) := by
  unfold read at h
  split at h
  · cases h
    exact absurd rfl hn
  · cases h
  · rename_i content hr
    exact ⟨content, Disk.look_of_read hr⟩

/-- What a store remembers stays if reading fails. -/
theorem read_error {store : StatisticsStore} {disk : Disk} {failure : Error}
    (h : (store.read disk).answer = .error failure) : (store.read disk).store = store := by
  unfold read at h ⊢
  split at h
  · cases h
  · rfl
  · split at h
    · rfl
    · cases h

/-- A write that fails leaves a file that is there as it is. -/
theorem read_of_write_error {store : StatisticsStore} {disk : Disk} {statistics found : Statistics}
    {failure : Error} (hf : (store.write disk statistics).1.answer = .error failure)
    (hr : (store.read disk).answer = .ok found) (hn : found ≠ .fresh) :
    (store.read (store.write disk statistics).1.disk).answer = .ok found := by
  obtain ⟨content, hl⟩ := look_of_read_ne hr hn
  have hchanged := (store.write_frame disk statistics).failed failure hf
  have hleft := hchanged.look_file hl fun _ _ => id
  refine (read_congr ?_).trans hr
  rw [Disk.read_eq, Disk.read_eq, hl, hleft]

/-- The store of a directory remembers what the calls tell. As long as they tell nothing for sure, that
is fresh statistics; otherwise it is what a store that starts anew reads. -/
structure Faithful (directory : Path) (known : Memory) (store : StatisticsStore) (disk : Disk) :
    Prop where
  directory : store.directory = directory
  remembers : store.onDisk = known.statistics
  unsure : known.sure = false → known.statistics = .fresh
  held : known.sure = true → known.statistics.version = statisticsVersion →
    (store.read disk).answer = .ok known.statistics

variable {directory : Path} {known : Memory} {store : StatisticsStore} {disk left : Disk}

theorem Faithful.read (h : Faithful directory known store disk) :
    Faithful directory (known.after (.read (store.read disk).answer)) (store.read disk).store
      disk := by
  rcases hr : (store.read disk).answer with failure | statistics
  · rw [read_error hr]
    exact h
  · obtain ⟨-, hstore⟩ := read_ok hr
    have hread : (StatisticsStore.read ⟨store.directory, statistics⟩ disk).answer =
        (store.read disk).answer := read_congr rfl
    rw [hstore]
    exact ⟨h.directory, rfl, nofun, fun _ _ => hread.trans hr⟩

theorem Faithful.write (h : Faithful directory known store disk) (statistics : Statistics) :
    Faithful directory (known.after (.wrote statistics (store.write disk statistics).1.answer))
      (store.write disk statistics).2 (store.write disk statistics).1.disk := by
  rcases store.write_cases disk statistics with ⟨hsame, he⟩ | ⟨-, failure, he⟩ | ⟨written, hr, he⟩
  · -- What is remembered is not written, and nothing else is known than before.
    have hknown : known.after (.wrote statistics (.ok ())) = known := by
      rw [h.remembers] at hsame
      simp [Memory.after, ← hsame]
    rw [he, hknown]
    exact h
  · have herror : (store.write disk statistics).1.answer = .error failure := by rw [he]
    rw [write_store herror, herror]
    refine ⟨h.directory, h.remembers, fun hs => ?_, fun hs hv => ?_⟩
    · simp only [Memory.after, ne_eq, Bool.and_eq_false_iff, decide_eq_false_iff_not, not_not] at hs
      exact hs.elim h.unsure id
    · simp only [Memory.after, ne_eq, Bool.and_eq_true, decide_eq_true_eq] at hs
      exact read_of_write_error herror (h.held hs.1 hv) hs.2
  · have hread : written.read store.path = .ok (encode statistics) := by
      rw [Disk.read_eq, (Disk.replace_ok hr).2]
    rw [he]
    refine ⟨h.directory, rfl, fun hs => ?_, fun _ hv => read_encode hv hread⟩
    simp only [Memory.after, ne_eq, Bool.or_eq_false_iff, decide_eq_false_iff_not, not_not] at hs
    exact hs.2.symm.trans (h.unsure hs.1)

theorem Faithful.elsewhere (h : Faithful directory known store disk)
    (same : left.read store.path = disk.read store.path) : Faithful directory known store left :=
  ⟨h.directory, h.remembers, h.unsure, fun hs hv => (read_congr same).trans (h.held hs hv)⟩

theorem Run.faithful {past : List Use} {current : StatisticsStore} {dataDirectory : Path}
    (run : Run (.ofDataDirectory dataDirectory) disk past current left) :
    Faithful (dataDirectory.child pluginDirectoryName) (memory past) current left := by
  induction run with
  | start => exact ⟨rfl, rfl, fun _ => rfl, nofun⟩
  | read _ ih =>
    rw [memory_concat]
    exact ih.read
  | write _ statistics ih =>
    rw [memory_concat]
    exact ih.write statistics
  | elsewhere _ same ih =>
    rw [memory_concat]
    exact ih.elsewhere same

/-- A write that is said to have gone well is on disk. In every run of a store, statistics of the current
version are read back by a store that starts anew, if they are not the fresh ones or if the run tells
what the file holds. Fresh statistics of which it does not tell are taken to be there, and the write is
left out. -/
theorem write_lands {past : List Use} {current : StatisticsStore} {dataDirectory : Path}
    (run : Run (.ofDataDirectory dataDirectory) disk past current left) {statistics : Statistics}
    (hv : statistics.version = statisticsVersion)
    (hok : (current.write left statistics).1.answer = .ok ()) :
    (statistics ≠ .fresh ∨ (memory past).sure = true →
      ((ofDataDirectory dataDirectory).read (current.write left statistics).1.disk).answer =
        .ok statistics) ∧
    (statistics = .fresh → (memory past).sure = false →
      current.write left statistics = (⟨.ok (), left, []⟩, current)) := by
  have hfaithful := run.faithful
  refine ⟨fun hknown => ?_, fun hs hu => ?_⟩
  · have hafter := hfaithful.write statistics
    rw [hok] at hafter
    have hsure : (memory past).sure = true ∨ (memory past).statistics ≠ statistics := by
      rcases hknown with hn | hs
      · by_cases hu : (memory past).sure = true
        · exact .inl hu
        · refine .inr ?_
          rw [hfaithful.unsure (by simpa using hu)]
          exact Ne.symm hn
      · exact .inl hs
    have hread := hafter.held (by simpa [Memory.after] using hsure) hv
    refine (read_congr ?_).trans hread
    rw [path, path, hafter.directory]
    rfl
  · have hsame : current.onDisk = statistics := by rw [hfaithful.remembers, hfaithful.unsure hu, hs]
    rw [write, if_pos hsame]

/-- The disk with this file as the statistics file of the data directory `d`. -/
def diskWith (content : List UInt8) : Disk where
  root := .directory [("d", .directory [(pluginDirectoryName,
    .directory [(statisticsFileName, .file content)])])]
  cwd := []

/-- Five suggestions were saved, and nothing else is counted. -/
def fiveSaved : Statistics := Statistics.fresh.increase .savedSuggestions 5

/-- A store that has read the file writes fresh statistics over what was counted. -/
theorem write_lands_fresh :
    let store := ofDataDirectory ⟨"d"⟩
    let disk := diskWith (encode fiveSaved)
    let current := (store.read disk).store
    let written := (current.write disk .fresh).1
    Run store disk [.read (.ok fiveSaved)] current disk ∧ written.answer = .ok () ∧
      (store.read written.disk).answer = .ok .fresh := by
  intro store disk current written
  have hread : (store.read disk).answer = .ok fiveSaved := by decide +kernel
  have hrun : Run store disk [.read (.ok fiveSaved)] current disk := by
    rw [← hread]
    exact Run.start.read
  have hok : written.answer = .ok () := by decide +kernel
  exact ⟨hrun, hok, (write_lands hrun rfl hok).1 (.inr rfl)⟩

/-- A store that was just made leaves out the write of fresh statistics, though the file holds others
and is to hold these. -/
theorem write_lands_unread :
    let store := ofDataDirectory ⟨"d"⟩
    let disk := diskWith (encode fiveSaved)
    let written := (store.write disk .fresh).1
    Run store disk [] store disk ∧ Statistics.fresh.version = statisticsVersion ∧
      written.answer = .ok () ∧ (store.read written.disk).answer = .ok fiveSaved ∧
      fiveSaved ≠ .fresh := by
  intro store disk written
  exact ⟨.start, rfl, by decide +kernel, by decide +kernel, by decide⟩

end Investigations.StatisticsStore
